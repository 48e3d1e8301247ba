import NetOpsBench.Models.InterfaceAliases

/-!
# Labels outside the four families

A label that no pattern reads has its family name shortened and its separators deleted. What reads
like a Linux name after that is more than the Linux names.
-/

namespace NetOpsBench.Models

def ethernetWord : List Char := ['e', 't', 'h', 'e', 'r', 'n', 'e', 't']

def ethWord : List Char := ['e', 't', 'h']

/-- A text without its separators. -/
def bare (text : List Char) : List Char := (text.filter (· ≠ '/')).filter (· ≠ '-')

/-- What becomes of a label that no pattern reads. -/
def contract (text : List Char) : List Char :=
  bare (Replace.all ethernetWord ethWord (Replace.all (ethernetWord ++ ['-']) ethWord text))

/-- A text reads like the Linux name of a port once separators are deleted, or has between
separators the word `ethernet`, or `ethernet-ernet`, before the number. -/
def Scrambled (port : ℕ) (text : List Char) : Prop :=
  bare text = ethWord ++ port.repr.toList ∨
    ∃ before name after, text = before ++ (name ++ after) ∧ bare before = [] ∧
      (name = ethernetWord ∨ name = ethernetWord ++ "-ernet".toList) ∧
      bare after = port.repr.toList

/-! ## Separators -/

theorem bare_append (start rest : List Char) : bare (start ++ rest) = bare start ++ bare rest := by
  rw [bare, List.filter_append, List.filter_append]
  rfl

theorem bare_cons (c : Char) (text : List Char) :
    bare (c :: text) = if c = '/' ∨ c = '-' then bare text else c :: bare text := by
  unfold bare
  by_cases hslash : c = '/'
  · rw [if_pos (.inl hslash), List.filter_cons_of_neg (by simpa using hslash)]
  · rw [List.filter_cons_of_pos (by simpa using hslash)]
    by_cases hdash : c = '-'
    · rw [if_pos (.inr hdash), List.filter_cons_of_neg (by simpa using hdash)]
    · rw [if_neg (not_or.mpr ⟨hslash, hdash⟩), List.filter_cons_of_pos (by simpa using hdash)]

/-- The letters of the family name are kept. -/
theorem mem_bare {c : Char} (hc : c ∈ ethernetWord) {text : List Char} : c ∈ bare text ↔ c ∈ text := by
  have hne : c ≠ '/' ∧ c ≠ '-' := by
    constructor <;> rintro rfl <;> exact absurd hc (by decide)
  unfold bare
  simp only [List.mem_filter, decide_eq_true_eq]
  exact ⟨fun h => h.1.1, fun h => ⟨⟨h, hne.1⟩, hne.2⟩⟩

theorem not_mem_of_bare_eq_nil {c : Char} (hc : c ∈ ethernetWord) {text : List Char}
    (h : bare text = []) : c ∉ text := fun hmem => by
  rw [← mem_bare hc, h] at hmem
  cases hmem

section
variable {port : ℕ} {before after text out : List Char}

theorem not_mem_repr {c : Char} (hc : c ∈ ethernetWord) : c ∉ port.repr.toList := fun hmem => by
  have hdigit := isDigit_of_mem_repr hmem
  have hletters : ethernetWord.all fun letter => !letter.isDigit := by decide
  rw [Bool.not_eq_true' _ |>.mp (List.all_eq_true.mp hletters c hc)] at hdigit
  cases hdigit

/-- There are no letters in the number. -/
theorem not_mem_number {c : Char} (hc : c ∈ ethernetWord) (h : bare after = port.repr.toList) :
    c ∉ after := fun hmem => @not_mem_repr port c hc (h ▸ (mem_bare hc).mpr hmem)

/-! ## What comes down to a Linux name -/

/-- One replacement keeps the name, or there is one occurrence of the old word in the place of
`eth`. -/
theorem bare_of_replaced {old : List Char} (h : Replace.Replaced old ethWord text out)
    (hout : bare out = ethWord ++ port.repr.toList) :
    bare text = ethWord ++ port.repr.toList ∨
      ∃ before after, text = before ++ (old ++ after) ∧ out = before ++ (ethWord ++ after) ∧
        bare before = [] ∧ bare after = port.repr.toList := by
  induction h with
  | nil => cases hout
  | @keep c text out h ih =>
    by_cases hc : c = '/' ∨ c = '-'
    · rw [bare_cons, if_pos hc] at hout
      rcases ih hout with hsame | ⟨before, after, rfl, rfl, hbefore, hafter⟩
      · exact .inl (by rw [bare_cons, if_pos hc, hsame])
      · exact .inr ⟨c :: before, after, rfl, rfl, by rw [bare_cons, if_pos hc, hbefore], hafter⟩
    · -- the first letter is kept, and no other stands where `eth` could start
      have hrest := hout
      rw [bare_cons, if_neg hc] at hrest
      have htail : bare out = ['t', 'h'] ++ port.repr.toList := (List.cons.inj hrest).2
      have hletter : 'e' ∉ out := fun hmem => by
        rw [← mem_bare (by decide), htail, List.mem_append] at hmem
        exact hmem.elim (by decide) (not_mem_repr (by decide))
      have hsame := h.eq_of_not_mem (List.mem_cons_self : 'e' ∈ ethWord) hletter
      exact .inl (by rw [hsame, hout])
  | @replace text out h ih =>
    have hafter : bare out = port.repr.toList := by
      rw [bare_append] at hout
      exact List.append_cancel_left hout
    have hsame := h.eq_of_not_mem (List.mem_cons_self : 'e' ∈ ethWord)
      (not_mem_number (by decide) hafter)
    exact .inr ⟨[], out, by rw [hsame]; rfl, rfl, rfl, hafter⟩

/-- The family name comes from itself, or from the word that the shorter one is put in the place
of. -/
theorem ethernet_of_replaced {old : List Char} (hbefore : bare before = [])
    (hafter : bare after = port.repr.toList)
    (h : Replace.Replaced old ethWord text (before ++ (ethernetWord ++ after))) :
    text = before ++ (ethernetWord ++ after) ∨
      text = before ++ (old ++ ("ernet".toList ++ after)) := by
  induction before generalizing text with
  | nil =>
    have hrest {text : List Char} (h : Replace.Replaced old ethWord text ("ernet".toList ++ after)) :
        text = "ernet".toList ++ after := by
      refine h.eq_of_not_mem (c := 'h') (by decide) ?_
      rw [List.mem_append]
      exact not_or.mpr ⟨by decide, not_mem_number (by decide) hafter⟩
    rcases h.inv with ⟨-, hnil⟩ | ⟨c, text, out, rfl, hout, hfirst⟩ | ⟨text, out, rfl, hout, hlast⟩
    · cases hnil
    · obtain ⟨rfl, rfl⟩ := List.cons.inj hout
      obtain ⟨text, rfl, hsecond⟩ := hfirst.cons (by decide)
      obtain ⟨text, rfl, hthird⟩ := hsecond.cons (by decide)
      exact .inl (by rw [hrest hthird]; rfl)
    · cases (List.append_right_inj ethWord).mp hout
      exact .inr (by rw [hrest hlast]; rfl)
  | cons c before ih =>
    rw [bare_cons] at hbefore
    split at hbefore
    · rename_i hc
      obtain ⟨text, rfl, htail⟩ := h.cons (by rintro rfl; exact absurd hc (by decide))
      rcases ih hbefore htail with rfl | rfl
      · exact .inl rfl
      · exact .inr rfl
    · cases hbefore

/-- What reads like a Linux name without its separators is scrambled. -/
theorem scrambled_of_contract (h : contract text = ethWord ++ port.repr.toList) :
    Scrambled port text := by
  unfold contract at h
  have hfirst : Replace.Replaced (ethernetWord ++ ['-']) ethWord text
      (Replace.all (ethernetWord ++ ['-']) ethWord text) := Replace.replaced_all (by decide) text
  rcases bare_of_replaced (Replace.replaced_all (by decide : ethernetWord ≠ []) _) h with
    hbare | ⟨before, after, hmiddle, -, hbefore, hafter⟩
  · rcases bare_of_replaced hfirst hbare with hbare | ⟨before, after, rfl, -, hbefore, hafter⟩
    · exact .inl hbare
    · refine .inr ⟨before, ethernetWord, '-' :: after, ?_, hbefore, .inl rfl, ?_⟩
      · rw [List.append_assoc]
        rfl
      · rw [bare_cons, if_pos (.inr rfl), hafter]
  · rw [hmiddle] at hfirst
    rcases ethernet_of_replaced hbefore hafter hfirst with rfl | rfl
    · exact .inr ⟨before, ethernetWord, after, rfl, hbefore, .inl rfl, hafter⟩
    · exact .inr ⟨before, ethernetWord ++ "-ernet".toList, after, by simp, hbefore, .inr rfl, hafter⟩

/-! ## What scrambled labels come down to -/

/-- The longer family name stands at the start of a text only, and only before a dash. -/
theorem all_ethernet_dash (hafter : bare after = port.repr.toList) :
    ∃ rest, Replace.all (ethernetWord ++ ['-']) ethWord (ethernetWord ++ after) = rest ∧
      (rest = ethernetWord ++ after ∨ ∃ tail, rest = ethWord ++ tail ∧ bare tail = bare after) := by
  have hletter {c : Char} (hc : c ∈ ethernetWord) : c ∉ after := not_mem_number hc hafter
  cases after with
  | nil => exact ⟨_, Replace.all_eq_self (by decide), .inl rfl⟩
  | cons c after =>
    by_cases hdash : c = '-'
    · subst hdash
      refine ⟨ethWord ++ after, ?_, .inr ⟨after, rfl, ?_⟩⟩
      · have hself : Replace.all (ethernetWord ++ ['-']) ethWord after = after :=
          Replace.all_eq_self_of_not_mem (c := 'r') (by decide)
            fun hmem => hletter (c := 'r') (by decide) (List.mem_cons_of_mem _ hmem)
        have hmatch : Replace.all (ethernetWord ++ ['-']) ethWord (ethernetWord ++ ['-'] ++ after) =
            ethWord ++ Replace.all (ethernetWord ++ ['-']) ethWord after :=
          Replace.all_append_of_match (by decide) after
        rw [hself] at hmatch
        exact hmatch
      · rw [bare_cons, if_pos (.inr rfl)]
    · refine ⟨_, Replace.all_eq_self ?_, .inl rfl⟩
      rintro ⟨start, rest, hsplit⟩
      cases start with
      | nil => exact hdash (List.cons.inj ((List.append_right_inj ethernetWord).mp
          (hsplit.symm.trans rfl))).1
      | cons d start =>
        -- one of its three `e` stands before it
        have hfirst : d = 'e' := (List.cons.inj hsplit).1
        have hcount := congrArg (List.count 'e') hsplit
        have hzero := List.count_eq_zero.mpr (hletter (c := 'e') (by decide))
        have hword : ethernetWord.count 'e' = 3 := by decide
        rw [List.count_append, List.count_append, List.count_append, List.count_append, hzero, hword,
          hfirst, List.count_cons_self] at hcount
        omega

theorem contract_ethernet (hbefore : bare before = []) (hafter : bare after = port.repr.toList) :
    bare (Replace.all ethernetWord ethWord (before ++ (ethernetWord ++ after))) =
      ethWord ++ port.repr.toList := by
  rw [Replace.all_append_of_not_mem (c := 'e') rfl (not_mem_of_bare_eq_nil (by decide) hbefore),
    Replace.all_append_of_match (by decide),
    Replace.all_eq_self_of_not_mem (c := 'r') (by decide) (not_mem_number (by decide) hafter),
    bare_append, bare_append, hbefore, hafter]
  rfl

theorem contract_of_scrambled (h : Scrambled port text) :
    contract text = ethWord ++ port.repr.toList := by
  unfold contract
  have hself {old text : List Char} (hr : 'r' ∈ old) (htext : 'r' ∉ text) :
      Replace.all old ethWord text = text := Replace.all_eq_self_of_not_mem hr htext
  rcases h with hbare | ⟨before, name, after, rfl, hbefore, rfl | rfl, hafter⟩
  · have hletter : 'r' ∉ text := fun hmem => by
      rw [← mem_bare (by decide), hbare, List.mem_append] at hmem
      exact hmem.elim (by decide) (not_mem_repr (by decide))
    rw [hself (by decide) hletter, hself (by decide) hletter, hbare]
  · have hstart := not_mem_of_bare_eq_nil (c := 'e') (by decide) hbefore
    rw [Replace.all_append_of_not_mem (c := 'e') rfl hstart]
    obtain ⟨rest, hrest, rfl | ⟨tail, rfl, htail⟩⟩ := all_ethernet_dash hafter
    · rw [hrest]
      exact contract_ethernet hbefore hafter
    · rw [hrest, hself (by decide)]
      · rw [bare_append, bare_append, hbefore, htail, hafter]
        rfl
      · rw [List.mem_append, List.mem_append]
        exact not_or.mpr ⟨not_mem_of_bare_eq_nil (by decide) hbefore,
          not_or.mpr ⟨by decide, not_mem_number (by decide) (htail.trans hafter)⟩⟩
  · have hstart := not_mem_of_bare_eq_nil (c := 'e') (by decide) hbefore
    have hname : ethernetWord ++ "-ernet".toList ++ after =
        (ethernetWord ++ ['-']) ++ ("ernet".toList ++ after) := by simp
    have htail : 'h' ∉ "ernet".toList ++ after := by
      rw [List.mem_append]
      exact not_or.mpr ⟨by decide, not_mem_number (by decide) hafter⟩
    rw [Replace.all_append_of_not_mem (c := 'e') rfl hstart, hname,
      Replace.all_append_of_match (by decide), Replace.all_eq_self_of_not_mem (c := 'h') (by decide)
        htail]
    exact contract_ethernet hbefore hafter

/-- A label that no pattern reads comes down to a Linux name just when it is scrambled. -/
theorem contract_eq_iff : contract text = ethWord ++ port.repr.toList ↔ Scrambled port text :=
  ⟨scrambled_of_contract, contract_of_scrambled⟩

end

end NetOpsBench.Models
