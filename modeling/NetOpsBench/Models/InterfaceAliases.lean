import NetOpsBench.Models.InterfaceNames

/-!
# The labels of a port

Four families of labels name a front-panel port. Each label of a port has the same normal form, and
two labels are equivalent when they name the same port.
-/

namespace NetOpsBench.Models

/-! ## Aliases -/

def interfaceAliases (interfaceName : String) : List String :=
  let rawName := Python.strip interfaceName
  if rawName = "" then []
  else
    let normalized := normalizeInterfaceName rawName
    let known :=
      match (linuxPort normalized).filter (1 ≤ ·) with
      | some ethIdx =>
        [ethName ethIdx, "e1-" ++ toString ethIdx, "ethernet-1/" ++ toString ethIdx,
          ethernetName ((ethIdx - 1) * 4)]
      | none => []
    -- a name that is empty is no alias
    [rawName] ++ [normalized].filter (· ≠ "") ++ known ++
      [toSonicInterface rawName].filter (· ≠ "") ++ [toLinuxInterface rawName].filter (· ≠ "")

def areInterfacesEquivalent (left right : String) : Bool :=
  if left = "" ∨ right = "" then false
  else if normalizeInterfaceName left = normalizeInterfaceName right then true
  else (interfaceAliases left).any (· ∈ interfaceAliases right)

/-! ## Spellings -/

inductive LabelFamily where
  | linux
  | eStyle
  | vendor
  | sonic
deriving DecidableEq, Repr

/-- What comes before the number, in small letters. -/
def LabelFamily.word : LabelFamily → List Char
  | linux => "eth".toList
  | eStyle => "e1-".toList
  | vendor => "ethernet-1/".toList
  | sonic => "ethernet".toList

/-- The number that a family has for a port. -/
def LabelFamily.number (port : ℕ) : LabelFamily → ℕ
  | linux | eStyle | vendor => port
  | sonic => (port - 1) * 4

/-- A text is a spelling of a port: in any letter case, with leading zeros and with blanks around
it. -/
def IsSpelling (port : ℕ) (label : String) : Prop :=
  ∃ (family : LabelFamily) (before word digits after : List Char),
    label.toList = before ++ (word ++ digits) ++ after ∧
    (∀ c ∈ before, Python.isSpace c) ∧ (∀ c ∈ after, Python.isSpace c) ∧
    word.map Char.toLower = family.word ∧ readDigits digits = some (family.number port)

/-! ## Letter case -/

theorem afterWord_map_toLower (word text : List Char) :
    afterWord word (text.map Char.toLower) = (afterWord word text).map (·.map Char.toLower) := by
  have htake : ((text.map Char.toLower).take word.length).map Char.toLower =
      (text.take word.length).map Char.toLower := by
    rw [← List.map_take, List.map_map]
    exact List.map_congr_left fun c _ => Python.toLower_toLower c
  unfold afterWord
  rw [htake]
  split
  · rw [Option.map_some, List.map_drop]
  · rfl

theorem readDigits_map_toLower (digits : List Char) :
    readDigits (digits.map Char.toLower) = readDigits digits := by
  unfold readDigits Python.decimalValue
  rw [List.all_map, List.filterMap_map]
  simp only [Function.comp_def, Python.decimal?_toLower, ne_eq, List.map_eq_nil_iff]

theorem bind_readDigits_map_toLower (digits : Option (List Char)) :
    (digits.map (·.map Char.toLower)).bind readDigits = digits.bind readDigits := by
  cases digits with
  | none => rfl
  | some digits => exact readDigits_map_toLower digits

theorem toList_lowerName (text : String) : (lowerName text).toList = text.toList.map Char.toLower :=
  String.toList_ofList

theorem sonicPort_lowerName (text : String) : sonicPort (lowerName text) = sonicPort text := by
  rw [sonicPort, toList_lowerName, afterWord_map_toLower, bind_readDigits_map_toLower, sonicPort]

theorem linuxPort_lowerName (text : String) : linuxPort (lowerName text) = linuxPort text := by
  rw [linuxPort, toList_lowerName, afterWord_map_toLower, bind_readDigits_map_toLower, linuxPort]

theorem secondPort_lowerName {word : String} {separator : Char}
    (hseparator : separator.toNat < 0x41) (text : String) :
    secondPort word separator (lowerName text) = secondPort word separator text := by
  have hlower (c : Char) : c.toLower ≠ separator ↔ c ≠ separator := by
    refine not_congr ⟨fun h => Python.eq_of_toLower_eq h (.inl (by omega)), ?_⟩
    rintro rfl
    exact Python.toLower_eq_self (.inl hseparator)
  unfold secondPort
  rw [toList_lowerName, afterWord_map_toLower]
  cases afterWord word.toList text.toList with
  | none => rfl
  | some numbers =>
    have htake : (numbers.map Char.toLower).takeWhile (· ≠ separator) =
        (numbers.takeWhile (· ≠ separator)).map Char.toLower := by
      rw [List.takeWhile_map]
      simp only [Function.comp_def, hlower]
    have hdrop : (numbers.map Char.toLower).dropWhile (· ≠ separator) =
        (numbers.dropWhile (· ≠ separator)).map Char.toLower := by
      rw [List.dropWhile_map]
      simp only [Function.comp_def, hlower]
    simp only [Option.map_some, Option.bind_eq_bind, Option.bind_some, htake, hdrop,
      readDigits_map_toLower, afterWord_map_toLower]
    cases readDigits (numbers.takeWhile (· ≠ separator)) with
    | none => rfl
    | some _ => exact bind_readDigits_map_toLower _

theorem eStylePort_lowerName (text : String) : eStylePort (lowerName text) = eStylePort text :=
  secondPort_lowerName (by decide) text

theorem vendorStylePort_lowerName (text : String) :
    vendorStylePort (lowerName text) = vendorStylePort text := secondPort_lowerName (by decide) text

/-! ## The normal form -/

theorem isSome_decimal?_of_readDigits {digits : List Char} {number : ℕ}
    (h : readDigits digits = some number) {c : Char} (hc : c ∈ digits) :
    (Python.decimal? c).isSome := by
  unfold readDigits at h
  split at h
  · rename_i hdigits
    exact List.all_eq_true.mp hdigits.2 c hc
  · cases h

theorem ne_nil_of_readDigits {digits : List Char} {number : ℕ}
    (h : readDigits digits = some number) : digits ≠ [] := by
  rintro rfl
  simp [readDigits] at h

theorem decimalValue_of_readDigits {digits : List Char} {number : ℕ}
    (h : readDigits digits = some number) : Python.decimalValue digits = number := by
  unfold readDigits at h
  split at h
  · exact Option.some.inj h
  · cases h

theorem map_toLower_of_readDigits {digits : List Char} {number : ℕ}
    (h : readDigits digits = some number) : digits.map Char.toLower = digits := by
  refine (List.map_congr_left fun c hc => ?_).trans (List.map_id digits)
  have hrange := Python.toNat_of_decimal? (isSome_decimal?_of_readDigits h hc)
  exact Python.toLower_eq_self (by omega)

/-- A spelling without the blanks around it. -/
theorem IsSpelling.strip {port : ℕ} {label : String} (h : IsSpelling port label) :
    ∃ (family : LabelFamily) (word digits : List Char), (Python.strip label).toList = word ++ digits ∧
      word.map Char.toLower = family.word ∧ readDigits digits = some (family.number port) := by
  obtain ⟨family, before, word, digits, after, hlabel, hbefore, hafter, hword, hdigits⟩ := h
  have hword_ne : word ≠ [] := by
    rintro rfl
    cases family <;> cases hword
  refine ⟨family, word, digits, ?_, hword, hdigits⟩
  refine Python.strip_append hlabel hbefore hafter (List.append_ne_nil_of_left_ne_nil hword_ne _)
    ?_ ?_
  · rw [List.head?_append_of_ne_nil _ hword_ne]
    intro c hc hspace
    have hlower : c.toLower = 'e' := by
      have := congrArg List.head? hword
      rw [List.head?_map, hc] at this
      cases family <;> exact Option.some.inj this
    rw [Python.toLower_of_isSpace hspace] at hlower
    rw [hlower] at hspace
    exact absurd hspace (by decide)
  · rw [List.getLast?_append_of_ne_nil _ (ne_nil_of_readDigits hdigits)]
    intro c hc
    rw [Python.isSpace_of_decimal?
      (isSome_decimal?_of_readDigits hdigits (List.mem_of_getLast? hc))]
    exact Bool.false_ne_true

/-- The text that a spelling comes down to, in small letters. -/
theorem IsSpelling.lower {port : ℕ} {label : String} (h : IsSpelling port label) :
    ∃ (family : LabelFamily) (digits : List Char), readDigits digits = some (family.number port) ∧
      (lowerName (Python.strip label)).toList = family.word ++ digits := by
  obtain ⟨family, word, digits, htext, hword, hdigits⟩ := h.strip
  refine ⟨family, digits, hdigits, ?_⟩
  rw [toList_lowerName, htext, List.map_append, hword, map_toLower_of_readDigits hdigits]

/-- The port that a label of the four families names. -/
def labelPort (text : String) : Option ℕ :=
  match sonicPort text with
  | some index => if index % 4 = 0 then some (index / 4 + 1) else none
  | none => linuxPort text <|> eStylePort text <|> vendorStylePort text

/-- The port of a label does not depend on the letter case. -/
theorem labelPort_lowerName (text : String) : labelPort (lowerName text) = labelPort text := by
  unfold labelPort
  rw [sonicPort_lowerName, linuxPort_lowerName, eStylePort_lowerName, vendorStylePort_lowerName]

/-- A label that names a port has the normal form of the port. -/
theorem normalize_of_labelPort {label : String} {port : ℕ}
    (h : labelPort (Python.strip label) = some port) :
    normalizeInterfaceName label = ethName port := by
  have hne : Python.strip label ≠ "" := fun hempty => by
    rw [hempty] at h
    cases h
  unfold labelPort at h
  unfold normalizeInterfaceName
  rw [if_neg hne]
  cases hsonic : sonicPort (Python.strip label) with
  | some index =>
    simp only [hsonic] at h ⊢
    split at h
    · rename_i hfour
      cases h
      rw [if_pos hfour]
    · cases h
  | none =>
    simp only [hsonic] at h ⊢
    rw [h]

/-- A digit stands where the word has a letter. -/
theorem afterWord_digits {digits : List Char} {number : ℕ} (h : readDigits digits = some number)
    {letter : Char} (hletter : Python.decimal? letter = none) {start rest text : List Char} :
    afterWord (start ++ letter :: rest) (start ++ (digits ++ text)) = none := by
  cases digits with
  | nil => exact absurd rfl (ne_nil_of_readDigits h)
  | cons digit digits =>
    refine if_neg fun hword => ?_
    have hlower : digit.toLower = letter := by
      have hchar := congrArg (·[start.length]?) hword
      simpa [List.getElem?_take] using hchar
    have hdigit := isSome_decimal?_of_readDigits h List.mem_cons_self
    rw [← Python.decimal?_toLower, hlower, hletter] at hdigit
    cases hdigit

theorem afterWord_eth_digits {digits : List Char} {number : ℕ}
    (h : readDigits digits = some number) :
    afterWord "ethernet".toList ("eth".toList ++ digits) = none := by
  rw [show "ethernet".toList = "eth".toList ++ 'e' :: "rnet".toList from rfl,
    ← List.append_nil digits]
  exact afterWord_digits h (by decide)

/-- Digits do not start with a character of another kind. -/
theorem readDigits_cons_eq_none {c : Char} (h : Python.decimal? c = none) (text : List Char) :
    readDigits (c :: text) = none := by
  refine if_neg fun hdigits => ?_
  have := List.all_eq_true.mp hdigits.2 c List.mem_cons_self
  rw [h] at this
  cases this

theorem secondPort_eq {word first : List Char} {separator : Char} {text : String}
    {digits : List Char} (htext : text.toList = word ++ (first ++ separator :: digits))
    (hword : word.map Char.toLower = word) (hfirst : separator ∉ first)
    (hlower : separator.toLower = separator) :
    secondPort (.ofList word) separator text = (readDigits first).bind fun _ => readDigits digits := by
  have hall : ∀ c ∈ first, (c ≠ separator : Bool) := fun c hc =>
    decide_eq_true fun h => hfirst (h ▸ hc)
  have hafter : afterWord [separator] (separator :: digits) = some digits :=
    @afterWord_append _ [separator] _ (by rw [List.map_singleton, hlower])
  unfold secondPort
  rw [htext, String.toList_ofList, afterWord_append hword]
  simp only [Option.bind_eq_bind, Option.bind_some]
  rw [List.takeWhile_append_of_pos hall, List.dropWhile_append_of_pos hall,
    List.takeWhile_cons_of_neg (by simp), List.dropWhile_cons_of_neg (by simp), List.append_nil,
    hafter]
  rfl

section
variable {text : String} {digits : List Char} {number : ℕ}

theorem sonicPort_of_sonic (htext : text.toList = LabelFamily.sonic.word ++ digits)
    (hdigits : readDigits digits = some number) : sonicPort text = some number := by
  have htext : text.toList = "ethernet".toList ++ digits := htext
  rw [sonicPort, htext, afterWord_append (by decide), Option.bind_some, hdigits]

theorem ports_of_linux (htext : text.toList = LabelFamily.linux.word ++ digits)
    (hdigits : readDigits digits = some number) :
    sonicPort text = none ∧ linuxPort text = some number := by
  have htext : text.toList = "eth".toList ++ digits := htext
  constructor
  · rw [sonicPort, htext, afterWord_eth_digits hdigits, Option.bind_none]
  · rw [linuxPort, htext, afterWord_append (by decide), Option.bind_some, hdigits]

theorem ports_of_eStyle (htext : text.toList = LabelFamily.eStyle.word ++ digits)
    (hdigits : readDigits digits = some number) :
    sonicPort text = none ∧ linuxPort text = none ∧ eStylePort text = some number := by
  have htext : text.toList = ['e'] ++ (['1'] ++ '-' :: digits) := htext
  refine ⟨?_, ?_, ?_⟩
  · rw [sonicPort, htext, afterWord, if_neg (by simp), Option.bind_none]
  · rw [linuxPort, htext, afterWord, if_neg (by simp), Option.bind_none]
  · exact (secondPort_eq htext (by decide) (by decide) (by decide)).trans hdigits

theorem ports_of_vendor (htext : text.toList = LabelFamily.vendor.word ++ digits)
    (hdigits : readDigits digits = some number) :
    sonicPort text = none ∧ linuxPort text = none ∧ eStylePort text = none ∧
      vendorStylePort text = some number := by
  have htext : text.toList = "ethernet-".toList ++ (['1'] ++ '/' :: digits) := htext
  have hdash : Python.decimal? '-' = none := by decide
  have hletter : Python.decimal? 'e' = none := by decide
  refine ⟨?_, ?_, ?_, ?_⟩
  · rw [sonicPort, htext, show "ethernet-".toList = "ethernet".toList ++ ['-'] from rfl,
      List.append_assoc, afterWord_append (by decide), Option.bind_some]
    exact readDigits_cons_eq_none hdash _
  · rw [linuxPort, htext, show "ethernet-".toList = "eth".toList ++ "ernet-".toList from rfl,
      List.append_assoc, afterWord_append (by decide), Option.bind_some]
    exact readDigits_cons_eq_none hletter _
  · have hletters : readDigits "thernet".toList = none := by decide
    refine (@secondPort_eq _ "thernet".toList _ _ (['1'] ++ '/' :: digits) htext
      (by decide) (by decide) (by decide)).trans ?_
    rw [hletters, Option.bind_none]
  · exact (secondPort_eq htext (by decide) (by decide) (by decide)).trans hdigits

theorem labelPort_family {family : LabelFamily} {port : ℕ} (hport : 1 ≤ port)
    (htext : text.toList = family.word ++ digits)
    (hdigits : readDigits digits = some (family.number port)) : labelPort text = some port := by
  unfold labelPort
  cases family with
  | linux =>
    obtain ⟨hsonic, hlinux⟩ := ports_of_linux htext hdigits
    rw [hsonic, hlinux]
    rfl
  | eStyle =>
    obtain ⟨hsonic, hlinux, heStyle⟩ := ports_of_eStyle htext hdigits
    rw [hsonic, hlinux, heStyle]
    rfl
  | vendor =>
    obtain ⟨hsonic, hlinux, heStyle, hvendor⟩ := ports_of_vendor htext hdigits
    rw [hsonic, hlinux, heStyle, hvendor]
    rfl
  | sonic =>
    rw [sonicPort_of_sonic htext hdigits]
    simp only [LabelFamily.number, Nat.mul_mod_left, if_true, Nat.mul_div_cancel _ (by decide : 0 < 4),
      Nat.sub_add_cancel hport]

end

/-- All labels of a port have one normal form. -/
theorem IsSpelling.normalize {port : ℕ} {label : String} (hport : 1 ≤ port)
    (h : IsSpelling port label) : normalizeInterfaceName label = ethName port := by
  obtain ⟨family, digits, hdigits, htext⟩ := h.lower
  refine normalize_of_labelPort ?_
  rw [← labelPort_lowerName]
  exact labelPort_family hport htext hdigits

theorem ethName_inj {m n : ℕ} (h : ethName m = ethName n) : m = n := by
  have hports := congrArg linuxPort h
  rw [linuxPort_ethName, linuxPort_ethName] at hports
  exact Option.some.inj hports

/-- Labels of two ports have two normal forms. -/
theorem IsSpelling.unique {m n : ℕ} {label : String} (hm : 1 ≤ m) (hn : 1 ≤ n)
    (h : IsSpelling m label) (h' : IsSpelling n label) : m = n :=
  ethName_inj ((h.normalize hm).symm.trans (h'.normalize hn))

theorem IsSpelling.toSonic {port : ℕ} {label : String} (hport : 1 ≤ port)
    (h : IsSpelling port label) : toSonicInterface label = ethernetName ((port - 1) * 4) := by
  rw [toSonicInterface, h.normalize hport, linuxPort_ethName, Option.filter_some,
    if_pos (decide_eq_true hport)]

theorem IsSpelling.toLinux {port : ℕ} {label : String} (hport : 1 ≤ port)
    (h : IsSpelling port label) : toLinuxInterface label = ethName port := by
  rw [toLinuxInterface, h.normalize hport, linuxPort_ethName]

/-! ## What the patterns read -/

/-- A text without capital letters. -/
def IsLower (text : List Char) : Prop := text.map Char.toLower = text

theorem isLower_lowerName (text : String) : IsLower (lowerName text).toList := by
  rw [IsLower, toList_lowerName, List.map_map]
  exact List.map_congr_left fun c _ => Python.toLower_toLower c

theorem IsLower.of_append {start rest : List Char} (h : IsLower (start ++ rest)) : IsLower rest := by
  rw [IsLower, List.map_append] at h
  exact (List.append_inj h (List.length_map ..)).2

theorem afterWord_eq_some {word text rest : List Char} (hlower : IsLower text)
    (h : afterWord word text = some rest) : text = word ++ rest := by
  unfold afterWord at h
  split at h
  · rename_i hword
    cases h
    rw [List.map_take, hlower] at hword
    conv_lhs => rw [← List.take_append_drop word.length text, hword]
  · cases h

/-- What a pattern of a word and a number reads. -/
theorem wordPort_eq_some {word : List Char} {text : String} {number : ℕ}
    (hlower : IsLower text.toList) (h : (afterWord word text.toList).bind readDigits = some number) :
    ∃ digits, text.toList = word ++ digits ∧ readDigits digits = some number := by
  obtain ⟨digits, hword, hdigits⟩ := Option.bind_eq_some_iff.mp h
  exact ⟨digits, afterWord_eq_some hlower hword, hdigits⟩

/-- What a pattern with a slot reads. -/
theorem secondPort_eq_some {word text : String} {separator : Char} {number : ℕ}
    (hlower : IsLower text.toList) (h : secondPort word separator text = some number) :
    ∃ slot digits, text.toList = word.toList ++ (slot ++ separator :: digits) ∧
      separator ∉ slot ∧ (readDigits slot).isSome ∧ readDigits digits = some number := by
  unfold secondPort at h
  simp only [Option.bind_eq_bind, Option.bind_eq_some_iff] at h
  obtain ⟨numbers, hword, slot, hslot, digits, hrest, hdigits⟩ := h
  have htext := afterWord_eq_some hlower hword
  have hnumbers := List.takeWhile_append_dropWhile (p := (· ≠ separator)) (l := numbers)
  have hlast : numbers.dropWhile (· ≠ separator) = separator :: digits := by
    refine afterWord_eq_some ?_ hrest
    rw [htext, ← hnumbers] at hlower
    exact hlower.of_append.of_append
  refine ⟨numbers.takeWhile (· ≠ separator), digits, ?_, fun hmem => ?_, ?_, hdigits⟩
  · rw [htext, ← hlast, hnumbers]
  · have hne := List.mem_takeWhile_imp hmem
    exact of_decide_eq_true hne rfl
  · rw [hslot]
    rfl

/-- A label that is one of the four families in small letters is a spelling. -/
theorem IsSpelling.of_lower {port : ℕ} {label : String} {family : LabelFamily} {digits : List Char}
    (htext : (lowerName (Python.strip label)).toList = family.word ++ digits)
    (hdigits : readDigits digits = some (family.number port)) : IsSpelling port label := by
  obtain ⟨before, after, hlabel, hbefore, hafter⟩ := Python.exists_strip label
  rw [toList_lowerName] at htext
  obtain ⟨word, number, hstrip, hword, hnumber⟩ := List.map_eq_append_iff.mp htext
  refine ⟨family, before, word, number, after, by rw [hlabel, hstrip], hbefore, hafter, hword, ?_⟩
  rw [← readDigits_map_toLower, hnumber, hdigits]

/-! ## Equivalent labels -/

theorem isSpelling_of_toList {port : ℕ} {label : String} (family : LabelFamily) (word : List Char)
    (hword : word.map Char.toLower = family.word)
    (hlabel : label.toList = word ++ (family.number port).repr.toList) : IsSpelling port label :=
  ⟨family, [], word, (family.number port).repr.toList, [], by rw [hlabel, List.append_nil]; rfl,
    nofun, nofun, hword, readDigits_repr _⟩

theorem isSpelling_ethName (port : ℕ) : IsSpelling port (ethName port) :=
  isSpelling_of_toList .linux ['e', 't', 'h'] (by decide) (toList_ethName port)

theorem isSpelling_ethernetName (port : ℕ) : IsSpelling port (ethernetName ((port - 1) * 4)) :=
  isSpelling_of_toList .sonic "Ethernet".toList (by decide) (toList_ethernetName _)

theorem isSpelling_eStyle (port : ℕ) : IsSpelling port ("e1-" ++ toString port) :=
  isSpelling_of_toList .eStyle "e1-".toList (by decide) (String.toList_append ..)

theorem isSpelling_vendor (port : ℕ) : IsSpelling port ("ethernet-1/" ++ toString port) :=
  isSpelling_of_toList .vendor "ethernet-1/".toList (by decide) (String.toList_append ..)

/-- The aliases of a label name its port. -/
theorem IsSpelling.of_mem_aliases {port : ℕ} {label other : String} (hport : 1 ≤ port)
    (h : IsSpelling port label) (hmem : other ∈ interfaceAliases label) : IsSpelling port other := by
  have hraw : IsSpelling port (Python.strip label) := by
    obtain ⟨family, word, digits, htext, hword, hdigits⟩ := h.strip
    exact ⟨family, [], word, digits, [], by rw [htext, List.append_nil]; rfl, nofun, nofun, hword,
      hdigits⟩
  unfold interfaceAliases at hmem
  dsimp only at hmem
  split at hmem
  · cases hmem
  · simp only [hraw.normalize hport, linuxPort_ethName, Option.filter_some, hport, decide_true,
      if_true, hraw.toSonic hport, hraw.toLinux hport, List.mem_append, List.mem_filter,
      List.mem_cons, List.not_mem_nil, or_false] at hmem
    rcases hmem with (((rfl | ⟨rfl, -⟩) | rfl | rfl | rfl | rfl) | ⟨rfl, -⟩) | ⟨rfl, -⟩
    · exact hraw
    · exact isSpelling_ethName port
    · exact isSpelling_ethName port
    · exact isSpelling_eStyle port
    · exact isSpelling_vendor port
    · exact isSpelling_ethernetName port
    · exact isSpelling_ethernetName port
    · exact isSpelling_ethName port

theorem IsSpelling.ne_empty {port : ℕ} {label : String} (h : IsSpelling port label) :
    label ≠ "" := by
  rintro rfl
  obtain ⟨family, before, word, digits, after, hlabel, -, -, hword, -⟩ := h
  have hnil : word = [] := by
    have hempty := hlabel.symm
    simp only [List.append_eq_nil_iff, show "".toList = [] from rfl] at hempty
    exact hempty.1.2.1
  subst hnil
  cases family <;> cases hword

/-- Two labels are equivalent when they name the same port. -/
theorem areInterfacesEquivalent_iff {m n : ℕ} {left right : String} (hm : 1 ≤ m) (hn : 1 ≤ n)
    (hleft : IsSpelling m left) (hright : IsSpelling n right) :
    areInterfacesEquivalent left right ↔ m = n := by
  unfold areInterfacesEquivalent
  rw [if_neg (not_or.mpr ⟨hleft.ne_empty, hright.ne_empty⟩), hleft.normalize hm, hright.normalize hn]
  split
  · rename_i hname
    exact iff_of_true rfl (ethName_inj hname)
  · rename_i hname
    refine iff_of_false ?_ fun h => hname (h ▸ rfl)
    rw [List.any_eq_true]
    rintro ⟨other, hother, hmem⟩
    have hsame := (hleft.of_mem_aliases hm hother).unique hm hn
      (hright.of_mem_aliases hn (of_decide_eq_true hmem))
    exact hname (hsame ▸ rfl)

end NetOpsBench.Models
