import NetOpsBench.Evaluator.Scorer
import NetOpsBench.Models.UnknownLabels

/-!
# Which labels get the credit of a port

The scorer compares normal forms. Two patterns read a slot and drop it, and a label that no pattern
reads may come down to a Linux name, so that some labels get the credit of a port that they do not
name.

`sound_iff_not_foreign` is the main result: a label is credited with a port only where it is a spelling
of it if and only if the label is not `Foreign`. Foreign labels are those of another slot
(`OtherSlot.credited`) and those that no pattern reads but that come down to the name of a port
(`normalize_eq_ethName_iff`). `secondSlot_not_sound` has the label of a second slot.
-/

namespace NetOpsBench.Scorer
open Models

/-! ## Labels that get the credit of a port they do not name -/

/-- No pattern reads a label. -/
structure Unread (label : String) : Prop where
  sonic : sonicPort label = none
  linux : linuxPort label = none
  eStyle : eStylePort label = none
  vendor : vendorStylePort label = none

/-- A label of the two families with a slot, in small letters and without blanks around it, whose
slot is not written `1`. -/
def OtherSlot (label : List Char) : Prop :=
  ∃ word slot separator number port, (word, separator) ∈ [("e", '-'), ("ethernet-", '/')] ∧
    label = word.toList ++ (slot ++ separator :: number) ∧ (readDigits slot).isSome ∧
    slot ≠ ['1'] ∧ readDigits number = some port ∧ 1 ≤ port

/-- A label that names no port, and is credited with one: it has another slot, or no pattern reads
it and it comes down to a Linux name. -/
def Foreign (label : String) : Prop :=
  let raw := lowerName (Python.strip label)
  OtherSlot raw.toList ∨ Unread raw ∧ ∃ port, 1 ≤ port ∧ Scrambled port raw.toList

/-! ## The normal form of an arbitrary label -/

/-- The replacements of the source, on the characters of the text. -/
theorem toList_fallback (text : String) :
    (Python.replace (Python.replace (Python.replace (Python.replace text "ethernet-" "eth")
      "ethernet" "eth") "/" "") "-" "").toList = contract text.toList := by
  unfold Python.replace contract bare
  simp only [String.toList_ofList]
  rw [show "/".toList = ['/'] from rfl, show "-".toList = ['-'] from rfl,
    show "".toList = [] from rfl, Replace.all_singleton_nil, Replace.all_singleton_nil]
  rfl

theorem Unread.labelPort {text : String} (h : Unread text) : labelPort text = none := by
  rw [Models.labelPort, h.sonic, h.linux, h.eStyle, h.vendor]
  rfl

theorem unread_of_none {text : String} (hsonic : sonicPort text = none)
    (hport : labelPort text = none) : Unread text := by
  rw [labelPort, hsonic] at hport
  cases hlinux : linuxPort text with
  | some port =>
    rw [hlinux] at hport
    cases hport
  | none =>
    cases heStyle : eStylePort text with
    | some port =>
      rw [hlinux, heStyle] at hport
      cases hport
    | none =>
      rw [hlinux, heStyle] at hport
      exact ⟨hsonic, hlinux, heStyle, hport⟩

/-- Its normal form is what is left without separators. -/
theorem normalize_of_unread {label : String} (h : Unread (lowerName (Python.strip label))) :
    (normalizeInterfaceName label).toList = contract (lowerName (Python.strip label)).toList := by
  obtain ⟨hsonic, hlinux, heStyle, hvendor⟩ := h
  rw [sonicPort_lowerName] at hsonic
  rw [linuxPort_lowerName] at hlinux
  rw [eStylePort_lowerName] at heStyle
  rw [vendorStylePort_lowerName] at hvendor
  unfold normalizeInterfaceName
  dsimp only
  split
  · rename_i hempty
    rw [hempty]
    rfl
  · rw [hsonic, hlinux, heStyle, hvendor]
    exact toList_fallback _

/-- A label has the normal form of a port when it is read as that port, or comes down to it. -/
theorem normalize_eq_ethName_iff {label : String} {port : ℕ} :
    normalizeInterfaceName label = ethName port ↔
      labelPort (lowerName (Python.strip label)) = some port ∨
        Unread (lowerName (Python.strip label)) ∧
          Scrambled port (lowerName (Python.strip label)).toList := by
  cases hport : labelPort (lowerName (Python.strip label)) with
  | some other =>
    rw [normalize_of_labelPort ((labelPort_lowerName _).symm.trans hport)]
    constructor
    · exact fun h => .inl (congrArg some (ethName_inj h))
    · rintro (h | ⟨h, -⟩)
      · exact congrArg ethName (Option.some.inj h)
      · rw [h.labelPort] at hport
        cases hport
  | none =>
    cases hsonic : sonicPort (lowerName (Python.strip label)) with
    | some index =>
      -- an index between two ports: the label is left as it is, and no Linux name
      have hsame : normalizeInterfaceName label = lowerName (Python.strip label) := by
        rw [labelPort, hsonic] at hport
        have hraw := (sonicPort_lowerName _).symm.trans hsonic
        unfold normalizeInterfaceName
        dsimp only at hport ⊢
        split
        · rename_i hempty
          rw [hempty]
          rfl
        · rw [hraw]
          dsimp only
          split at hport
          · cases hport
          · rw [if_neg ‹_›]
      refine iff_of_false (fun h => ?_) (not_or.mpr ⟨nofun, fun h => ?_⟩)
      · rw [← hsame, h, sonicPort_ethName] at hsonic
        cases hsonic
      · rw [h.1.sonic] at hsonic
        cases hsonic
    | none =>
      have hunread := unread_of_none hsonic hport
      rw [← String.toList_inj, normalize_of_unread hunread, toList_ethName]
      exact contract_eq_iff.trans
        ⟨fun h => .inr ⟨hunread, h⟩, fun h => (h.resolve_left nofun).2⟩

/-! ## Labels with a slot -/

section
variable {label : String} {port : ℕ}

/-- A label that a pattern with a slot reads as a port is a spelling, or has another slot. -/
theorem isSpelling_or_otherSlot {word : String} {separator : Char} {family : LabelFamily}
    (hword : (word, separator) ∈ [("e", '-'), ("ethernet-", '/')])
    (hfamily : family.word = word.toList ++ ['1', separator]) (hnumber : family.number port = port)
    (hport : secondPort word separator (lowerName (Python.strip label)) = some port)
    (hpos : 1 ≤ port) :
    IsSpelling port label ∨ OtherSlot (lowerName (Python.strip label)).toList := by
  obtain ⟨slot, digits, htext, -, hslot, hdigits⟩ :=
    secondPort_eq_some (isLower_lowerName (Python.strip label)) hport
  by_cases hone : slot = ['1']
  · subst hone
    refine .inl (.of_lower (htext.trans ?_) (hdigits.trans (congrArg some hnumber.symm)))
    rw [hfamily, List.append_assoc]
    rfl
  · exact .inr ⟨word, slot, separator, digits, port, hword, htext, hslot, hone, hdigits, hpos⟩

/-- A label that is read as a port is one of its spellings, unless it has another slot. -/
theorem isSpelling_of_labelPort (hport : labelPort (lowerName (Python.strip label)) = some port)
    (hslot : ¬ OtherSlot (lowerName (Python.strip label)).toList) (hpos : 1 ≤ port) :
    IsSpelling port label := by
  have hlower := isLower_lowerName (Python.strip label)
  unfold labelPort at hport
  cases hsonic : sonicPort (lowerName (Python.strip label)) with
  | some index =>
    simp only [hsonic] at hport
    split at hport
    · rename_i hfour
      cases hport
      obtain ⟨digits, htext, hdigits⟩ := wordPort_eq_some hlower hsonic
      refine @IsSpelling.of_lower _ _ .sonic _ htext (hdigits.trans (congrArg some ?_))
      rw [LabelFamily.number]
      omega
    · cases hport
  | none =>
    simp only [hsonic] at hport
    cases hlinux : linuxPort (lowerName (Python.strip label)) with
    | some number =>
      rw [hlinux] at hport
      cases hport
      obtain ⟨digits, htext, hdigits⟩ := wordPort_eq_some hlower hlinux
      exact @IsSpelling.of_lower _ _ .linux _ htext hdigits
    | none =>
      cases heStyle : eStylePort (lowerName (Python.strip label)) with
      | some number =>
        rw [hlinux, heStyle] at hport
        cases hport
        have hword : LabelFamily.eStyle.word = "e".toList ++ ['1', '-'] := by decide
        exact (isSpelling_or_otherSlot (by decide) hword rfl heStyle hpos).resolve_right hslot
      | none =>
        have hvendor : vendorStylePort (lowerName (Python.strip label)) = some port := by
          simpa [hlinux, heStyle] using hport
        have hword : LabelFamily.vendor.word = "ethernet-".toList ++ ['1', '/'] := by decide +kernel
        exact (isSpelling_or_otherSlot (by decide) hword rfl hvendor hpos).resolve_right hslot

/-- The slot of a label is what stands before the separator. -/
theorem slot_unique {word slot slot' digits digits' : List Char} {separator : Char}
    (hslot : separator ∉ slot) (hslot' : separator ∉ slot')
    (h : word ++ (slot ++ separator :: digits) = word ++ (slot' ++ separator :: digits')) :
    slot = slot' := by
  have htake {slot : List Char} (digits : List Char) (hslot : separator ∉ slot) :
      (slot ++ separator :: digits).takeWhile (· ≠ separator) = slot := by
    rw [List.takeWhile_append_of_pos, List.takeWhile_cons_of_neg (by simp), List.append_nil]
    exact fun c hc => decide_eq_true fun hsame => hslot (hsame ▸ hc)
  rw [← htake digits hslot, List.append_cancel_left h, htake digits' hslot']

/-- No spelling has another slot. -/
theorem not_isSpelling {word slot digits : List Char} {separator : Char} (family : LabelFamily)
    (htext : (lowerName (Python.strip label)).toList = word ++ (slot ++ separator :: digits))
    (hslot : separator ∉ slot) (hone : slot ≠ ['1']) (hne : separator ≠ '1')
    (hfamily : family.word = word ++ (['1'] ++ [separator]))
    (hother : ∀ other digits number, other ≠ family → readDigits digits = some number →
      (lowerName (Python.strip label)).toList ≠ LabelFamily.word other ++ digits) :
    ¬ IsSpelling port label := fun h => by
  obtain ⟨other, number, hnumber, hlower⟩ := h.lower
  by_cases hsame : other = family
  · subst hsame
    rw [hfamily, List.append_assoc, List.append_assoc, List.singleton_append] at hlower
    refine hone (slot_unique hslot ?_ (htext.symm.trans hlower))
    exact fun hmem => hne (List.mem_singleton.mp hmem)
  · exact hother other number _ hsame hnumber hlower

/-- A label with another slot is read as a port, and is none of its spellings. -/
theorem OtherSlot.credited (h : OtherSlot (lowerName (Python.strip label)).toList) :
    ∃ port, 1 ≤ port ∧ labelPort (lowerName (Python.strip label)) = some port ∧
      ¬ IsSpelling port label := by
  obtain ⟨word, slot, separator, number, port, hword, htext, hslot, hone, hnumber, hpos⟩ := h
  obtain ⟨value, hvalue⟩ := Option.isSome_iff_exists.mp hslot
  have hfree {c : Char} (hc : Python.decimal? c = none) : c ∉ slot := fun hmem => by
    have := isSome_decimal?_of_readDigits hvalue hmem
    rw [hc] at this
    cases this
  refine ⟨port, hpos, ?_⟩
  rcases List.mem_pair.mp hword with hpair | hpair <;> obtain ⟨rfl, rfl⟩ := Prod.mk.inj hpair
  · have htext : (lowerName (Python.strip label)).toList = ['e'] ++ (slot ++ '-' :: number) := htext
    have hdash : '-' ∉ slot := hfree (by decide)
    have hsonic : sonicPort (lowerName (Python.strip label)) = none := by
      rw [sonicPort, htext, show "ethernet".toList = ['e'] ++ 't' :: "hernet".toList from rfl,
        afterWord_digits hvalue (by decide), Option.bind_none]
    have hlinux : linuxPort (lowerName (Python.strip label)) = none := by
      rw [linuxPort, htext, show "eth".toList = ['e'] ++ 't' :: "h".toList from rfl,
        afterWord_digits hvalue (by decide), Option.bind_none]
    have heStyle : eStylePort (lowerName (Python.strip label)) = some port := by
      refine (secondPort_eq htext (by decide) hdash (by decide)).trans ?_
      rw [hvalue, Option.bind_some, hnumber]
    refine ⟨by rw [labelPort, hsonic, hlinux, heStyle]; rfl, ?_⟩
    refine not_isSpelling .eStyle htext hdash hone (by decide) (by decide) ?_
    intro other digits number hne hdigits hlower
    cases other with
    | linux => cases hlinux.symm.trans (ports_of_linux hlower hdigits).2
    | eStyle => exact hne rfl
    | vendor => cases heStyle.symm.trans (ports_of_vendor hlower hdigits).2.2.1
    | sonic => cases hsonic.symm.trans (sonicPort_of_sonic hlower hdigits)
  · have hslash : '/' ∉ slot := hfree (by decide)
    have hsonic : sonicPort (lowerName (Python.strip label)) = none := by
      rw [sonicPort, htext, show "ethernet-".toList = "ethernet".toList ++ ['-'] from rfl,
        List.append_assoc, afterWord_append (by decide), Option.bind_some, List.singleton_append,
        readDigits_cons_eq_none (by decide)]
    have hlinux : linuxPort (lowerName (Python.strip label)) = none := by
      rw [linuxPort, htext, show "ethernet-".toList = "eth".toList ++ 'e' :: "rnet-".toList from rfl,
        List.append_assoc, afterWord_append (by decide), Option.bind_some, List.cons_append,
        readDigits_cons_eq_none (by decide)]
    have heStyle : eStylePort (lowerName (Python.strip label)) = none := by
      have hletters : readDigits "thernet".toList = none := by decide
      refine (@secondPort_eq ['e'] "thernet".toList _ _ (slot ++ '/' :: number) htext
        (by decide) (by decide) (by decide)).trans ?_
      rw [hletters, Option.bind_none]
    have hvendor : vendorStylePort (lowerName (Python.strip label)) = some port := by
      refine (secondPort_eq htext (by decide) hslash (by decide)).trans ?_
      rw [hvalue, Option.bind_some, hnumber]
    refine ⟨by rw [labelPort, hsonic, hlinux, heStyle, hvendor]; rfl, ?_⟩
    refine not_isSpelling .vendor htext hslash hone (by decide) (by decide) ?_
    intro other digits number hne hdigits hlower
    cases other with
    | linux => cases hlinux.symm.trans (ports_of_linux hlower hdigits).2
    | eStyle => cases heStyle.symm.trans (ports_of_eStyle hlower hdigits).2.2
    | vendor => exact hne rfl
    | sonic => cases hsonic.symm.trans (sonicPort_of_sonic hlower hdigits)

end

/-! ## Soundness of the comparison -/

/-- No label but its own spellings gets the credit of a port. -/
def Sound (label : String) : Prop :=
  ∀ port spelling, 1 ≤ port → IsSpelling port spelling →
    normalizeInterface (some label) = normalizeInterface (some spelling) → IsSpelling port label

/-- A label that has the normal form of a port is one of its spellings, unless it is foreign. -/
theorem isSpelling_iff_not_foreign {label : String} {port : ℕ} (hpos : 1 ≤ port)
    (hnormal : normalizeInterfaceName label = ethName port) :
    IsSpelling port label ↔ ¬ Foreign label := by
  constructor
  · rintro hspelling (hslot | ⟨hunread, -⟩)
    · obtain ⟨other, hother, hport, hnot⟩ := hslot.credited
      have hsame : other = port :=
        ethName_inj ((normalize_eq_ethName_iff.mpr (.inl hport)).symm.trans hnormal)
      exact hnot (hsame ▸ hspelling)
    · obtain ⟨family, digits, hdigits, htext⟩ := hspelling.lower
      have hport := labelPort_family hpos htext hdigits
      rw [hunread.labelPort] at hport
      cases hport
  · intro hforeign
    rcases normalize_eq_ethName_iff.mp hnormal with hport | ⟨hunread, hscrambled⟩
    · exact isSpelling_of_labelPort hport (fun hslot => hforeign (.inl hslot)) hpos
    · exact absurd (.inr ⟨hunread, port, hpos, hscrambled⟩) hforeign

/-- A foreign label has the normal form of some port. -/
theorem Foreign.normalize {label : String} (h : Foreign label) :
    ∃ port, 1 ≤ port ∧ normalizeInterfaceName label = ethName port := by
  rcases h with hslot | ⟨hunread, port, hpos, hscrambled⟩
  · obtain ⟨port, hpos, hport, -⟩ := hslot.credited
    exact ⟨port, hpos, normalize_eq_ethName_iff.mpr (.inl hport)⟩
  · exact ⟨port, hpos, normalize_eq_ethName_iff.mpr (.inr ⟨hunread, hscrambled⟩)⟩

theorem foreign_secondSlot : Foreign "e2-1" :=
  .inl ⟨"e", ['2'], '-', ['1'], 1, by decide, by decide, by decide +kernel, by decide,
    by decide +kernel, by decide⟩

/-- The comparison is sound for every label that is not foreign, and for no other. -/
theorem sound_iff_not_foreign (label : String) : Sound label ↔ ¬ Foreign label := by
  constructor
  · intro hsound hforeign
    obtain ⟨port, hpos, hnormal⟩ := hforeign.normalize
    refine (isSpelling_iff_not_foreign hpos hnormal).mp ?_ hforeign
    refine hsound port (ethName port) hpos (isSpelling_ethName port) ?_
    rw [normalizeInterface, normalizeInterface, Option.getD_some, Option.getD_some,
      (isSpelling_ethName port).normalize hpos, hnormal]
  · intro hforeign port spelling hpos hspelling hsame
    exact (isSpelling_iff_not_foreign hpos (hsame.trans (hspelling.normalize hpos))).mpr hforeign

/-- A port of the second slot gets the credit of one of the first. -/
theorem secondSlot_not_sound : ¬ Sound "e2-1" := fun hsound => by
  obtain ⟨port, hpos, hnormal⟩ := foreign_secondSlot.normalize
  refine (isSpelling_iff_not_foreign hpos hnormal).mp ?_ foreign_secondSlot
  refine hsound port (ethName port) hpos (isSpelling_ethName port) ?_
  rw [normalizeInterface, normalizeInterface, Option.getD_some, Option.getD_some,
    (isSpelling_ethName port).normalize hpos, hnormal]

end NetOpsBench.Scorer
