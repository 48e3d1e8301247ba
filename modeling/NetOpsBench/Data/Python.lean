import NetOpsBench.Data.Replace

/-!
# Values of Python

The built-ins that the translated code leans on: `or` on optional text, `strip` and `upper` on
ASCII text, the character classes of a regular expression, `int` on a number, a `Counter`, the extent
of a set of integers, the distinct items of a list in the order of their first occurrence.

The results are what the readers of labels and summaries use: `strip_append` and `exists_strip` say what
`strip` takes away, `toLower_toLower` and `eq_of_toLower_eq` what lowering forgets, `parseInt_digits`
which number a text of digits is, and `length_counter` and `mem_fromkeys` what a `Counter` and the
distinct items of a list keep.
-/

namespace Python

/-- `text or None`: the empty text counts as missing. -/
def truthy (text : Option String) : Option String := text.filter (· ≠ "")

@[simp] theorem truthy_none : truthy none = none := rfl

theorem truthy_some {text : String} (h : text ≠ "") : truthy (some text) = some text := by
  simp [truthy, Option.filter, h]

theorem truthy_eq_some {text : Option String} {value : String} :
    truthy text = some value ↔ text = some value ∧ value ≠ "" := by
  rw [truthy, Option.filter_eq_some_iff, decide_eq_true_eq]

/-- The class `\s` -/
def isSpace (c : Char) : Bool :=
  (9 ≤ c.toNat ∧ c.toNat ≤ 13) ∨ (28 ≤ c.toNat ∧ c.toNat ≤ 32) ∨
    (0x2000 ≤ c.toNat ∧ c.toNat ≤ 0x200a) ∨
    c.toNat ∈ [0x85, 0xa0, 0x1680, 0x2028, 0x2029, 0x202f, 0x205f, 0x3000]

/-- `text.strip()` -/
def strip (text : String) : String :=
  .ofList ((text.toList.dropWhile isSpace).rdropWhile isSpace)

/-- The characters at which `splitlines` ends a line. -/
def isLineBreak (c : Char) : Bool :=
  c.toNat ∈ [0x0a, 0x0b, 0x0c, 0x0d, 0x1c, 0x1d, 0x1e, 0x85, 0x2028, 0x2029]

/-- `text.splitlines()` -/
def splitlines : List Char → List (List Char)
  | [] => []
  | '\r' :: '\n' :: text => [] :: splitlines text
  | c :: text =>
    if isLineBreak c then [] :: splitlines text
    else match splitlines text with
      | [] => [[c]]
      | line :: lines => (c :: line) :: lines

/-- `text.split()` -/
def split : List Char → List (List Char)
  | [] => []
  | c :: text =>
    if isSpace c then split text
    else match text.head? with
      | none => [[c]]
      | some d => if isSpace d then [c] :: split text else (split text).modifyHead (c :: ·)

/-- `[line.rstrip() for line in text.splitlines() if line.strip()]` -/
def filledLines (text : List Char) : List (List Char) :=
  ((splitlines text).filter fun line => line.any fun c => !isSpace c).map (·.rdropWhile isSpace)

/-- `text.replace(old, new)` -/
def replace (text old new : String) : String :=
  .ofList (Replace.all old.toList new.toList text.toList)

/-- `text.upper()`, of ASCII letters only: letters that Python raises beside them stay as they are. -/
def upper (text : String) : String := .ofList (text.toList.map Char.toUpper)

theorem split_of_isSpace {text : List Char} (h : ∀ c ∈ text, isSpace c) : split text = [] := by
  induction text with
  | nil => rfl
  | cons c text ih =>
    rw [split, if_pos (h c List.mem_cons_self), ih fun d hd => h d (List.mem_cons_of_mem c hd)]

/-- Blanks at the end of a text stand after its last word. -/
theorem split_append_blank {blanks : List Char} (h : ∀ c ∈ blanks, isSpace c) (text : List Char) :
    split (text ++ blanks) = split text := by
  induction text with
  | nil => exact split_of_isSpace h
  | cons c text ih =>
    rw [List.cons_append, split, split, ih]
    cases text with
    | nil =>
      cases blanks with
      | nil => rfl
      | cons d blanks => simp [h d List.mem_cons_self, split]
    | cons d text => rfl

theorem split_rdropWhile (text : List Char) : split (text.rdropWhile isSpace) = split text := by
  have hblank := split_append_blank (fun c (hc : c ∈ text.rtakeWhile isSpace) =>
    List.mem_rtakeWhile_imp hc) (text.rdropWhile isSpace)
  rw [List.rdropWhile_append_rtakeWhile] at hblank
  exact hblank.symm

theorem toUpper_toUpper (c : Char) : c.toUpper.toUpper = c.toUpper := by
  unfold Char.toUpper
  split
  · rename_i h
    -- an upper-case letter is below every lower-case one
    rw [dif_neg]
    simp only [UInt32.le_iff_toNat_le, UInt32.toNat_add] at h ⊢
    have ha : 'a'.val.toNat = 97 := rfl
    have hz : 'z'.val.toNat = 122 := rfl
    have hshift : ('A'.val - 'a'.val).toNat = 2 ^ 32 - 32 := rfl
    omega
  · rfl

theorem upper_upper (text : String) : upper (upper text) = upper text := by
  simp only [upper, String.toList_ofList, List.map_map]
  congr 1
  refine List.map_congr_left fun c _ => ?_
  exact toUpper_toUpper c

theorem upper_ne_empty {text : String} (h : text ≠ "") : upper text ≠ "" := by
  intro hupper
  apply h
  simpa [upper] using congrArg String.toList hupper

theorem strip_ne_empty {text : String} (h : ∃ c ∈ text.toList, ¬ isSpace c) :
    strip text ≠ "" := by
  obtain ⟨c, hc, hspace⟩ := h
  intro hstrip
  have hnil : (text.toList.dropWhile isSpace).rdropWhile isSpace = [] := by
    simpa [strip] using congrArg String.toList hstrip
  rw [List.rdropWhile_eq_nil_iff] at hnil
  have hdrop : text.toList.dropWhile isSpace ≠ [] := by
    rw [ne_eq, List.dropWhile_eq_nil_iff]
    exact fun hall => hspace (hall c hc)
  have hhead := List.head_dropWhile_not _ hdrop
  rw [hnil _ (List.head_mem hdrop)] at hhead
  cases hhead

/-- A text without blanks at its ends is not stripped. -/
theorem strip_eq_self {text : String} (hhead : ∀ c ∈ text.toList.head?, ¬ isSpace c)
    (hlast : ∀ c ∈ text.toList.getLast?, ¬ isSpace c) : strip text = text := by
  have hdrop : text.toList.dropWhile isSpace = text.toList := by
    rw [List.dropWhile_eq_self_iff]
    exact fun hlt => hhead _ (by rw [List.head?_eq_getElem?, List.getElem?_eq_getElem hlt]; rfl)
  have hrdrop : text.toList.rdropWhile isSpace = text.toList := by
    rw [List.rdropWhile_eq_self_iff]
    exact fun hne => hlast _ (List.getLast?_eq_some_getLast hne)
  rw [strip, hdrop, hrdrop, String.ofList_toList]

theorem toNat_toLower (c : Char) :
    c.toLower.toNat = if 0x41 ≤ c.toNat ∧ c.toNat ≤ 0x5a then c.toNat + 32 else c.toNat := by
  unfold Char.toLower
  simp only [ge_iff_le, UInt32.le_iff_toNat_le]
  split
  · rename_i h
    have hlow : 0x41 ≤ c.toNat := h.1
    have hhigh : c.toNat ≤ 0x5a := h.2
    rw [if_pos ⟨hlow, hhigh⟩]
    show (c.val + ('a'.val - 'A'.val)).toNat = c.toNat + 32
    rw [UInt32.toNat_add]
    have hshift : ('a'.val - 'A'.val).toNat = 32 := rfl
    have hval : c.val.toNat = c.toNat := rfl
    omega
  · rename_i h
    exact (if_neg fun hletter => h hletter).symm

theorem toLower_toLower (c : Char) : c.toLower.toLower = c.toLower := by
  refine Char.toNat_inj.mp ?_
  rw [toNat_toLower, if_neg]
  rw [toNat_toLower]
  split <;> omega

/-- Lower case changes no character outside the letters of ASCII. -/
theorem toLower_eq_self {c : Char} (h : c.toNat < 0x41 ∨ 0x5a < c.toNat) : c.toLower = c := by
  refine Char.toNat_inj.mp ?_
  rw [toNat_toLower, if_neg (by omega)]

/-- What lower case makes of a character is a small letter, or the character itself. -/
theorem eq_of_toLower_eq {c d : Char} (h : c.toLower = d) (hd : d.toNat < 0x61 ∨ 0x7a < d.toNat) :
    c = d := by
  rw [← h, toNat_toLower] at hd
  rw [← h, toLower_eq_self]
  split at hd <;> omega

/-- Blanks around a text with none at its ends are stripped. -/
theorem strip_append {text : String} {before core after : List Char}
    (htext : text.toList = before ++ core ++ after) (hbefore : ∀ c ∈ before, isSpace c)
    (hafter : ∀ c ∈ after, isSpace c) (hne : core ≠ []) (hhead : ∀ c ∈ core.head?, ¬ isSpace c)
    (hlast : ∀ c ∈ core.getLast?, ¬ isSpace c) : (strip text).toList = core := by
  have hcore : strip (.ofList core) = .ofList core :=
    strip_eq_self (by rwa [String.toList_ofList]) (by rwa [String.toList_ofList])
  have hdrop : (core ++ after).dropWhile isSpace = core.dropWhile isSpace ++ after := by
    cases core with
    | nil => contradiction
    | cons c core =>
      have hc := hhead c rfl
      rw [List.cons_append, List.dropWhile_cons_of_neg hc, List.dropWhile_cons_of_neg hc]
      rfl
  have hrdrop (core : List Char) : (core ++ after).rdropWhile isSpace = core.rdropWhile isSpace := by
    rw [List.rdropWhile, List.rdropWhile, List.reverse_append, List.dropWhile_append_of_pos]
    exact fun c hc => hafter c (List.mem_reverse.mp hc)
  rw [strip, String.toList_ofList, String.ofList_inj] at hcore
  rw [strip, htext, List.append_assoc, List.dropWhile_append_of_pos hbefore, hdrop, hrdrop, hcore,
    String.toList_ofList]

/-- What is stripped from a text is blank. -/
theorem exists_strip (text : String) : ∃ before after : List Char,
    text.toList = before ++ (strip text).toList ++ after ∧ (∀ c ∈ before, isSpace c) ∧
      ∀ c ∈ after, isSpace c := by
  refine ⟨text.toList.takeWhile isSpace, (text.toList.dropWhile isSpace).rtakeWhile isSpace, ?_,
    fun c => List.mem_takeWhile_imp, fun c => List.mem_rtakeWhile_imp⟩
  rw [strip, String.toList_ofList, List.append_assoc, List.rdropWhile_append_rtakeWhile,
    List.takeWhile_append_dropWhile]

theorem toLower_of_isSpace {c : Char} (h : isSpace c) : c.toLower = c := by
  refine toLower_eq_self ?_
  simp only [isSpace, decide_eq_true_eq, List.mem_cons, List.not_mem_nil, or_false] at h
  omega

/-- The code points of the zeros: the ten decimal digits of a script follow one another. -/
def zeros : List ℕ :=
  [0x30, 0x660, 0x6f0, 0x7c0, 0x966, 0x9e6, 0xa66, 0xae6, 0xb66, 0xbe6, 0xc66, 0xce6, 0xd66, 0xde6,
    0xe50, 0xed0, 0xf20, 0x1040, 0x1090, 0x17e0, 0x1810, 0x1946, 0x19d0, 0x1a80, 0x1a90, 0x1b50,
    0x1bb0, 0x1c40, 0x1c50, 0xa620, 0xa8d0, 0xa900, 0xa9d0, 0xa9f0, 0xaa50, 0xabf0, 0xff10, 0x104a0,
    0x10d30, 0x11066, 0x110f0, 0x11136, 0x111d0, 0x112f0, 0x11450, 0x114d0, 0x11650, 0x116c0,
    0x11730, 0x118e0, 0x11950, 0x11c50, 0x11d50, 0x11da0, 0x11f50, 0x16a60, 0x16ac0, 0x16b50,
    0x1d7ce, 0x1d7d8, 0x1d7e2, 0x1d7ec, 0x1d7f6, 0x1e140, 0x1e2f0, 0x1e4f0, 0x1e950, 0x1fbf0]

/-- The value of a character of the class `\d` -/
def decimal? (c : Char) : Option ℕ :=
  zeros.findSome? fun first =>
    if first ≤ c.toNat ∧ c.toNat < first + 10 then some (c.toNat - first) else none

/-- `int(digits)` of a text that matches `\d+` -/
def decimalValue (digits : List Char) : ℕ :=
  (digits.filterMap decimal?).foldl (fun value digit => 10 * value + digit) 0

/-- The zeros after that of ASCII are far away. -/
theorem zeros_eq_or_ge {first : ℕ} (h : first ∈ zeros) : first = 0x30 ∨ 0x660 ≤ first := by
  revert first
  decide

theorem toNat_of_decimal? {c : Char} (h : (decimal? c).isSome) :
    (0x30 ≤ c.toNat ∧ c.toNat ≤ 0x39) ∨ 0x660 ≤ c.toNat := by
  obtain ⟨first, hfirst, hdigit⟩ := List.exists_of_findSome?_eq_some (Option.get_mem h)
  split at hdigit
  · rcases zeros_eq_or_ge hfirst with rfl | hfar <;> omega
  · cases hdigit

/-- A decimal digit is no blank. -/
theorem isSpace_of_decimal? {c : Char} (h : (decimal? c).isSome) : isSpace c = false := by
  have hblocks : ∀ first ∈ zeros, ∀ digit < 10,
      ¬ ((0x2000 ≤ first + digit ∧ first + digit ≤ 0x200a) ∨
        first + digit ∈ [0x1680, 0x2028, 0x2029, 0x202f, 0x205f, 0x3000]) := by decide
  obtain ⟨first, hfirst, hdigit⟩ := List.exists_of_findSome?_eq_some (Option.get_mem h)
  split at hdigit
  · have hblock := hblocks first hfirst (c.toNat - first) (by omega)
    have hrange := toNat_of_decimal? h
    simp only [isSpace, decide_eq_false_iff_not, List.mem_cons, List.not_mem_nil, or_false] at *
    generalize c.toNat = code at *
    omega
  · cases hdigit

theorem decimal?_toLower (c : Char) : decimal? c.toLower = decimal? c := by
  have hnone {c : Char} (hlow : 0x3a ≤ c.toNat) (hhigh : c.toNat < 0x660) : decimal? c = none := by
    refine Option.not_isSome_iff_eq_none.mp fun h => ?_
    have := toNat_of_decimal? h
    omega
  by_cases hletter : 0x41 ≤ c.toNat ∧ c.toNat ≤ 0x5a
  · have hlower := toNat_toLower c
    rw [if_pos hletter] at hlower
    rw [hnone (by omega) (by omega), hnone (by omega) (by omega)]
  · rw [toLower_eq_self (by omega)]

theorem decimal?_of_isDigit {c : Char} (h : c.isDigit) : decimal? c = some (c.toNat - '0'.toNat) := by
  simp only [Char.isDigit, Bool.and_eq_true, decide_eq_true_eq, UInt32.le_iff_toNat_le] at h
  unfold decimal? zeros
  rw [List.findSome?_cons, if_pos (by exact ⟨h.1, Nat.lt_succ_of_le h.2⟩)]
  rfl

theorem isSpace_of_isDigit {c : Char} (h : c.isDigit) : isSpace c = false := by
  simp only [Char.isDigit, Bool.and_eq_true, decide_eq_true_eq, UInt32.le_iff_toNat_le] at h
  have hlow : 48 ≤ c.toNat := h.1
  have hhigh : c.toNat ≤ 57 := h.2
  simp only [isSpace, decide_eq_false_iff_not, List.mem_cons, List.not_mem_nil, or_false]
  generalize c.toNat = code at hlow hhigh ⊢
  omega

/-- The value of ASCII digits -/
theorem decimalValue_eq {digits : List Char} (h : ∀ c ∈ digits, c.isDigit) :
    decimalValue digits = Nat.ofDigitChars 10 digits 0 := by
  have hdigits : digits.filterMap decimal? = digits.map fun c => c.toNat - '0'.toNat := by
    rw [← List.filterMap_eq_map, List.filterMap_congr fun c hc => decimal?_of_isDigit (h c hc)]
    rfl
  rw [decimalValue, hdigits, List.foldl_map]
  rfl

/-- The sign of a number, and its digits. -/
def splitSign : List Char → ℤ × List Char
  | '-' :: digits => (-1, digits)
  | '+' :: digits => (1, digits)
  | digits => (1, digits)

/-- `int(text)`: blanks around the number, a sign and single underscores between digits are allowed;
`none` is a `ValueError`. -/
def parseInt (text : String) : Option ℤ :=
  let (sign, digits) := splitSign (strip text).toList
  if (digits.splitOn '_').all fun group => group ≠ [] ∧ group.all fun c => (decimal? c).isSome then
    some (sign * decimalValue digits)
  else none

theorem parseInt_digits {digits : List Char} (hne : digits ≠ [])
    (h : ∀ c ∈ digits, (decimal? c).isSome) :
    parseInt (.ofList digits) = some (decimalValue digits : ℤ) := by
  have hstrip : (strip (.ofList digits)).toList = digits := by
    have hblank {c : Char} (hc : c ∈ digits) : ¬ isSpace c := by
      rw [isSpace_of_decimal? (h c hc)]
      exact Bool.false_ne_true
    refine @strip_append _ [] _ [] ?_ nofun nofun hne
      (fun c hc => hblank (List.mem_of_head? hc)) fun c hc => hblank (List.mem_of_getLast? hc)
    rw [String.toList_ofList, List.append_nil, List.nil_append]
  have hsign : splitSign digits = (1, digits) := by
    unfold splitSign
    split
    · exact absurd (h _ List.mem_cons_self) (by decide)
    · exact absurd (h _ List.mem_cons_self) (by decide)
    · rfl
  have hsplit : digits.splitOn '_' = [digits] :=
    List.splitOn_eq_singleton fun hmem => absurd (h _ hmem) (by decide)
  unfold parseInt
  rw [hstrip, hsign]
  dsimp only
  rw [hsplit, if_pos, Int.one_mul]
  simpa [hne] using h

/-- `int(value)`, which drops the fraction. -/
def int (value : ℚ) : ℤ := value.num.tdiv value.den

@[simp] theorem int_intCast (n : ℤ) : int n = n := by
  simp [int]

@[simp] theorem int_natCast (n : ℕ) : int n = n := int_intCast n

/-- `Counter(items)`, as its pairs of a key and a count. -/
def counter [DecidableEq α] (items : List α) : List (α × Nat) :=
  items.dedup.map fun key => (key, items.count key)

theorem length_counter [DecidableEq α] (items : List α) :
    (counter items).length = items.toFinset.card := by
  rw [counter, List.length_map, List.card_toFinset]

/-- `list(dict.fromkeys(items))` of items that come after those of `seen`. -/
def fromkeys [DecidableEq α] (seen : List α) : List α → List α
  | [] => []
  | item :: items =>
    if item ∈ seen then fromkeys seen items else item :: fromkeys (item :: seen) items

/-- The distinct items are those that were not seen before. -/
@[simp] theorem mem_fromkeys [DecidableEq α] {seen items : List α} {item : α} :
    item ∈ fromkeys seen items ↔ item ∈ items ∧ item ∉ seen := by
  induction items generalizing seen with
  | nil => simp [fromkeys]
  | cons first items ih =>
    by_cases hfirst : first ∈ seen
    · rw [fromkeys, if_pos hfirst, ih, List.mem_cons]
      constructor
      · rintro ⟨hitem, hseen⟩
        exact ⟨.inr hitem, hseen⟩
      · rintro ⟨rfl | hitem, hseen⟩
        · exact absurd hfirst hseen
        · exact ⟨hitem, hseen⟩
    · rw [fromkeys, if_neg hfirst, List.mem_cons, ih, List.mem_cons, List.mem_cons, not_or]
      constructor
      · rintro (rfl | ⟨hitem, -, hseen⟩)
        · exact ⟨.inl rfl, hfirst⟩
        · exact ⟨.inr hitem, hseen⟩
      · rintro ⟨rfl | hitem, hseen⟩
        · exact .inl rfl
        · by_cases heq : item = first
          · exact .inl heq
          · exact .inr ⟨hitem, heq, hseen⟩

/-- Distinct items are kept as they are. -/
theorem fromkeys_fromkeys [DecidableEq α] (seen items : List α) :
    fromkeys seen (fromkeys seen items) = fromkeys seen items := by
  induction items generalizing seen with
  | nil => rfl
  | cons first items ih =>
    by_cases hfirst : first ∈ seen
    · rw [fromkeys, if_pos hfirst, ih]
    · rw [fromkeys, if_neg hfirst, fromkeys, if_neg hfirst, ih]

theorem fromkeys_of_subset [DecidableEq α] {seen items : List α} (h : ∀ item ∈ items, item ∈ seen) :
    fromkeys seen items = [] := by
  rw [List.eq_nil_iff_forall_not_mem]
  intro item hmem
  rw [mem_fromkeys] at hmem
  exact hmem.2 (h item hmem.1)

/-- `max(values) - min(values) + 1`, and `0` of nothing. -/
def extent (values : List ℤ) : ℤ :=
  match values.max?, values.min? with
  | some high, some low => high - low + 1
  | _, _ => 0

end Python
