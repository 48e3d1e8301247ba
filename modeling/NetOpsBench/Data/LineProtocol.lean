import NetOpsBench.Data.Fallible
import NetOpsBench.Data.JsonText
import NetOpsBench.Data.Replace

/-!
# Line protocol

A line has a measurement with its tags, its fields and a timestamp. The reader stops at a comma or
a space that is neither escaped nor in double quotes, and at an equals sign that is not escaped; a
backslash protects the character after it.

`read_line` is the round trip: a line of tags and fields that are escaped as their kind requires (`IsTag`,
`IsField`) is read back if and only if the quotes of each tag are even in number. The scan over a line is
put together from pieces that leave its state alone (`Passes`).
-/

namespace LineProtocol

inductive FieldValue (F64 : Type) where
  | text (value : String)
  | integer (value : Int)
  | boolean (value : Bool)
  | float (value : F64)
deriving DecidableEq

structure Point (F64 : Type) where
  measurement : String
  tags : List (String × String)
  fields : List (String × FieldValue F64)
  timestamp : Int
deriving DecidableEq

/-! ## The reader -/

/-- Double quotes protect what is between them, if `quotes`. -/
def toggle (quotes quoted : Bool) (c : Char) : Bool :=
  if quotes ∧ c = '"' then !quoted else quoted

/-- The text before the first `stop` that is not protected, and the text after it. -/
def cut (stop : Char) (quotes : Bool) : Bool → List Char → Option (List Char × List Char)
  | _, [] => none
  | quoted, '\\' :: c :: text => (cut stop quotes quoted text).map (.map (['\\', c] ++ ·) id)
  | quoted, c :: text =>
    if c = stop ∧ ¬quoted then some ([], text)
    else (cut stop quotes (toggle quotes quoted c) text).map (.map ([c] ++ ·) id)

/-- The pieces between the commas that are not protected. -/
def split : Bool → List Char → List (List Char)
  | _, [] => [[]]
  | quoted, '\\' :: c :: text => (split quoted text).modifyHead (['\\', c] ++ ·)
  | quoted, c :: text =>
    if c = ',' ∧ ¬quoted then [] :: split false text
    else (split (toggle true quoted c) text).modifyHead ([c] ++ ·)

def unescape : List Char → List Char
  | [] => []
  | '\\' :: c :: text => c :: unescape text
  | c :: text => c :: unescape text

variable {F64 : Type} (parse : String → Option F64)

def readTag (entry : List Char) : Option (String × String) :=
  (cut '=' false false entry).map fun (key, value) =>
    (.ofList (unescape key), .ofList (unescape value))

def readValue (value : List Char) : Option (FieldValue F64) :=
  if value.head? = some '"' then
    if 2 ≤ value.length ∧ value.getLast? = some '"' then
      some (.text (.ofList (unescape value.tail.dropLast)))
    else none
  else if value = ['t', 'r', 'u', 'e'] then some (.boolean true)
  else if value = ['f', 'a', 'l', 's', 'e'] then some (.boolean false)
  else if value.getLast? = some 'i' then (String.ofList value.dropLast).toInt?.map .integer
  else (parse (.ofList value)).map .float

def readField (entry : List Char) : Option (String × FieldValue F64) := do
  let (key, value) ← cut '=' false false entry
  let value ← readValue parse value
  return (.ofList (unescape key), value)

def readLine (line : List Char) : Option (Point F64) := do
  let (tagSection, rest) ← cut ' ' true false line
  let (fieldSection, timestamp) ← cut ' ' true false rest
  let measurement ← (split false tagSection).head?
  let tags ← (split false tagSection).tail.mapM readTag
  let fields ← (split false fieldSection).mapM (readField parse)
  let timestamp ← (String.ofList timestamp).toInt?
  return { measurement := .ofList (unescape measurement), tags, fields, timestamp }

def read (line : String) : Option (Point F64) := readLine parse line.toList

/-! ## What a reader passes -/

/-- The reader goes through the text without a stop, from a state of the quotes to another. -/
inductive Passes (stop : Char) (quotes : Bool) : Bool → List Char → Bool → Prop where
  | nil (quoted : Bool) : Passes stop quotes quoted [] quoted
  | escaped (c : Char) {quoted after : Bool} {text : List Char} :
    Passes stop quotes quoted text after → Passes stop quotes quoted ('\\' :: c :: text) after
  | cons {c : Char} {quoted after : Bool} {text : List Char} (hescape : c ≠ '\\')
    (hstop : c = stop → quoted) : Passes stop quotes (toggle quotes quoted c) text after →
    Passes stop quotes quoted (c :: text) after

section
variable {stop : Char} {quotes quoted after : Bool} {text : List Char}

theorem cut_cons {c : Char} (hescape : c ≠ '\\') (text : List Char) :
    cut stop quotes quoted (c :: text) =
      if c = stop ∧ ¬quoted then some ([], text)
      else (cut stop quotes (toggle quotes quoted c) text).map (.map ([c] ++ ·) id) := by
  rw [cut]
  rintro d rest ⟨⟩
  exact absurd rfl hescape

theorem split_cons {c : Char} (hescape : c ≠ '\\') (text : List Char) :
    split quoted (c :: text) =
      if c = ',' ∧ ¬quoted then [] :: split false text
      else (split (toggle true quoted c) text).modifyHead ([c] ++ ·) := by
  rw [split]
  rintro d rest ⟨⟩
  exact absurd rfl hescape

theorem unescape_cons {c : Char} (hescape : c ≠ '\\') (text : List Char) :
    unescape (c :: text) = c :: unescape text := by
  rw [unescape]
  rintro d rest ⟨⟩
  exact absurd rfl hescape

theorem Passes.cut_append (h : Passes stop quotes quoted text after) (rest : List Char) :
    cut stop quotes quoted (text ++ rest) =
      (cut stop quotes after rest).map (.map (text ++ ·) id) := by
  induction h with
  | nil => exact Option.map_id'.symm
  | escaped c _ ih =>
    rw [List.cons_append, List.cons_append, cut, ih, Option.map_map]
    rfl
  | cons hescape hstop _ ih =>
    rw [List.cons_append, cut_cons hescape, if_neg (fun hc => hc.2 (hstop hc.1)), ih,
      Option.map_map]
    rfl

theorem Passes.cut_stop (h : Passes stop quotes quoted text false) (hescape : stop ≠ '\\')
    (rest : List Char) : cut stop quotes quoted (text ++ stop :: rest) = some (text, rest) := by
  rw [h.cut_append, cut_cons hescape, if_pos ⟨rfl, Bool.false_ne_true⟩, Option.map_some]
  exact congrArg (fun text => some (text, rest)) (List.append_nil text)

theorem split_ne_nil (quoted : Bool) (text : List Char) : split quoted text ≠ [] := by
  fun_induction split quoted text with
  | case1 => exact List.cons_ne_nil _ _
  | case2 _ _ _ ih => exact fun h => ih (List.modifyHead_eq_nil_iff.mp h)
  | case3 => exact List.cons_ne_nil _ _
  | case4 _ _ _ _ _ ih => exact fun h => ih (List.modifyHead_eq_nil_iff.mp h)

theorem Passes.split_append (h : Passes ',' true quoted text after) (rest : List Char) :
    split quoted (text ++ rest) = (split after rest).modifyHead (text ++ ·) := by
  induction h with
  | nil quoted =>
    obtain ⟨first, pieces, hsplit⟩ := List.exists_cons_of_ne_nil (split_ne_nil quoted rest)
    rw [List.nil_append, hsplit]
    rfl
  | escaped c _ ih =>
    rw [List.cons_append, List.cons_append, split, ih, List.modifyHead_modifyHead]
    rfl
  | cons hescape hstop _ ih =>
    rw [List.cons_append, split_cons hescape, if_neg (fun hc => hc.2 (hstop hc.1)), ih,
      List.modifyHead_modifyHead]
    rfl

theorem Passes.append {middle : Bool} {other : List Char} (h : Passes stop quotes quoted text middle)
    (hother : Passes stop quotes middle other after) :
    Passes stop quotes quoted (text ++ other) after := by
  induction h with
  | nil => exact hother
  | escaped c _ ih => exact .escaped c (ih hother)
  | cons hescape hstop _ ih => exact .cons hescape hstop (ih hother)

end

/-! ## Plain text and escaped text -/

/-- The text has none of the characters that a reader minds. -/
def Plain (text : List Char) : Prop := ∀ c ∈ text, c ∉ ['\\', '"', ' ', ',', '=']

instance (text : List Char) : Decidable (Plain text) :=
  List.decidableBAll _ text

/-- A backslash before each special character. -/
def escape (special : Char → Bool) (text : List Char) : List Char :=
  text.flatMap fun c => if special c then ['\\', c] else [c]

section
variable {special : Char → Bool} {stop : Char} {quotes quoted : Bool} {text : List Char}

theorem toggle_of_ne {c : Char} (h : c ≠ '"') : toggle quotes quoted c = quoted :=
  if_neg fun hc => h hc.2

/-- The characters that end a tag or a field. -/
theorem mem_of_ends (hstop : stop ∈ [' ', ',']) : stop ∈ ['\\', '"', ' ', ',', '='] := by
  rcases List.mem_pair.mp hstop with rfl | rfl <;> decide

theorem Plain.passes (h : Plain text) (hstop : stop ∈ ['\\', '"', ' ', ',', '=']) (quotes quoted) :
    Passes stop quotes quoted text quoted := by
  induction text with
  | nil => exact .nil quoted
  | cons c text ih =>
    have hplain := h c List.mem_cons_self
    have hrest : Plain text := fun d hd => h d (List.mem_cons_of_mem c hd)
    have hquote : c ≠ '"' := by
      rintro rfl
      exact hplain (by decide)
    refine .cons ?_ ?_ (by rw [toggle_of_ne hquote]; exact ih hrest)
    · rintro rfl
      exact hplain (by decide)
    · rintro rfl
      exact absurd hstop hplain

theorem Plain.unescape_eq (h : Plain text) : unescape text = text := by
  induction text with
  | nil => rfl
  | cons c text ih =>
    have hescape : c ≠ '\\' := by
      rintro rfl
      exact h '\\' List.mem_cons_self (by decide)
    rw [unescape_cons hescape, ih fun d hd => h d (List.mem_cons_of_mem c hd)]

theorem escape_cons (special : Char → Bool) (c : Char) (text : List Char) :
    escape special (c :: text) =
      (if special c then ['\\', c] else [c]) ++ escape special text :=
  List.flatMap_cons

/-- What was escaped is read back, and what follows is left. -/
theorem unescape_escape_append (h : special '\\') (text rest : List Char) :
    unescape (escape special text ++ rest) = text ++ unescape rest := by
  induction text with
  | nil => rfl
  | cons c text ih =>
    rw [escape_cons]
    split
    · rw [List.append_assoc, List.cons_append, List.cons_append, List.nil_append, unescape, ih]
      rfl
    · rename_i hc
      have hescape : c ≠ '\\' := fun heq => hc (heq ▸ h)
      rw [List.append_assoc, List.singleton_append, unescape_cons hescape, ih]
      rfl

theorem unescape_escape (h : special '\\') (text : List Char) :
    unescape (escape special text) = text := by
  have happend := unescape_escape_append h text []
  rwa [List.append_nil, unescape, List.append_nil] at happend

/-- The quotes in a text that the escape leaves as they are. -/
def oddQuotes (text : List Char) : Bool := text.count '"' % 2 = 1

theorem oddQuotes_cons (c : Char) (text : List Char) :
    oddQuotes (c :: text) = toggle true (oddQuotes text) c := by
  by_cases h : c = '"'
  · subst h
    rw [toggle, if_pos ⟨rfl, rfl⟩, oddQuotes, oddQuotes, List.count_cons_self, ← decide_not]
    exact decide_eq_decide.mpr (by omega)
  · rw [toggle_of_ne h, oddQuotes, oddQuotes, List.count_cons_of_ne h]

/-- A quote toggles the state of the scan and the parity of the rest. -/
theorem toggle_xor (quoted odd : Bool) (c : Char) :
    (toggle true quoted c ^^ odd) = (quoted ^^ toggle true odd c) := by
  unfold toggle
  split
  · rw [Bool.not_xor, Bool.xor_not]
  · rfl

/-- A reader of tags only minds the quotes of an escaped text. -/
theorem passes_escape (hescape : special '\\') (hstop : special stop) (hquote : ¬ special '"')
    (quoted : Bool) (text : List Char) :
    Passes stop true quoted (escape special text) (quoted ^^ oddQuotes text) := by
  induction text generalizing quoted with
  | nil =>
    rw [show oddQuotes [] = false from rfl, Bool.xor_false]
    exact .nil quoted
  | cons c text ih =>
    rw [escape_cons, oddQuotes_cons]
    split
    · rename_i hspecial
      have hne : c ≠ '"' := fun heq => hquote (heq ▸ hspecial)
      rw [toggle_of_ne hne]
      exact .escaped c (ih quoted)
    · rename_i hspecial
      refine .cons (fun heq => hspecial (heq ▸ hescape)) (fun heq => absurd (heq ▸ hstop) hspecial) ?_
      rw [← toggle_xor]
      exact ih (toggle true quoted c)

/-- In double quotes a reader does not leave an escaped text. -/
theorem passes_escape_quoted (hescape : special '\\') (hquote : special '"') (text : List Char) :
    Passes stop true true (escape special text) true := by
  induction text with
  | nil => exact .nil true
  | cons c text ih =>
    rw [escape_cons]
    split
    · exact .escaped c ih
    · rename_i hspecial
      have hne : c ≠ '"' := fun heq => hspecial (heq ▸ hquote)
      refine .cons (fun heq => hspecial (heq ▸ hescape)) (fun _ => rfl) ?_
      rw [toggle_of_ne hne]
      exact ih

/-- Escaping goes on with another character. -/
theorem all_escape {c : Char} (hc : c ≠ '\\') (hspecial : special c = false) (text : List Char) :
    Replace.all [c] ['\\', c] (escape special text) =
      escape (fun d => special d || d = c) text := by
  rw [Replace.all_singleton, escape, escape, List.flatMap_assoc]
  congr 1
  funext d
  by_cases hd : special d
  · have hne : d ≠ c := fun heq => by rw [heq, hspecial] at hd; cases hd
    rw [if_pos hd, if_pos (by rw [hd]; rfl), List.flatMap_cons, List.flatMap_singleton,
      if_neg hc.symm, if_neg hne]
    rfl
  · rw [if_neg hd, List.flatMap_singleton]
    by_cases heq : d = c
    · rw [if_pos heq, if_pos (by simp [heq]), heq]
    · rw [if_neg heq, if_neg (by simp [hd, heq])]

theorem all_singleton_backslash (text : List Char) :
    Replace.all ['\\'] ['\\', '\\'] text = escape (· = '\\') text := by
  rw [Replace.all_singleton, escape]
  congr 1
  funext c
  by_cases h : c = '\\'
  · rw [if_pos h, if_pos (decide_eq_true h), h]
  · rw [if_neg h, if_neg (by rwa [decide_eq_true_eq])]

theorem Plain.escape_eq (h : Plain text) (hspecial : ∀ c, special c → c ∈ ['\\', '"', ' ', ',', '=']) :
    escape special text = text := by
  induction text with
  | nil => rfl
  | cons c text ih =>
    rw [escape_cons, if_neg fun hc => h c List.mem_cons_self (hspecial c hc),
      ih fun d hd => h d (List.mem_cons_of_mem c hd)]
    rfl

end

/-! ## Lines -/

def tagSpecial (c : Char) : Bool := c ∈ ['\\', ' ', ',', '=']

def fieldSpecial (c : Char) : Bool := c ∈ ['\\', '"']

/-- The text of a tag. -/
structure IsTag (entry : String) (tag : String × String) : Prop where
  plain : Plain tag.1.toList
  text_eq : entry.toList = tag.1.toList ++ '=' :: escape tagSpecial tag.2.toList

/-- The text of a field: what the value is written as has all its quotes closed. -/
structure IsField (entry : String) (field : String × FieldValue F64) : Prop where
  plain : Plain field.1.toList
  exists_value : ∃ value, entry.toList = field.1.toList ++ '=' :: value ∧
    (∀ stop ∈ [' ', ','], Passes stop true false value false) ∧ readValue parse value = some field.2

section
variable {parse} {entry : String} {tag : String × String} {field : String × FieldValue F64}

/-- A plain key is cut off at the equals sign after it. -/
theorem cut_equals {key value : List Char} (h : Plain key) :
    cut '=' false false (key ++ '=' :: value) = some (key, value) :=
  (h.passes (by decide) false false).cut_stop (by decide) value

theorem Passes.assign {key value : List Char} {stop : Char} {after : Bool} (hkey : Plain key)
    (hstop : stop ∈ [' ', ',']) (h : Passes stop true false value after) :
    Passes stop true false (key ++ '=' :: value) after := by
  refine (hkey.passes (mem_of_ends hstop) true false).append ?_
  refine .cons (by decide) ?_ (by rwa [toggle_of_ne (by decide)])
  rintro rfl
  exact absurd hstop (by decide)

theorem IsTag.read (h : IsTag entry tag) : readTag entry.toList = some tag := by
  rw [readTag, h.text_eq, cut_equals h.plain, Option.map_some]
  dsimp only
  rw [h.plain.unescape_eq, unescape_escape (by decide), String.ofList_toList,
    String.ofList_toList]

/-- A tag ends in double quotes if it has an odd number of them. -/
theorem IsTag.passes (h : IsTag entry tag) {stop : Char} (hstop : stop ∈ [' ', ',']) :
    Passes stop true false entry.toList (oddQuotes tag.2.toList) := by
  have hspecial : tagSpecial stop := by
    rcases List.mem_pair.mp hstop with rfl | rfl <;> decide
  have hvalue := passes_escape (by decide) hspecial (by decide) false tag.2.toList
  rw [Bool.false_xor] at hvalue
  rw [h.text_eq]
  exact hvalue.assign h.plain hstop

theorem IsField.read (h : IsField parse entry field) :
    readField parse entry.toList = some field := by
  obtain ⟨value, htext, -, hvalue⟩ := h.exists_value
  rw [readField, htext, cut_equals h.plain]
  dsimp only [Option.bind_eq_bind, Option.bind_some]
  rw [hvalue, Option.bind_some, h.plain.unescape_eq, String.ofList_toList]
  rfl

/-- A field passes, also where its text has blanks and commas: they stand in quotes. -/
theorem IsField.passes (h : IsField parse entry field) {stop : Char} (hstop : stop ∈ [' ', ',']) :
    Passes stop true false entry.toList false := by
  obtain ⟨value, htext, hpasses, -⟩ := h.exists_value
  rw [htext]
  exact (hpasses stop hstop).assign h.plain hstop

end

/-! ## Entries -/

section
variable {parse}

theorem isTag_escape {word key value text : String} (hkey : Plain key.toList)
    (hword : word = key ++ "=") (htext : text.toList = escape tagSpecial value.toList) :
    IsTag (word ++ text) (key, value) where
  plain := hkey
  text_eq := by
    rw [hword, String.toList_append, String.toList_append, htext, List.append_assoc]
    rfl

theorem isTag_plain {word key value : String} (hkey : Plain key.toList) (hword : word = key ++ "=")
    (hvalue : Plain value.toList) : IsTag (word ++ value) (key, value) :=
  isTag_escape hkey hword (hvalue.escape_eq fun c hc => by
    simp only [tagSpecial, decide_eq_true_eq, List.mem_cons, List.not_mem_nil, or_false] at hc ⊢
    tauto).symm

theorem isField_text {word key text value : String} (hkey : Plain key.toList)
    (hword : word = key ++ "=\"") (htext : text.toList = escape fieldSpecial value.toList) :
    IsField parse (word ++ text ++ "\"") (key, .text value) := by
  refine ⟨hkey, '"' :: (escape fieldSpecial value.toList ++ ['"']), ?_, fun stop hstop => ?_, ?_⟩
  · rw [hword]
    simp only [String.toList_append, htext, List.append_assoc]
    rfl
  · have hne : '"' ≠ stop := by
      rintro rfl
      exact absurd hstop (by decide)
    have hclose : Passes stop true true ['"'] false :=
      .cons (by decide) (fun h => absurd h hne) (.nil false)
    refine .cons (by decide) (fun h => absurd h hne) ?_
    exact (passes_escape_quoted (by decide) (by decide) value.toList).append hclose
  · have hlast : ('"' :: (escape fieldSpecial value.toList ++ ['"'])).getLast? = some '"' := by
      rw [← List.cons_append, List.getLast?_concat]
    rw [readValue, if_pos List.head?_cons, if_pos ⟨by simp, hlast⟩, List.tail_cons,
      List.dropLast_concat, unescape_escape (by decide), String.ofList_toList]

theorem isField_plain {word key value : String} {read : FieldValue F64} (hkey : Plain key.toList)
    (hword : word = key ++ "=")
    (hvalue : Plain value.toList ∧ readValue parse value.toList = some read) :
    IsField parse (word ++ value) (key, read) := by
  refine ⟨hkey, value.toList, ?_, fun stop hstop => ?_, hvalue.2⟩
  · rw [hword, String.toList_append, String.toList_append, List.append_assoc]
    rfl
  · exact hvalue.1.passes (mem_of_ends hstop) true false

/-- A value of plain text is no text in quotes. -/
theorem Plain.readValue_eq {value : List Char} (h : Plain value)
    (htrue : value ≠ ['t', 'r', 'u', 'e']) (hfalse : value ≠ ['f', 'a', 'l', 's', 'e']) :
    readValue parse value =
      if value.getLast? = some 'i' then (String.ofList value.dropLast).toInt?.map .integer
      else (parse (.ofList value)).map .float := by
  rw [readValue, if_neg, if_neg htrue, if_neg hfalse]
  intro hquote
  exact h '"' (List.mem_of_head? hquote) (by decide)

theorem readValue_boolean (value : Bool) :
    Plain (if value then "true" else "false").toList ∧
      readValue parse (if value then "true" else "false").toList = some (.boolean value) := by
  cases value
  · exact ⟨by decide +kernel, rfl⟩
  · exact ⟨by decide +kernel, rfl⟩

theorem plain_toString (value : Int) : Plain (toString value).toList := by
  intro c hc hspecial
  have hnumeral := Json.isNumeral_toString value c hc
  have hnone : ['\\', '"', ' ', ',', '='].all fun c => !Json.isNumeral c := by decide
  rw [Bool.not_eq_true' _ |>.mp (List.all_eq_true.mp hnone c hspecial)] at hnumeral
  cases hnumeral

theorem readValue_integer (value : Int) :
    Plain (toString value ++ "i").toList ∧
      readValue parse (toString value ++ "i").toList = some (.integer value) := by
  have htext : (toString value ++ "i").toList = (toString value).toList ++ ['i'] :=
    String.toList_append ..
  have hplain : Plain ((toString value).toList ++ ['i']) := by
    intro c hc
    rcases List.mem_append.mp hc with hc | hc
    · exact plain_toString value c hc
    · rw [List.mem_singleton.mp hc]
      decide
  have hlast : ((toString value).toList ++ ['i']).getLast? = some 'i' := List.getLast?_concat
  rw [htext]
  refine ⟨hplain, ?_⟩
  rw [hplain.readValue_eq, if_pos hlast, List.dropLast_concat, String.ofList_toList]
  · exact congrArg (Option.map _) (Int.toInt?_repr value)
  · intro h
    rw [h] at hlast
    cases hlast
  · intro h
    rw [h] at hlast
    cases hlast

end

/-- Entries, each after a comma. -/
def commaed (entries : List String) : List Char := entries.flatMap fun entry => ',' :: entry.toList

theorem toList_intercalate_cons (entry : String) (entries : List String) :
    (",".intercalate (entry :: entries)).toList = entry.toList ++ commaed entries := by
  induction entries generalizing entry with
  | nil => rw [String.intercalate_singleton, commaed, List.flatMap_nil, List.append_nil]
  | cons next entries ih =>
    rw [String.intercalate_cons_cons, String.toList_append, String.toList_append, ih,
      List.append_assoc]
    rfl

section
variable {entries : List String}

theorem commaed_cons (entry : String) (entries : List String) :
    commaed (entry :: entries) = ',' :: (entry.toList ++ commaed entries) :=
  List.flatMap_cons

/-- The comma before an entry is no stop for a reader that looks for a space. -/
theorem passes_commaed
    (h : ∀ entry ∈ entries, Passes ' ' true false entry.toList false) :
    Passes ' ' true false (commaed entries) false := by
  induction entries with
  | nil => exact .nil false
  | cons entry entries ih =>
    rw [commaed_cons]
    refine .cons (by decide) (by decide) ?_
    rw [toggle_of_ne (by decide)]
    exact (h entry List.mem_cons_self).append (ih fun other hother =>
      h other (List.mem_cons_of_mem entry hother))

theorem split_comma (text : List Char) : split false (',' :: text) = [] :: split false text := by
  rw [split_cons (by decide), if_pos ⟨rfl, Bool.false_ne_true⟩]

theorem split_commaed
    (h : ∀ entry ∈ entries, Passes ',' true false entry.toList false) :
    split false (commaed entries) = [] :: entries.map String.toList := by
  induction entries with
  | nil => rfl
  | cons entry entries ih =>
    rw [commaed_cons, split_comma, (h entry List.mem_cons_self).split_append,
      ih fun other hother => h other (List.mem_cons_of_mem entry hother), List.modifyHead_cons,
      List.append_nil, List.map_cons]

/-- Entries that pass are split at the commas between them. -/
theorem Passes.split_commaed {first : List Char} (hfirst : Passes ',' true false first false)
    (h : ∀ entry ∈ entries, Passes ',' true false entry.toList false) :
    split false (first ++ commaed entries) = first :: entries.map String.toList := by
  rw [hfirst.split_append, LineProtocol.split_commaed h, List.modifyHead_cons, List.append_nil]

/-! ## Reading a line back -/

variable {parse} {tags : List (String × String)} {text rest section' : List Char}

theorem exists_cons_of_cut {stop c : Char} {quotes quoted : Bool} (hescape : c ≠ '\\')
    (hpass : c = stop → quoted) (h : cut stop quotes quoted (c :: text) = some (section', rest)) :
    ∃ first, section' = c :: first ∧
      cut stop quotes (toggle quotes quoted c) text = some (first, rest) := by
  rw [cut_cons hescape, if_neg fun hc => hc.2 (hpass hc.1)] at h
  obtain ⟨⟨first, other⟩, hcut, heq⟩ := Option.map_eq_some_iff.mp h
  cases heq
  exact ⟨first, rfl, hcut⟩

/-- A tag whose quotes are odd in number swallows what follows it. -/
theorem readTag_ne {entry : String} {tag : String × String} (h : IsTag entry tag) {c : Char}
    (hc : c ≠ '\\') (more : List Char) : readTag (entry.toList ++ c :: more) ≠ some tag := by
  rw [readTag, h.text_eq, List.append_assoc, List.cons_append, cut_equals h.plain,
    Option.map_some]
  dsimp only
  rw [unescape_escape_append (by decide), unescape_cons hc]
  intro heq
  have hvalue := congrArg (fun tag => tag.2.toList.length) (Option.some.inj heq)
  simp only [String.toList_ofList, List.length_append, List.length_cons] at hvalue
  omega

/-- Something stands after each tag: the comma before the next one, or the space before the
fields. -/
theorem exists_cons_commaed (entries : List String) (text : List Char) :
    ∃ c more, commaed entries ++ ' ' :: text = c :: more ∧ c ∈ [',', ' '] := by
  cases entries with
  | nil => exact ⟨' ', text, rfl, by decide⟩
  | cons entry entries => exact ⟨',', _, by rw [commaed_cons]; rfl, by decide⟩

/-- When the quotes of a tag are odd in number, the tags are not read back. -/
theorem mapM_readTag_ne (h : List.Forall₂ IsTag entries tags)
    (hodd : ∃ tag ∈ tags, oddQuotes tag.2.toList)
    (hcut : cut ' ' true false (commaed entries ++ ' ' :: text) = some (section', rest)) :
    (split false section').tail.mapM readTag ≠ some tags := by
  induction h generalizing section' with
  | nil =>
    obtain ⟨tag, htag, -⟩ := hodd
    cases htag
  | @cons entry tag entries tags htag hrest ih =>
    rw [commaed_cons, List.cons_append] at hcut
    obtain ⟨first, rfl, hfirst⟩ := exists_cons_of_cut (by decide) (by decide) hcut
    rw [toggle_of_ne (by decide), List.append_assoc, (htag.passes (by decide)).cut_append] at hfirst
    obtain ⟨⟨later, other⟩, hlater, heq⟩ := Option.map_eq_some_iff.mp hfirst
    cases heq
    rw [split_comma, List.tail_cons, (htag.passes (by decide)).split_append]
    intro hread
    cases htagOdd : oddQuotes tag.2.toList with
    | true =>
      obtain ⟨c, more, hmore, hc⟩ := exists_cons_commaed entries text
      rw [hmore, htagOdd] at hlater
      have hescape : c ≠ '\\' := by
        rcases List.mem_pair.mp hc with rfl | rfl <;> decide
      obtain ⟨piece, rfl, -⟩ := exists_cons_of_cut hescape (fun _ => rfl) hlater
      obtain ⟨first, pieces, hsplit⟩ := List.exists_cons_of_ne_nil
        (split_ne_nil (toggle true true c) piece)
      rw [htagOdd, split_cons hescape, if_neg (fun hstop => hstop.2 rfl), hsplit,
        List.modifyHead_cons, List.modifyHead_cons] at hread
      exact readTag_ne htag hescape first (Option.mapM_cons_eq_some hread).1
    | false =>
      have hlaterOdd : ∃ tag ∈ tags, oddQuotes tag.2.toList := by
        obtain ⟨other, hother, hotherOdd⟩ := hodd
        rcases List.mem_cons.mp hother with rfl | hother
        · rw [htagOdd] at hotherOdd
          cases hotherOdd
        · exact ⟨other, hother, hotherOdd⟩
      rw [htagOdd] at hlater hread
      have hpieces : split false later = [] :: (split false later).tail := by
        cases hrest with
        | nil =>
          obtain ⟨_, hmem, _⟩ := hlaterOdd
          cases hmem
        | cons =>
          rw [commaed_cons, List.cons_append] at hlater
          obtain ⟨first, rfl, -⟩ := exists_cons_of_cut (by decide) (by decide) hlater
          rw [split_comma, List.tail_cons]
      rw [hpieces, List.modifyHead_cons, List.append_nil] at hread
      exact ih hlaterOdd hlater (Option.mapM_cons_eq_some hread).2

theorem toList_line (measurement entry fieldEntry stamp : String) (entries fieldEntries : List String) :
    (measurement ++ "," ++ ",".intercalate (entry :: entries) ++ " " ++
        ",".intercalate (fieldEntry :: fieldEntries) ++ " " ++ stamp).toList =
      measurement.toList ++ (commaed (entry :: entries) ++
        ' ' :: (fieldEntry.toList ++ commaed fieldEntries ++ ' ' :: stamp.toList)) := by
  simp only [String.toList_append, toList_intercalate_cons, commaed_cons, List.append_assoc,
    List.cons_append]
  rfl

/-- The tags of a line that is read back have even numbers of quotes. -/
theorem even_of_read_line {line measurement : String} {timestamp : Int}
    {fields : List (String × FieldValue F64)} (hmeasurement : Plain measurement.toList)
    (htags : List.Forall₂ IsTag entries tags)
    (hline : line.toList = measurement.toList ++ (commaed entries ++ ' ' :: text))
    (hread : read parse line = some { measurement, tags, fields, timestamp }) :
    ∀ tag ∈ tags, ¬ oddQuotes tag.2.toList := by
  intro tag htag hodd
  have hpasses : Passes ' ' true false measurement.toList false :=
    hmeasurement.passes (by decide) true false
  rw [read, readLine, hline, hpasses.cut_append] at hread
  obtain ⟨⟨tagSection, rest⟩, hsection, hread⟩ := Option.bind_eq_some_iff.mp hread
  obtain ⟨⟨section', other⟩, hsection', heq⟩ := Option.map_eq_some_iff.mp hsection
  cases heq
  obtain ⟨⟨fieldSection, stamp⟩, -, hread⟩ := Option.bind_eq_some_iff.mp hread
  obtain ⟨first, -, hread⟩ := Option.bind_eq_some_iff.mp hread
  obtain ⟨readTags, htagsRead, hread⟩ := Option.bind_eq_some_iff.mp hread
  obtain ⟨readFields, -, hread⟩ := Option.bind_eq_some_iff.mp hread
  obtain ⟨readTimestamp, -, hread⟩ := Option.bind_eq_some_iff.mp hread
  cases hread
  rw [(hmeasurement.passes (by decide) true false).split_append, List.tail_modifyHead] at htagsRead
  exact mapM_readTag_ne htags ⟨tag, htag, hodd⟩ hsection' htagsRead

/-- A line whose tags have even numbers of quotes is read back. -/
theorem read_line_of_even {line measurement entry fieldEntry : String}
    {entries fieldEntries : List String} {timestamp : Int} {fields : List (String × FieldValue F64)}
    (hmeasurement : Plain measurement.toList) (htags : List.Forall₂ IsTag (entry :: entries) tags)
    (hfields : List.Forall₂ (IsField parse) (fieldEntry :: fieldEntries) fields)
    (hline : line.toList = measurement.toList ++ (commaed (entry :: entries) ++
      ' ' :: (fieldEntry.toList ++ commaed fieldEntries ++ ' ' :: (toString timestamp).toList)))
    (heven : ∀ tag ∈ tags, ¬ oddQuotes tag.2.toList) :
    read parse line = some { measurement, tags, fields, timestamp } := by
  have htagPasses : ∀ other ∈ entry :: entries, ∀ stop ∈ [' ', ','],
      Passes stop true false other.toList false := fun other hother stop hstop => by
    obtain ⟨tag, htag, hrel⟩ := htags.exists_of_mem hother
    have hpasses := hrel.passes hstop
    rwa [Bool.eq_false_iff.mpr (heven tag htag)] at hpasses
  have hfieldPasses : ∀ other ∈ fieldEntry :: fieldEntries, ∀ stop ∈ [' ', ','],
      Passes stop true false other.toList false := fun other hother stop hstop => by
    obtain ⟨field, -, hrel⟩ := hfields.exists_of_mem hother
    exact hrel.passes hstop
  have hsection := ((hmeasurement.passes (by decide) true false).append (passes_commaed
    fun other hother => htagPasses other hother ' ' (by decide))).cut_stop (by decide)
      (fieldEntry.toList ++ commaed fieldEntries ++ ' ' :: (toString timestamp).toList)
  have hfieldSection := ((hfieldPasses _ List.mem_cons_self ' ' (by decide)).append (passes_commaed
    fun other hother => hfieldPasses other (List.mem_cons_of_mem _ hother) ' ' (by decide))).cut_stop
      (by decide) (toString timestamp).toList
  have htagSplit := (hmeasurement.passes (by decide) true false).split_commaed
    fun other hother => htagPasses other hother ',' (by decide)
  have hfieldSplit := (hfieldPasses _ List.mem_cons_self ',' (by decide)).split_commaed
    fun other hother => hfieldPasses other (List.mem_cons_of_mem _ hother) ',' (by decide)
  have hreadTags : ((entry :: entries).map String.toList).mapM readTag = some tags :=
    Option.mapM_map_of_forall₂ (htags.imp fun _ _ => IsTag.read)
  have hreadFields :
      ((fieldEntry :: fieldEntries).map String.toList).mapM (readField parse) = some fields :=
    Option.mapM_map_of_forall₂ (hfields.imp fun _ _ => IsField.read)
  rw [read, readLine, hline, ← List.append_assoc, hsection]
  dsimp only [Option.bind_eq_bind, Option.bind_some]
  rw [hfieldSection]
  dsimp only [Option.bind_eq_bind, Option.bind_some]
  rw [htagSplit, hfieldSplit, List.head?_cons, List.tail_cons, Option.bind_some, hreadTags,
    Option.bind_some, ← List.map_cons, hreadFields, Option.bind_some, String.ofList_toList,
    hmeasurement.unescape_eq, String.ofList_toList]
  exact congrArg (Option.bind · _) (Int.toInt?_repr timestamp)

/-- A line is read back if and only if the quotes of each tag are even in number. -/
theorem read_line {measurement word stamp : String} {fieldEntries : List String} {timestamp : Int}
    {fields : List (String × FieldValue F64)} (hmeasurement : Plain measurement.toList)
    (hword : word = measurement ++ ",") (htags : List.Forall₂ IsTag entries tags)
    (hentries : entries ≠ []) (hfields : List.Forall₂ (IsField parse) fieldEntries fields)
    (hfieldEntries : fieldEntries ≠ []) (hstamp : stamp = toString timestamp) :
    read parse (word ++ ",".intercalate entries ++ " " ++ ",".intercalate fieldEntries ++ " " ++
        stamp) = some { measurement, tags, fields, timestamp } ↔
      ∀ tag ∈ tags, ¬ oddQuotes tag.2.toList := by
  subst hword hstamp
  obtain ⟨entry, entries, rfl⟩ := List.exists_cons_of_ne_nil hentries
  obtain ⟨fieldEntry, fieldEntries, rfl⟩ := List.exists_cons_of_ne_nil hfieldEntries
  have hline := toList_line measurement entry fieldEntry (toString timestamp) entries fieldEntries
  exact ⟨even_of_read_line hmeasurement htags hline,
    read_line_of_even hmeasurement htags hfields hline⟩

end

end LineProtocol
