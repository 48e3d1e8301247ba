import NetOpsBench.Data.Python
import NetOpsBench.Data.Dict

/-!
# CSV

The reader of Python's `csv` module in its default dialect, as a machine that takes one character
at a time, and the dictionaries that it makes of the rows. A writer that quotes every field is
read back.

A line that the machine has read to the end of a record is an `IsLine` of it. `read_lines` reads such
lines one by one, and `isLine_writeLine` says that the writer writes them. `lookup_dictRow` is the value
of a row under a column.
-/

namespace Csv

/-! ## The reader -/

inductive Mode where
  | startRecord
  | startField
  | inField
  | inQuotedField
  | quoteInQuotedField
  | eatCrnl
deriving DecidableEq, Repr

/-- The record that is being read: its last field is still open. -/
structure Reader where
  mode : Mode := .startRecord
  field : List Char := []
  fields : List String := []
deriving DecidableEq, Repr

namespace Reader

def addChar (reader : Reader) (c : Char) (mode : Mode) : Reader :=
  { reader with field := reader.field ++ [c], mode }

def saveField (reader : Reader) (mode : Mode) : Reader where
  mode
  field := []
  fields := reader.fields ++ [.ofList reader.field]

def startField (reader : Reader) (c : Char) : Reader :=
  if c = '\n' ∨ c = '\r' then reader.saveField .eatCrnl
  else if c = '"' then { reader with mode := .inQuotedField }
  else if c = ',' then reader.saveField .startField
  else reader.addChar c .inField

/-- A character of a line; `none` is the error of a line break inside a field. -/
def step (reader : Reader) (c : Char) : Option Reader :=
  match reader.mode with
  | .startRecord =>
    some (if c = '\n' ∨ c = '\r' then { reader with mode := .eatCrnl } else reader.startField c)
  | .startField => some (reader.startField c)
  | .inField =>
    some (if c = '\n' ∨ c = '\r' then reader.saveField .eatCrnl
      else if c = ',' then reader.saveField .startField
      else reader.addChar c .inField)
  | .inQuotedField =>
    some (if c = '"' then { reader with mode := .quoteInQuotedField }
      else reader.addChar c .inQuotedField)
  | .quoteInQuotedField =>
    some (if c = '"' then reader.addChar c .inQuotedField
      else if c = ',' then reader.saveField .startField
      else if c = '\n' ∨ c = '\r' then reader.saveField .eatCrnl
      else reader.addChar c .inField)
  | .eatCrnl => if c = '\n' ∨ c = '\r' then some reader else none

/-- What the end of a line does; a quoted field stays open. -/
def endLine (reader : Reader) : Reader :=
  match reader.mode with
  | .startField | .inField | .quoteInQuotedField => reader.saveField .startRecord
  | .eatCrnl => { reader with mode := .startRecord }
  | .startRecord | .inQuotedField => reader

end Reader

/-- The records of lines that come after those that left the reader behind. -/
def readFrom (reader : Reader) : List (List Char) → Option (List (List String))
  | [] =>
    some (if reader.mode = .inQuotedField then [(reader.saveField .startRecord).fields] else [])
  | line :: lines => do
    let reader := (← line.foldlM Reader.step reader).endLine
    if reader.mode = .startRecord then
      return reader.fields :: (← readFrom {} lines)
    else readFrom reader lines

/-- `list(csv.reader(lines))` -/
def read (lines : List (List Char)) : Option (List (List String)) := readFrom {} lines

/-! ## Dictionaries -/

/-- `dict(zip(header, row))` with `None` for the fields that the row lacks; what it has beyond the
header goes under a key that is no text, and is left out here. -/
def dictRow (header row : List String) : Dict String (Option String) :=
  .ofItems (header.zip (row.map some) ++ (header.drop row.length).map (·, none))

/-- `list(csv.DictReader(lines))` -/
def dictReader (lines : List (List Char)) : Option (List (Dict String (Option String))) := do
  match ← read lines with
  | [] => return []
  | header :: rows => return (rows.filter (· ≠ [])).map (dictRow header)

/-! ## Lines -/

/-- A line that reads as one record. -/
def IsLine (line : List Char) (fields : List String) : Prop :=
  ∃ reader : Reader, line.foldlM Reader.step {} = some reader ∧
    reader.mode ∈ [Mode.startField, .inField, .quoteInQuotedField] ∧
    (reader.saveField .startRecord).fields = fields

/-- What may stand after a line. -/
def lineEnds : List (List Char) := [[], ['\n'], ['\r', '\n']]

/-- A line break after a complete record ends the record. -/
theorem foldlM_lineEnd {reader : Reader}
    (hmode : reader.mode ∈ [Mode.startField, .inField, .quoteInQuotedField]) {lineEnd : List Char}
    (hend : lineEnd ∈ lineEnds) :
    ∃ after : Reader, lineEnd.foldlM Reader.step reader = some after ∧
      after.endLine = reader.saveField .startRecord := by
  obtain ⟨mode, field, fields⟩ := reader
  simp only [lineEnds, List.mem_cons, List.not_mem_nil, or_false] at hmode hend
  rcases hend with rfl | rfl | rfl <;> rcases hmode with rfl | rfl | rfl <;> exact ⟨_, rfl, rfl⟩

/-- A line gives its record, whatever ends it. -/
theorem readFrom_line {line : List Char} {fields : List String} (h : IsLine line fields)
    {lineEnd : List Char} (hend : lineEnd ∈ lineEnds) (lines : List (List Char)) :
    readFrom {} ((line ++ lineEnd) :: lines) = (readFrom {} lines).map (fields :: ·) := by
  obtain ⟨reader, hread, hmode, rfl⟩ := h
  obtain ⟨after, hafter, hsaved⟩ := foldlM_lineEnd hmode hend
  have hline : (line ++ lineEnd).foldlM Reader.step {} = some after := by
    rw [List.foldlM_append, hread]
    exact hafter
  rw [readFrom, hline]
  simp only [Option.bind_eq_bind, Option.bind_some, hsaved]
  rw [if_pos (show (reader.saveField .startRecord).mode = .startRecord from rfl)]
  cases readFrom {} lines <;> rfl

/-- Lines without their line breaks give their records. -/
theorem read_lines {lines : List (List Char)} {records : List (List String)}
    (h : List.Forall₂ IsLine lines records) : read lines = some records := by
  induction h with
  | nil => rfl
  | @cons line record lines records hline _ ih =>
    have hread := readFrom_line hline (show [] ∈ lineEnds from List.mem_cons_self) lines
    rw [List.append_nil] at hread
    exact hread.trans (congrArg _ ih)

/-- A line break alone gives the empty record. -/
theorem readFrom_blank {lineEnd : List Char} (hend : lineEnd ∈ lineEnds)
    (lines : List (List Char)) :
    readFrom {} (lineEnd :: lines) = (readFrom {} lines).map ([] :: ·) := by
  have hblank : ∃ after : Reader, lineEnd.foldlM Reader.step {} = some after ∧
      after.endLine = {} := by
    simp only [lineEnds, List.mem_cons, List.not_mem_nil, or_false] at hend
    rcases hend with rfl | rfl | rfl <;> exact ⟨_, rfl, rfl⟩
  obtain ⟨after, hafter, hempty⟩ := hblank
  rw [readFrom, hafter]
  simp only [Option.bind_eq_bind, Option.bind_some, hempty, if_true]
  cases readFrom {} lines <;> rfl

theorem IsLine.ne_nil {line : List Char} {fields : List String} (h : IsLine line fields) :
    line ≠ [] := by
  rintro rfl
  obtain ⟨reader, hread, hmode, -⟩ := h
  cases hread
  simp at hmode

/-! ## Texts -/

/-- `list(StringIO(text))`: a line keeps its line feed. -/
def physicalLines : List Char → List (List Char)
  | [] => []
  | c :: text =>
    if c = '\n' then ['\n'] :: physicalLines text
    else match physicalLines text with
      | [] => [[c]]
      | line :: lines => (c :: line) :: lines

/-- A line without line breaks, ended by one. -/
def IsEnded (line lineEnd : List Char) : Prop :=
  (∀ c ∈ line, ¬ Python.isLineBreak c) ∧ lineEnd ∈ [['\n'], ['\r', '\n']]

theorem IsEnded.mem_lineEnds {line lineEnd : List Char} (h : IsEnded line lineEnd) :
    lineEnd ∈ lineEnds := List.mem_cons_of_mem _ h.2

/-- The lines with their line breaks are split off one by one. -/
theorem physicalLines_ended {line lineEnd : List Char} (h : IsEnded line lineEnd)
    (text : List Char) :
    physicalLines (line ++ lineEnd ++ text) = (line ++ lineEnd) :: physicalLines text := by
  obtain ⟨hline, hend⟩ := h
  induction line with
  | nil =>
    simp only [List.mem_cons, List.not_mem_nil, or_false] at hend
    rcases hend with rfl | rfl <;> simp [physicalLines]
  | cons c line ih =>
    have hc : c ≠ '\n' := by
      rintro rfl
      exact hline _ List.mem_cons_self (by decide)
    rw [List.cons_append, List.cons_append, physicalLines, if_neg hc,
      ih fun d hd => hline d (List.mem_cons_of_mem _ hd)]

theorem splitlines_ended {line lineEnd : List Char} (h : IsEnded line lineEnd) (text : List Char) :
    Python.splitlines (line ++ lineEnd ++ text) = line :: Python.splitlines text := by
  obtain ⟨hline, hend⟩ := h
  induction line with
  | nil =>
    simp only [List.mem_cons, List.not_mem_nil, or_false] at hend
    rcases hend with rfl | rfl
    · simp [Python.splitlines, Python.isLineBreak]
    · simp [Python.splitlines]
  | cons c line ih =>
    have hc := hline c List.mem_cons_self
    have hrest := ih fun d hd => hline d (List.mem_cons_of_mem _ hd)
    have hr : c ≠ '\r' := by
      rintro rfl
      exact hc (by decide)
    rw [List.cons_append, List.cons_append, Python.splitlines.eq_3 _ _ (by simp [hr]), if_neg hc,
      hrest]

/-! ## The writer -/

def escape : List Char → List Char
  | [] => []
  | c :: text => if c = '"' then '"' :: '"' :: escape text else c :: escape text

def quote (field : String) : List Char := '"' :: escape field.toList ++ ['"']

/-- The line of `csv.writer` with `QUOTE_ALL` -/
def writeLine (fields : List String) : List Char := [','].intercalate (fields.map quote)

theorem writeLine_singleton (field : String) : writeLine [field] = quote field := by
  rw [writeLine, List.map_singleton, List.intercalate_singleton]

theorem writeLine_cons_cons (field next : String) (rest : List String) :
    writeLine (field :: next :: rest) = quote field ++ ',' :: writeLine (next :: rest) := by
  simp [writeLine, List.intercalate]

/-- The text of a quoted field is added to what the field has. -/
theorem foldlM_escape (text field : List Char) (fields : List String) :
    (escape text).foldlM Reader.step { mode := .inQuotedField, field, fields } =
      some { mode := .inQuotedField, field := field ++ text, fields } := by
  induction text generalizing field with
  | nil => rw [List.append_nil]; rfl
  | cons c text ih =>
    have hfield : field ++ c :: text = field ++ [c] ++ text := List.append_cons ..
    rw [escape, hfield, ← ih]
    split
    · rename_i hquote
      rw [hquote]
      rfl
    · rename_i hquote
      rw [List.foldlM_cons]
      simp only [Reader.step, if_neg hquote]
      rfl

theorem foldlM_quote {mode : Mode} (hmode : mode = .startRecord ∨ mode = .startField)
    (field : String) (fields : List String) :
    (quote field).foldlM Reader.step { mode, fields } =
      some { mode := .quoteInQuotedField, field := field.toList, fields } := by
  have hstart : Reader.step { mode, fields } '"' = some { mode := .inQuotedField, fields } := by
    rcases hmode with rfl | rfl <;> rfl
  rw [quote, List.cons_append, List.foldlM_cons, hstart]
  simp only [Option.bind_eq_bind, Option.bind_some]
  rw [List.foldlM_append, foldlM_escape]
  rfl

theorem foldlM_writeLine {mode : Mode} (hmode : mode = .startRecord ∨ mode = .startField)
    (field : String) (rest fields : List String) :
    ∃ reader : Reader, (writeLine (field :: rest)).foldlM Reader.step { mode, fields } =
        some reader ∧ reader.mode = .quoteInQuotedField ∧
      (reader.saveField .startRecord).fields = fields ++ field :: rest := by
  induction rest generalizing mode field fields with
  | nil =>
    refine ⟨{ mode := .quoteInQuotedField, field := field.toList, fields }, ?_, rfl, ?_⟩
    · rw [writeLine_singleton]
      exact foldlM_quote hmode field fields
    · simp [Reader.saveField]
  | cons next rest ih =>
    obtain ⟨reader, hread, hreader, hfields⟩ := ih (.inr rfl) next (fields ++ [field])
    refine ⟨reader, ?_, hreader, ?_⟩
    · rw [writeLine_cons_cons, List.foldlM_append, foldlM_quote hmode, Option.bind_eq_bind, Option.bind_some,
        List.foldlM_cons]
      simpa [Reader.step, Reader.saveField] using hread
    · rw [hfields, List.append_assoc, List.singleton_append]

/-- What the writer writes is read back. -/
theorem isLine_writeLine {fields : List String} (hne : fields ≠ []) :
    IsLine (writeLine fields) fields := by
  obtain ⟨field, rest, rfl⟩ := List.exists_cons_of_ne_nil hne
  obtain ⟨reader, hread, hmode, hfields⟩ := foldlM_writeLine (.inl rfl) field rest []
  exact ⟨reader, hread, by simp [hmode], hfields⟩

theorem mem_escape {c : Char} {text : List Char} (h : c ∈ escape text) : c ∈ text := by
  induction text with
  | nil => exact h
  | cons d text ih =>
    rw [escape] at h
    split at h
    · rename_i hd
      rw [List.mem_cons, List.mem_cons] at h
      rcases h with rfl | rfl | h
      · exact hd ▸ List.mem_cons_self
      · exact hd ▸ List.mem_cons_self
      · exact List.mem_cons_of_mem _ (ih h)
    · rcases List.mem_cons.mp h with rfl | h
      · exact List.mem_cons_self
      · exact List.mem_cons_of_mem _ (ih h)

/-- The writer adds no line break. -/
theorem unbroken_writeLine {fields : List String}
    (h : ∀ field ∈ fields, ∀ c ∈ field.toList, ¬ Python.isLineBreak c) :
    ∀ c ∈ writeLine fields, ¬ Python.isLineBreak c := by
  have hquote {field : String} (hfield : ∀ c ∈ field.toList, ¬ Python.isLineBreak c) :
      ∀ c ∈ quote field, ¬ Python.isLineBreak c := by
    intro c hc
    rcases List.mem_cons.mp hc with rfl | hc
    · decide
    · rcases List.mem_append.mp hc with hc | hc
      · exact hfield c (mem_escape hc)
      · rw [List.mem_singleton.mp hc]
        decide
  induction fields with
  | nil => simp [writeLine]
  | cons field rest ih =>
    obtain ⟨hfield, hrest⟩ := List.forall_mem_cons.mp h
    cases rest with
    | nil => exact writeLine_singleton field ▸ hquote hfield
    | cons next rest =>
      intro c hc
      rw [writeLine_cons_cons, List.mem_append, List.mem_cons] at hc
      rcases hc with hc | rfl | hc
      · exact hquote hfield c hc
      · decide
      · exact ih hrest c hc

/-! ## Cells -/

/-- The cell of a row in the column of a name. -/
def cell (header row : List String) (name : String) : Option String :=
  (header.idxOf? name).bind (row[·]?)

theorem idxOf?_eq_some {header : List String} {name : String} {i : ℕ}
    (h : header.idxOf? name = some i) : header[i]? = some name := by
  rw [List.idxOf?_eq_some_iff] at h
  obtain ⟨hi, hname, -⟩ := h
  rw [List.getElem?_eq_getElem hi, hname]

theorem keys_dictRow (header row : List String) : (header.zip (row.map some) ++
    (header.drop row.length).map (·, (none : Option String))).map Prod.fst = header := by
  induction header generalizing row with
  | nil => rw [List.zip_nil_left, List.drop_nil]; rfl
  | cons name header ih =>
    cases row with
    | nil => simp [Function.comp_def]
    | cons field row => simpa using ih row

/-- The dictionary of a row has the cell of a column under its name. -/
theorem lookup_dictRow {header : List String} (hheader : header.Nodup) (row : List String)
    (name : String) : ((dictRow header row).lookup name).join = cell header row name := by
  have hkeys := keys_dictRow header row
  unfold cell dictRow
  cases hcolumn : header.idxOf? name with
  | none =>
    have hmem : name ∉ header := List.idxOf?_eq_none_iff.mp hcolumn
    have hlookup : (Dict.ofItems (header.zip (row.map some) ++
        (header.drop row.length).map (·, none))).lookup name = none := by
      rw [AList.lookup_eq_none, Dict.mem_ofItems]
      rintro ⟨item, hitem, rfl⟩
      exact hmem (hkeys ▸ List.mem_map_of_mem hitem)
    rw [hlookup]
    rfl
  | some i =>
    have hname := idxOf?_eq_some hcolumn
    have hitem : (name, row[i]?) ∈ header.zip (row.map some) ++
        (header.drop row.length).map (·, (none : Option String)) := by
      rw [List.mem_append]
      rcases lt_or_ge i row.length with hi | hi
      · refine .inl (List.mem_iff_getElem?.mpr ⟨i, ?_⟩)
        rw [List.getElem?_zip_eq_some]
        simp [hname, List.getElem?_eq_getElem hi]
      · refine .inr (List.mem_map.mpr ⟨name, List.mem_iff_getElem?.mpr ⟨i - row.length, ?_⟩, ?_⟩)
        · rw [List.getElem?_drop, Nat.add_sub_cancel' hi, hname]
        · rw [List.getElem?_eq_none hi]
    rw [Dict.lookup_ofItems_of_mem (hkeys.symm ▸ hheader) hitem]
    rfl

end Csv
