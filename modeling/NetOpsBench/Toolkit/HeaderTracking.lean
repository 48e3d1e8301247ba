import NetOpsBench.Toolkit.InfluxColumns

/-!
# Rows under their own header

The metric and the syslog reader use the first header of a response for all its tables. They read the
rows of the later tables right when these have the columns that the readers look at where the first
table has them (`SameReading`); of a later table without rows they only have to skip the header. The
reader of structured queries follows the headers, but takes a row for one when it has the values
`result` and `table`.

`readAlike_iff` says this of a single response: its rows do not look like headers and its later tables
are `Followable`, and then it is read right; the first is necessary, and for the second there is
otherwise a response with the same headers, and rows in the same tables, that is not. `linkUp_not_readAlike`
is a response of two tables in which the host of a log is taken for its message.

`filterMap_dictReader` and `iterAnnotatedCsvRows_eq` are what the readers make of a response;
`readWell_iff` is the equivalence over all the responses of one shape, by writing tables of probes.
-/

namespace NetOpsBench.Influx
open Python Csv

/-! ## Responses -/

structure Header where
  columns : List String
  nodup : columns.Nodup
  result_mem : "result" ∈ columns
  table_mem : "table" ∈ columns
  unbroken : ∀ column ∈ columns, ∀ c ∈ column.toList, ¬ isLineBreak c
  unmarked : ¬ isCommentRow columns

structure Table where
  header : Header
  rows : List (List String)
  length_eq : ∀ row ∈ rows, row.length = header.columns.length

namespace Table

def records (table : Table) : List (List String) := table.header.columns :: table.rows

/-- The header of a table, and whether it has rows. -/
def shape (table : Table) : Header × Bool := (table.header, table.rows ≠ [])

/-- What a reader makes of the rows of a table, each under the header of the table. -/
def read (table : Table) (reader : Cells → Option ρ) : List ρ :=
  table.rows.filterMap fun row => reader (cell table.header.columns row)

end Table

/-- A line of a response, with the record that it is. -/
inductive ResponseLine : List Char → Option (List String) → Prop where
  | blank : ResponseLine [] none
  | comment (hmarked : line.head? = some '#') (hline : IsLine line fields)
    (hcomment : isCommentRow fields) : ResponseLine line none
  | record (hunmarked : line.head? ≠ some '#') (hline : IsLine line fields)
    (hcomment : ¬ isCommentRow fields) : ResponseLine line (some fields)

/-- Annotations and blank lines may stand anywhere among the records of the tables. -/
def IsResponse (text : String) (tables : List Table) : Prop :=
  ∃ (lines : List (List Char × List Char)) (records : List (Option (List String))),
    (∀ line ∈ lines, IsEnded line.1 line.2) ∧
      text.toList = lines.flatMap (fun line => line.1 ++ line.2) ∧
      List.Forall₂ (fun line record => ResponseLine line.1 record) lines records ∧
      records.reduceOption = tables.flatMap Table.records

/-- No row has the values that the reader of structured queries takes for a header. -/
def RowsUnlikeHeaders (tables : List Table) : Prop :=
  ∀ table ∈ tables, ∀ row ∈ table.rows, ¬ isHeader row

instance (tables : List Table) : Decidable (RowsUnlikeHeaders tables) :=
  inferInstanceAs (Decidable (∀ table ∈ tables, ∀ row ∈ table.rows, ¬ isHeader row))

/-- Each later table may follow the first one. -/
def Followable (tables : List Table) : Prop :=
  ∀ first ∈ tables.head?, ∀ table ∈ tables.tail,
    MayFollow first.header.columns table.header.columns table.shape.2

/-- Each row is read under the header of its own table, by all three readers. -/
structure ReadAlike (text : String) (tables : List Table) : Prop where
  metrics : parseInfluxMetricRows text = some (tables.flatMap fun table => table.read metricRow)
  syslog : parseInfluxSyslogRows text = some (tables.flatMap fun table => table.read syslogRow)
  annotated : iterAnnotatedCsvRows text =
    some (tables.flatMap fun table => table.rows.map (rowUnder table.header.columns))

section
variable {text : String} {tables : List Table}

/-! ## Texts -/

/-- What splits off a line with its end, and leaves the rest of a text, splits a text of such lines. -/
theorem flatMap_ended {split : List Char → List (List Char)} {g : List Char → List Char → List Char}
    (hnil : split [] = []) (hsplit : ∀ {line lineEnd}, IsEnded line lineEnd → ∀ text,
      split (line ++ lineEnd ++ text) = g line lineEnd :: split text)
    {lines : List (List Char × List Char)} (h : ∀ line ∈ lines, IsEnded line.1 line.2) :
    split (lines.flatMap fun line => line.1 ++ line.2) = lines.map fun line => g line.1 line.2 := by
  induction lines with
  | nil => exact hnil
  | cons line lines ih =>
    obtain ⟨hline, hlines⟩ := List.forall_mem_cons.mp h
    rw [List.flatMap_cons, hsplit hline, ih hlines, List.map_cons]

/-- The kept lines of a response are those of its records. -/
theorem forall₂_keptLines (h : IsResponse text tables) :
    List.Forall₂ IsLine (keptLines text) (tables.flatMap Table.records) := by
  obtain ⟨lines, records, hended, htext, hlines, hrecords⟩ := h
  rw [keptLines, htext, flatMap_ended (g := fun line _ => line) rfl splitlines_ended hended,
    ← hrecords]
  clear htext hrecords hended
  induction hlines with
  | nil => exact .nil
  | @cons line record lines records hline _ ih =>
    obtain ⟨line, lineEnd⟩ := line
    rw [List.map_cons]
    dsimp only at hline ⊢
    cases hline with
    | blank => rwa [List.filter_cons_of_neg (by simp), List.reduceOption_cons_of_none]
    | comment hmarked =>
      rwa [List.filter_cons_of_neg (by simp [hmarked]), List.reduceOption_cons_of_none]
    | record hunmarked hline =>
      rw [List.filter_cons_of_pos (by simp [hunmarked, hline.ne_nil]),
        List.reduceOption_cons_of_some]
      exact .cons hline ih

/-- The reader that follows the headers sees the records of the tables. -/
theorem iterAnnotatedCsvRows_eq (h : IsResponse text tables) :
    iterAnnotatedCsvRows text = some (annotatedRows none (tables.flatMap Table.records)) := by
  obtain ⟨lines, records, hended, htext, hlines, hrecords⟩ := h
  suffices ∃ raw, Csv.read (lines.map fun line => line.1 ++ line.2) = some raw ∧
      ∀ header, annotatedRows header raw = annotatedRows header records.reduceOption by
    obtain ⟨raw, hraw, hrows⟩ := this
    rw [iterAnnotatedCsvRows, htext, flatMap_ended rfl physicalLines_ended hended, hraw,
      Option.map_some, hrows, hrecords]
  clear htext hrecords
  induction hlines with
  | nil => exact ⟨[], rfl, fun _ => rfl⟩
  | @cons line record lines records hline _ ih =>
    obtain ⟨hended, hendeds⟩ := List.forall_mem_cons.mp hended
    obtain ⟨raw, hraw, hrows⟩ := ih hendeds
    rw [List.map_cons]
    obtain ⟨line, lineEnd⟩ := line
    cases hline with
    | blank =>
      refine ⟨[] :: raw, (readFrom_blank hended.mem_lineEnds _).trans (congrArg _ hraw), ?_⟩
      intro header
      rw [annotatedRows_skip (.inl rfl), hrows, List.reduceOption_cons_of_none]
    | @comment _ fields _ hline hcomment =>
      refine ⟨fields :: raw, (readFrom_line hline hended.mem_lineEnds _).trans (congrArg _ hraw), ?_⟩
      intro header
      rw [annotatedRows_skip (.inr hcomment), hrows, List.reduceOption_cons_of_none]
    | @record _ fields _ hline =>
      refine ⟨fields :: raw, (readFrom_line hline hended.mem_lineEnds _).trans (congrArg _ hraw), ?_⟩
      intro header
      rw [List.reduceOption_cons_of_some]
      unfold annotatedRows
      simp only [hrows]

/-! ## The first header -/

theorem records_ne_nil (tables : List Table) : ∀ record ∈ tables.flatMap Table.records,
    record ≠ [] := by
  rintro record hrecord rfl
  obtain ⟨table, -, hmem⟩ := List.mem_flatMap.mp hrecord
  have hheader := List.ne_nil_of_mem table.header.result_mem
  rcases List.mem_cons.mp hmem with hempty | hempty
  · exact hheader hempty.symm
  · exact hheader (List.length_eq_zero_iff.mp (table.length_eq _ hempty).symm)

theorem dictReader_keptLines (h : IsResponse text tables) {table : Table} {rest : List Table}
    (htables : tables = table :: rest) :
    dictReader (keptLines text) = some ((table.rows ++ rest.flatMap Table.records).map
      (dictRow table.header.columns)) := by
  have hread := read_lines (forall₂_keptLines h)
  have hrecords := records_ne_nil tables
  rw [htables, List.flatMap_cons] at hread hrecords
  have hrows : (table.rows ++ rest.flatMap Table.records).filter (· ≠ []) =
      table.rows ++ rest.flatMap Table.records := by
    refine List.filter_eq_self.mpr fun record hrecord => decide_eq_true (hrecords record ?_)
    exact List.mem_cons_of_mem _ hrecord
  rw [dictReader, hread]
  simp only [Table.records, List.cons_append, Option.bind_eq_bind, Option.bind_some]
  rw [hrows]
  rfl

/-- What either reader does with a response: its rows and its later headers are read under the first
header. -/
theorem filterMap_dictReader (h : IsResponse text tables) (reader : Cells → Option ρ)
    {table : Table} {rest : List Table} (htables : tables = table :: rest) :
    (if keptLines text = [] then some [] else (dictReader (keptLines text)).map
      (·.filterMap fun row => reader fun key => (row.lookup key).join)) =
      some ((table.rows ++ rest.flatMap Table.records).filterMap fun row =>
        reader (cell table.header.columns row)) := by
  have hdict := dictReader_keptLines h htables
  rw [if_neg, hdict, Option.map_some, List.filterMap_map]
  · congr 1
    refine List.filterMap_congr fun row _ => ?_
    simp only [Function.comp_apply, lookup_dictRow table.header.nodup]
  · intro hempty
    have hlines := forall₂_keptLines h
    rw [hempty, htables, List.flatMap_cons] at hlines
    cases hlines

/-! ## Following the headers -/

theorem Header.isHeader (header : Header) : isHeader header.columns :=
  decide_eq_true ⟨header.result_mem, header.table_mem⟩

/-- Only an annotation has a `#` in front of its first field. -/
theorem IsResponse.unmarked (h : IsResponse text tables) :
    ∀ record ∈ tables.flatMap Table.records, ¬ (record = [] ∨ isCommentRow record) := by
  intro record hrecord
  refine not_or.mpr ⟨records_ne_nil tables record hrecord, ?_⟩
  obtain ⟨lines, records, -, -, hlines, hrecords⟩ := h
  rw [← hrecords, List.reduceOption_mem_iff] at hrecord
  clear hrecords
  induction hlines with
  | nil => cases hrecord
  | @cons line _ _ _ hline _ ih =>
    obtain ⟨line, lineEnd⟩ := line
    dsimp only at hline
    rcases List.mem_cons.mp hrecord with rfl | hrecord
    · cases hline with
      | record _ _ hcomment => exact hcomment
    · exact ih hrecord

theorem annotatedRows_append {names : List String} {rows : List (List String)}
    (hskip : ∀ row ∈ rows, ¬ (row = [] ∨ isCommentRow row)) (hrows : ∀ row ∈ rows, ¬ isHeader row)
    (records : List (List String)) : annotatedRows (some names) (rows ++ records) =
      rows.map (rowUnder names) ++ annotatedRows (some names) records := by
  induction rows with
  | nil => rfl
  | cons row rows ih =>
    obtain ⟨hskip, hskips⟩ := List.forall_mem_cons.mp hskip
    obtain ⟨hrow, hrows⟩ := List.forall_mem_cons.mp hrows
    rw [List.cons_append, annotatedRows_row hskip hrow, ih hskips hrows, List.map_cons,
      List.cons_append]

theorem annotatedRows_tables
    (hskip : ∀ record ∈ tables.flatMap Table.records, ¬ (record = [] ∨ isCommentRow record))
    (hrows : RowsUnlikeHeaders tables) (header : Option (List String)) :
    annotatedRows header (tables.flatMap Table.records) =
      tables.flatMap fun table => table.rows.map (rowUnder table.header.columns) := by
  induction tables generalizing header with
  | nil => rfl
  | cons table tables ih =>
    rw [List.flatMap_cons, List.forall_mem_append] at hskip
    obtain ⟨hheader, hskip'⟩ := List.forall_mem_cons.mp hskip.1
    obtain ⟨hrow, hrows⟩ := List.forall_mem_cons.mp hrows
    rw [List.flatMap_cons, Table.records, List.cons_append,
      annotatedRows_header hheader table.header.isHeader, annotatedRows_append hskip' hrow,
      ih hskip.2 hrows, List.flatMap_cons]

/-- A record that looks like a header gives no row. -/
theorem length_annotatedRows_le (header : Option (List String)) (records : List (List String)) :
    (annotatedRows header records).length ≤ records.countP fun record => !isHeader record := by
  induction records generalizing header with
  | nil => exact le_rfl
  | cons record records ih =>
    have hcount : (record :: records).countP (fun record => !isHeader record) =
        records.countP (fun record => !isHeader record) + if !isHeader record then 1 else 0 :=
      List.countP_cons
    by_cases hskip : record = [] ∨ isCommentRow record
    · rw [annotatedRows_skip hskip]
      have := ih header
      omega
    · by_cases hheader : isHeader record
      · rw [annotatedRows_header hskip hheader]
        have := ih (some record)
        omega
      · rw [if_pos (by simp [hheader])] at hcount
        cases header with
        | none =>
          rw [annotatedRows, if_neg hskip, if_neg hheader]
          have := ih none
          omega
        | some names =>
          rw [annotatedRows_row hskip hheader, List.length_cons]
          have := ih (some names)
          omega

theorem countP_records (tables : List Table) :
    (tables.flatMap Table.records).countP (fun record => !isHeader record) =
      (tables.flatMap Table.rows).countP fun row => !isHeader row := by
  induction tables with
  | nil => rfl
  | cons table tables ih =>
    rw [List.flatMap_cons, List.flatMap_cons, List.countP_append, List.countP_append, ih,
      Table.records, List.countP_cons_of_neg (by simp [table.header.isHeader])]

theorem not_isHeader_of_annotated (h : IsResponse text tables)
    (hannotated : iterAnnotatedCsvRows text =
      some (tables.flatMap fun table => table.rows.map (rowUnder table.header.columns))) :
    RowsUnlikeHeaders tables := by
  rw [iterAnnotatedCsvRows_eq h, Option.some.injEq] at hannotated
  have hlength : (tables.flatMap fun table => table.rows.map (rowUnder table.header.columns)).length =
      (tables.flatMap Table.rows).length := by
    simp only [List.length_flatMap, List.length_map]
  have hle := length_annotatedRows_le none (tables.flatMap Table.records)
  rw [hannotated, hlength, countP_records] at hle
  have hall := List.countP_eq_length.mp (le_antisymm List.countP_le_length hle)
  intro table htable row hrow hheader
  have hrow' := hall row (List.mem_flatMap.mpr ⟨table, htable, hrow⟩)
  rw [hheader] at hrow'
  cases hrow'

end

/-! ## Written responses -/

/-- A response of quoted fields, without annotations. -/
def writeResponse (tables : List Table) : String :=
  .ofList ((tables.flatMap Table.records).flatMap fun record => writeLine record ++ ['\r', '\n'])

theorem isResponse_writeResponse {tables : List Table}
    (h : ∀ record ∈ tables.flatMap Table.records,
      (∀ field ∈ record, ∀ c ∈ field.toList, ¬ isLineBreak c) ∧ ¬ isCommentRow record) :
    IsResponse (writeResponse tables) tables := by
  refine ⟨(tables.flatMap Table.records).map (writeLine ·, ['\r', '\n']),
    (tables.flatMap Table.records).map some, ?_, ?_, ?_, ?_⟩
  · intro line hline
    obtain ⟨record, hrecord, rfl⟩ := List.mem_map.mp hline
    exact ⟨unbroken_writeLine (h record hrecord).1, List.mem_cons_of_mem _ List.mem_cons_self⟩
  · rw [writeResponse, String.toList_ofList, List.flatMap_map]
  · rw [List.forall₂_map_left_iff, List.forall₂_map_right_iff, List.forall₂_same]
    intro record hrecord
    have hne := records_ne_nil tables record hrecord
    refine .record ?_ (isLine_writeLine hne) (h record hrecord).2
    obtain ⟨field, rest, rfl⟩ := List.exists_cons_of_ne_nil hne
    cases rest with
    | nil => rw [writeLine_singleton]; simp [quote]
    | cons next rest => rw [writeLine_cons_cons]; simp [quote]
  · rw [List.reduceOption, List.filterMap_map, Function.id_comp]
    exact List.filterMap_some

/-! ## Agreement -/

section
variable {text : String} {tables : List Table} {first : Header} {rest : List Table}
  {reader : Cells → Option ρ}

/-- A reader makes the same of the rows of a table under the first header as under its own, and skips
the header of the table. -/
structure Reads (reader : Cells → Option ρ) (first : Header) (table : Table) : Prop where
  rows : ∀ row ∈ table.rows, reader (cell first.columns row) = reader (cell table.header.columns row)
  header : reader (cell first.columns table.header.columns) = none

theorem ColumnsAgree.readsTable {needed shown hidden : List String}
    (hreader : Looks needed shown hidden reader) {table : Table}
    (h : ColumnsAgree needed (shown ++ hidden) first.columns table.header.columns) :
    Reads reader first table where
  rows row hrow := (h.reads hreader).1 row (table.length_eq row hrow)
  header := (h.reads hreader).2 table.header.result_mem

/-- A table that may follow is read right by both readers. -/
theorem MayFollow.reads {table : Table}
    (h : MayFollow first.columns table.header.columns table.shape.2) :
    Reads metricRow first table ∧ Reads syslogRow first table := by
  unfold MayFollow at h
  split at h
  · exact ⟨h.1.readsTable looks_metricRow, h.2.readsTable looks_syslogRow⟩
  · rename_i hrows
    have hempty : table.rows = [] := by simpa [Table.shape] using hrows
    refine ⟨⟨fun row hrow => ?_, metricRow_header.mpr h.1⟩,
      ⟨fun row hrow => ?_, syslogRow_header.mpr h.2⟩⟩
    · rw [hempty] at hrow
      cases hrow
    · rw [hempty] at hrow
      cases hrow

/-- Later tables that are read right one by one are read right together. -/
theorem filterMap_records (h : ∀ table ∈ rest, Reads reader first table) :
    (rest.flatMap Table.records).filterMap (fun row => reader (cell first.columns row)) =
      rest.flatMap fun table => table.read reader := by
  induction rest with
  | nil => rfl
  | cons table rest ih =>
    obtain ⟨htable, hrest⟩ := List.forall_mem_cons.mp h
    have hread : table.records.filterMap (fun row => reader (cell first.columns row)) =
        table.read reader := by
      rw [Table.records, List.filterMap_cons, htable.header]
      exact List.filterMap_congr htable.rows
    rw [List.flatMap_cons, List.filterMap_append, ih hrest, hread, List.flatMap_cons]

theorem readAlike_of_followable (h : IsResponse text tables) (hrows : RowsUnlikeHeaders tables)
    (hfollow : Followable tables) : ReadAlike text tables := by
  have hannotated : iterAnnotatedCsvRows text =
      some (tables.flatMap fun table => table.rows.map (rowUnder table.header.columns)) := by
    rw [iterAnnotatedCsvRows_eq h, annotatedRows_tables h.unmarked hrows]
  cases tables with
  | nil =>
    have hempty : keptLines text = [] := List.forall₂_nil_right_iff.mp (forall₂_keptLines h)
    refine ⟨?_, ?_, hannotated⟩
    · rw [parseInfluxMetricRows, if_pos hempty]; rfl
    · rw [parseInfluxSyslogRows, if_pos hempty]; rfl
  | cons first rest =>
    have hreads : ∀ table ∈ rest, Reads metricRow first.header table ∧
        Reads syslogRow first.header table :=
      fun table htable => MayFollow.reads (hfollow first rfl table htable)
    refine ⟨?_, ?_, hannotated⟩
    · rw [parseInfluxMetricRows, filterMap_dictReader h metricRow rfl, List.filterMap_append,
        filterMap_records fun table htable => (hreads table htable).1]
      rfl
    · rw [parseInfluxSyslogRows, filterMap_dictReader h syslogRow rfl, List.filterMap_append,
        filterMap_records fun table htable => (hreads table htable).2]
      rfl

end

/-! ## Tables of probes -/

section
variable {first : Header} {later : List (Header × Bool)} {fill : ℕ → String}
  {needed shown hidden : List String} {reader : Cells → Option ρ}

def emptyTable (header : Header) : Table where
  header
  rows := []
  length_eq := by
    intro row hrow
    cases hrow

def probeTable (header : Header) (fill : ℕ → String) : Table where
  header
  rows := [fillRow fill header.columns.length]
  length_eq := by
    intro row hrow
    rw [List.mem_singleton.mp hrow, length_fillRow]

/-- A table of the shape: its row, if it has one, has no value that a reader shows. -/
def blankTable (shape : Header × Bool) : Table :=
  if shape.2 then probeTable shape.1 fun _ => "" else emptyTable shape.1

/-- Blank tables, but for one. -/
def probeTables (before : List (Header × Bool)) (header : Header) (fill : ℕ → String)
    (after : List (Header × Bool)) : List Table :=
  before.map blankTable ++ probeTable header fill :: after.map blankTable

theorem shape_blankTable (shape : Header × Bool) : (blankTable shape).shape = shape := by
  obtain ⟨header, hasRows⟩ := shape
  cases hasRows <;> rfl

theorem map_shape_blankTable (shapes : List (Header × Bool)) :
    (shapes.map blankTable).map Table.shape = shapes := by
  rw [List.map_map]
  exact (List.map_congr_left fun shape _ => shape_blankTable shape).trans (List.map_id shapes)

theorem blank_mem_probes : "" ∈ probes := List.mem_cons_self

/-- A reader skips a row of empty values, under any header. -/
theorem Looks.blank (hreader : Looks needed shown hidden reader) (hneeded : needed ≠ [])
    (columns : List String) (width : ℕ) :
    reader (cell columns (fillRow (fun _ => "") width)) = none := by
  obtain ⟨name, hname⟩ := List.exists_mem_of_ne_nil needed hneeded
  refine hreader.missing hname (present_eq_none.mpr ?_)
  rw [cell]
  cases columns.idxOf? name with
  | none => exact .inl rfl
  | some i =>
    rw [Option.bind_some, fillRow, List.getElem?_map]
    cases (List.range width)[i]? with
    | none => exact .inl rfl
    | some _ => exact .inr (.inl rfl)

/-- A reader makes nothing of the rows of a blank table. -/
theorem read_blankTable (hreader : Looks needed shown hidden reader) (hneeded : needed ≠ [])
    (columns : List String) (shape : Header × Bool) :
    (blankTable shape).rows.filterMap (fun row => reader (cell columns row)) = [] := by
  obtain ⟨header, hasRows⟩ := shape
  cases hasRows with
  | false => rfl
  | true =>
    refine List.filterMap_eq_nil_iff.mpr fun row hrow => ?_
    rw [List.mem_singleton.mp hrow]
    exact hreader.blank hneeded columns _

theorem read_blankTables (hreader : Looks needed shown hidden reader) (hneeded : needed ≠ [])
    (shapes : List (Header × Bool)) :
    ((shapes.map blankTable).flatMap fun table => table.read reader) = [] := by
  rw [List.flatMap_map, List.flatMap_eq_nil_iff]
  exact fun shape _ => read_blankTable hreader hneeded _ shape

/-- Of blank tables, a reader can make something of the headers only. -/
theorem filterMap_blankTables (hreader : Looks needed shown hidden reader) (hneeded : needed ≠ [])
    (columns : List String) (shapes : List (Header × Bool)) :
    ((shapes.map blankTable).flatMap Table.records).filterMap (fun row => reader (cell columns row)) =
      shapes.filterMap fun shape => reader (cell columns shape.1.columns) := by
  induction shapes with
  | nil => rfl
  | cons shape shapes ih =>
    have hheader : (blankTable shape).header = shape.1 := congrArg Prod.fst (shape_blankTable shape)
    rw [List.map_cons, List.flatMap_cons, List.filterMap_append, ih, Table.records,
      List.filterMap_cons, read_blankTable hreader hneeded, hheader, List.filterMap_cons]
    cases reader (cell columns shape.1.columns) <;> rfl

theorem unbroken_probe {text : String} (h : text ∈ probes) :
    (∀ c ∈ text.toList, ¬ isLineBreak c) ∧ text.toList.head? ≠ some '#' ∧ text ≠ "table" := by
  have hprobes : ∀ text ∈ probes, text.toList.all (fun c => !isLineBreak c) = true ∧
      text.toList.head? ≠ some '#' ∧ text ≠ "table" := by decide +kernel
  obtain ⟨hunbroken, hrest⟩ := hprobes text h
  exact ⟨fun c hc => by simpa using List.all_eq_true.mp hunbroken c hc, hrest⟩

/-- A table whose records may be written, and whose rows do not look like headers. -/
structure Writable (table : Table) : Prop where
  records : ∀ record ∈ table.records,
    (∀ field ∈ record, ∀ c ∈ field.toList, ¬ isLineBreak c) ∧ ¬ isCommentRow record
  rows : ∀ row ∈ table.rows, ¬ isHeader row

theorem writable_emptyTable (header : Header) : Writable (emptyTable header) where
  records record hrecord := by
    rw [List.mem_singleton.mp hrecord]
    exact ⟨header.unbroken, header.unmarked⟩
  rows row hrow := by cases hrow

theorem writable_probeTable (header : Header) (hfill : ∀ i, fill i ∈ probes) :
    Writable (probeTable header fill) where
  records record hrecord := by
    rcases List.mem_pair.mp hrecord with rfl | rfl
    · exact ⟨header.unbroken, header.unmarked⟩
    · refine ⟨fun field hfield => ?_, fun hmarked => ?_⟩
      · obtain ⟨i, -, rfl⟩ := List.mem_map.mp hfield
        exact (unbroken_probe (hfill i)).1
      · obtain ⟨field, hhead, hmark⟩ := (Option.any_eq_true _ _).mp hmarked
        obtain ⟨i, -, rfl⟩ := List.mem_map.mp (List.mem_of_head? hhead)
        exact (unbroken_probe (hfill i)).2.1 (of_decide_eq_true hmark)
  rows row hrow := by
    rw [List.mem_singleton.mp hrow]
    intro hheader
    obtain ⟨i, -, hi⟩ := List.mem_map.mp (of_decide_eq_true hheader).2
    exact (unbroken_probe (hfill i)).2.2 hi

theorem writable_blankTables (shapes : List (Header × Bool)) :
    ∀ table ∈ shapes.map blankTable, Writable table := by
  intro table htable
  obtain ⟨shape, -, rfl⟩ := List.mem_map.mp htable
  unfold blankTable
  split
  · exact writable_probeTable shape.1 fun _ => blank_mem_probes
  · exact writable_emptyTable shape.1

theorem isResponse_of_writable {tables : List Table} (h : ∀ table ∈ tables, Writable table) :
    IsResponse (writeResponse tables) tables := by
  refine isResponse_writeResponse fun record hrecord => ?_
  obtain ⟨table, htable, hmem⟩ := List.mem_flatMap.mp hrecord
  exact (h table htable).records record hmem

/-! ## The responses of one shape -/

/-- Every response with these headers, and rows in these tables, is read right, unless a row of it
looks like a header. -/
def ReadWell (shapes : List (Header × Bool)) : Prop :=
  ∀ text tables, IsResponse text tables → tables.map Table.shape = shapes →
    RowsUnlikeHeaders tables → ReadAlike text tables

/-- What a reader makes of a response, as both of them make it. -/
def ReadsBy (reader : Cells → Option ρ) (text : String) (tables : List Table) : Prop :=
  (if keptLines text = [] then some [] else (dictReader (keptLines text)).map
    (·.filterMap fun row => reader fun key => (row.lookup key).join)) =
      some (tables.flatMap fun table => table.read reader)

/-- A reader that is right about every response of a shape is right about written ones. -/
theorem filterMap_of_readWell {firstRows : Bool} (h : ReadWell ((first, firstRows) :: later))
    (hreader : Looks needed shown hidden reader) (hneeded : needed ≠ [])
    (hread : ∀ {text tables}, ReadAlike text tables → ReadsBy reader text tables) {tables : List Table}
    (hshape : tables.map Table.shape = later) (hwritable : ∀ table ∈ tables, Writable table) :
    (tables.flatMap Table.records).filterMap (fun row => reader (cell first.columns row)) =
      tables.flatMap fun table => table.read reader := by
  have hwritable' : ∀ table ∈ blankTable (first, firstRows) :: tables, Writable table :=
    List.forall_mem_cons.mpr
      ⟨writable_blankTables [(first, firstRows)] _ List.mem_cons_self, hwritable⟩
  have hresponse := isResponse_of_writable hwritable'
  have halike := h _ _ hresponse (by rw [List.map_cons, shape_blankTable, hshape])
    fun table htable => (hwritable' table htable).rows
  have hfirst : (blankTable (first, firstRows)).header = first :=
    congrArg Prod.fst (shape_blankTable (first, firstRows))
  have hresult := hread halike
  rw [ReadsBy, filterMap_dictReader hresponse reader rfl, hfirst, List.filterMap_append,
    read_blankTable hreader hneeded, List.nil_append, List.flatMap_cons, Table.read,
    read_blankTable hreader hneeded, List.nil_append, Option.some.injEq] at hresult
  exact hresult

/-- No header of a shape that is read right is taken for a row. -/
theorem header_of_readWell {firstRows : Bool} (h : ReadWell ((first, firstRows) :: later))
    (hreader : Looks needed shown hidden reader) (hneeded : needed ≠ [])
    (hread : ∀ {text tables}, ReadAlike text tables → ReadsBy reader text tables) :
    ∀ shape ∈ later, reader (cell first.columns shape.1.columns) = none := by
  have hrows := filterMap_of_readWell h hreader hneeded hread (map_shape_blankTable later)
    (writable_blankTables later)
  rw [filterMap_blankTables hreader hneeded, read_blankTables hreader hneeded,
    List.filterMap_eq_nil_iff] at hrows
  exact hrows

/-- A table with rows in a shape that is read right reads alike under the first header. -/
theorem alike_of_readWell {firstRows : Bool} (h : ReadWell ((first, firstRows) :: later))
    (hreader : Looks needed shown hidden reader) (hneeded : needed ≠ [])
    (hread : ∀ {text tables}, ReadAlike text tables → ReadsBy reader text tables)
    {header : Header} (hmem : (header, true) ∈ later) : Alike reader first.columns header.columns := by
  have hheaders := header_of_readWell h hreader hneeded hread
  obtain ⟨before, after, hlater⟩ := List.append_of_mem hmem
  have hnone (shapes : List (Header × Bool)) (hsub : ∀ shape ∈ shapes, shape ∈ later) :
      shapes.filterMap (fun shape => reader (cell first.columns shape.1.columns)) = [] :=
    List.filterMap_eq_nil_iff.mpr fun shape hshape => hheaders shape (hsub shape hshape)
  have hbefore := hnone before fun shape hshape => hlater ▸ List.mem_append_left _ hshape
  have hafter := hnone after fun shape hshape =>
    hlater ▸ List.mem_append_right _ (List.mem_cons_of_mem _ hshape)
  intro fill hfill
  have hshape : (probeTables before header fill after).map Table.shape = later := by
    rw [probeTables, List.map_append, List.map_cons, map_shape_blankTable, map_shape_blankTable,
      hlater]
    rfl
  have hwritable : ∀ table ∈ probeTables before header fill after, Writable table := by
    intro table htable
    rcases List.mem_append.mp htable with htable | htable
    · exact writable_blankTables before table htable
    · rcases List.mem_cons.mp htable with rfl | htable
      · exact writable_probeTable header hfill
      · exact writable_blankTables after table htable
  have hrows := filterMap_of_readWell h hreader hneeded hread hshape hwritable
  have hself (row : List String) : [header.columns, row].filterMap
      (fun row => reader (cell first.columns row)) = (reader (cell first.columns row)).toList := by
    simp only [List.filterMap_cons, hheaders _ hmem, List.filterMap_nil]
    cases reader (cell first.columns row) <;> rfl
  have hown (row : List String) : [row].filterMap
      (fun row => reader (cell header.columns row)) = (reader (cell header.columns row)).toList := by
    simp only [List.filterMap_cons, List.filterMap_nil]
    cases reader (cell header.columns row) <;> rfl
  rw [probeTables, List.flatMap_append, List.flatMap_cons, List.flatMap_append, List.flatMap_cons,
    List.filterMap_append, List.filterMap_append, filterMap_blankTables hreader hneeded,
    filterMap_blankTables hreader hneeded, read_blankTables hreader hneeded,
    read_blankTables hreader hneeded, hbefore, hafter, List.nil_append, List.append_nil,
    List.nil_append, List.append_nil] at hrows
  have hrow := (hself (fillRow fill header.columns.length)).symm.trans (hrows.trans (hown _))
  rw [← cell_fillRow, ← cell_fillRow]
  simpa using congrArg List.head? hrow

/-- All responses of a shape are read right exactly when its later tables may follow the first. -/
theorem readWell_iff (shapes : List (Header × Bool)) :
    ReadWell shapes ↔ ∀ first ∈ shapes.head?, ∀ shape ∈ shapes.tail,
      MayFollow first.1.columns shape.1.columns shape.2 := by
  constructor
  · intro h first hfirst shape hshape
    obtain ⟨later, rfl⟩ : ∃ later, shapes = first :: later :=
      ⟨shapes.tail, (List.cons_head?_tail hfirst).symm⟩
    obtain ⟨header, hasRows⟩ := shape
    cases hasRows with
    | true =>
      have hmetric := alike_of_readWell h looks_metricRow (by decide) ReadAlike.metrics hshape
      have hsyslog := alike_of_readWell h looks_syslogRow (by decide) ReadAlike.syslog hshape
      exact ⟨hmetric.metric header.result_mem, hsyslog.syslog header.result_mem⟩
    | false =>
      have hmetric := header_of_readWell h looks_metricRow (by decide) ReadAlike.metrics _ hshape
      have hsyslog := header_of_readWell h looks_syslogRow (by decide) ReadAlike.syslog _ hshape
      exact ⟨metricRow_header.mp hmetric, syslogRow_header.mp hsyslog⟩
  · rintro h text tables hresponse rfl hrows
    refine readAlike_of_followable hresponse hrows fun first hfirst table htable => ?_
    refine h first.shape ?_ table.shape ?_
    · rw [List.head?_map]
      exact Option.mem_map_of_mem _ hfirst
    · rw [← List.map_tail]
      exact List.mem_map_of_mem htable

theorem followable_iff_readWell (tables : List Table) :
    Followable tables ↔ ReadWell (tables.map Table.shape) := by
  rw [readWell_iff, ← List.map_tail, List.head?_map]
  simp only [Option.mem_map, forall_exists_index, and_imp, forall_apply_eq_imp_iff₂, List.forall_mem_map]
  rfl

/-- A response is read right when none of its rows looks like a header and its later tables may follow
the first. Nothing else is read right by the reader that follows the headers; and where a later table
may not follow, some response with the same headers and rows in the same tables is read wrong. -/
theorem readAlike_iff {text : String} {tables : List Table} (h : IsResponse text tables) :
    (RowsUnlikeHeaders tables ∧ Followable tables → ReadAlike text tables) ∧
      (ReadAlike text tables → RowsUnlikeHeaders tables) ∧
      (¬ Followable tables → ∃ other others, IsResponse other others ∧
        others.map Table.shape = tables.map Table.shape ∧ RowsUnlikeHeaders others ∧
          ¬ ReadAlike other others) := by
  refine ⟨fun hmeets => readAlike_of_followable h hmeets.1 hmeets.2,
    fun hread => not_isHeader_of_annotated h hread.annotated, fun hnot => ?_⟩
  rw [followable_iff_readWell, ReadWell] at hnot
  push Not at hnot
  exact hnot

end

/-! ## Two tables of logs -/

theorem unbroken_of_all {columns : List String}
    (h : (columns.all fun column => column.toList.all fun c => !isLineBreak c) = true) :
    ∀ column ∈ columns, ∀ c ∈ column.toList, ¬ isLineBreak c := by
  intro column hcolumn c hc
  simpa using List.all_eq_true.mp (List.all_eq_true.mp h column hcolumn) c hc

def messageFirst : Header where
  columns := ["", "result", "table", "_time", "_value", "hostname"]
  nodup := by decide
  result_mem := by decide
  table_mem := by decide
  unbroken := unbroken_of_all (by decide +kernel)
  unmarked := by decide +kernel

def hostnameFirst : Header where
  columns := ["", "result", "table", "_time", "hostname", "_value"]
  nodup := by decide
  result_mem := by decide
  table_mem := by decide
  unbroken := unbroken_of_all (by decide +kernel)
  unmarked := by decide +kernel

def linkUp : Table where
  header := hostnameFirst
  rows := [["", "_result", "1", "2026-01-01T00:00:01Z", "spine1", "link up"]]
  length_eq := by decide

theorem isResponse_of_all {tables : List Table}
    (h : ((tables.flatMap Table.records).all fun record =>
      (record.all fun field => field.toList.all fun c => !isLineBreak c) && !isCommentRow record) =
        true) : IsResponse (writeResponse tables) tables := by
  refine isResponse_writeResponse fun record hrecord => ?_
  obtain ⟨hunbroken, hunmarked⟩ :=
    (Bool.and_eq_true _ _).mp (List.all_eq_true.mp h record hrecord)
  exact ⟨unbroken_of_all hunbroken, by simpa using hunmarked⟩

/-- A later table with other columns, but without rows, does no harm. -/
theorem linkUp_readAlike :
    ReadAlike (writeResponse [linkUp, emptyTable messageFirst]) [linkUp, emptyTable messageFirst] := by
  have hresponse : IsResponse (writeResponse [linkUp, emptyTable messageFirst])
      [linkUp, emptyTable messageFirst] := isResponse_of_all (by decide +kernel)
  refine (readAlike_iff hresponse).1 ⟨by decide +kernel, ?_⟩
  intro first hfirst table htable
  cases hfirst
  rw [List.mem_singleton.mp htable]
  exact ⟨.inl (.inl (by decide)), .inl (by decide)⟩

/-- The host of the second table is taken for its message. -/
theorem linkUp_not_readAlike :
    IsResponse (writeResponse [emptyTable messageFirst, linkUp]) [emptyTable messageFirst, linkUp] ∧
      ¬ ReadAlike (writeResponse [emptyTable messageFirst, linkUp])
        [emptyTable messageFirst, linkUp] := by
  refine ⟨isResponse_of_all (by decide +kernel), fun h => ?_⟩
  have hlogs := h.syslog
  revert hlogs
  decide +kernel

end NetOpsBench.Influx
