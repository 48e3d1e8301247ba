import NetOpsBench.Toolkit.InfluxRows

/-!
# Columns under two headers

The metric and the syslog reader look at a few columns. They make the same of every record under two
headers exactly when these columns are at the same places in both, or a column that the reader needs
is missing in both: `ColumnsAgree.reads` is one half, `Alike.metric` and `Alike.syslog` are the other.
The records that tell two headers apart have only the texts in `probes`.

A header is itself a line of a response. `metricRow_header` and `syslogRow_header` say when a reader
that takes it for a row skips it (`LineSkipped`).
-/

namespace NetOpsBench.Influx
open Python Csv

/-! ## Columns -/

/-- Where a record as long as the header has what the first header puts under a name. -/
def column (first header : List String) (name : String) : Option ℕ :=
  (first.idxOf? name).filter (· < header.length)

def SameColumn (first header : List String) (name : String) : Prop :=
  column first header name = header.idxOf? name

/-- The columns that a reader looks at are at the same places, or the ones it needs are missing
under both headers. -/
def ColumnsAgree (needed others first header : List String) : Prop :=
  (∀ name ∈ "result" :: (needed ++ others), SameColumn first header name) ∨
    (∃ name ∈ needed, name ∉ header) ∧ ∃ name ∈ needed, column first header name = none

def metricColumns : List String := ["_field", "_time", "_value"]
def syslogColumns : List String := ["_time", "_value"]
def tagColumns : List String := ["severity", "appname", "source", "hostname", "host"]

/-- The rows of a table with the header are read right under the first one. -/
def SameReading (first header : List String) : Prop :=
  ColumnsAgree metricColumns [] first header ∧ ColumnsAgree syslogColumns tagColumns first header

/-- A line of column names that is taken for a row has `result` where the first header has it, or, in a
column that the reader needs, nothing or the name of that column. -/
def LineSkipped (needed first header : List String) : Prop :=
  cell first header "result" = some "result" ∨ ∃ name ∈ needed,
    cell first header name = none ∨ cell first header name = some "" ∨
      cell first header name = some name

/-- A table that may follow one with the first header. When it has no rows, it is enough that neither
reader makes a row of its header. -/
def MayFollow (first header : List String) (hasRows : Bool) : Prop :=
  if hasRows then SameReading first header
  else
    (LineSkipped metricColumns first header ∨ (cell first header "_value").bind parseFloat = none) ∧
      LineSkipped syslogColumns first header

/-! ## Readers -/

/-- What a reader looks at: it needs some of the columns, and a row that it returns shows all but the
hidden ones. -/
structure Looks (needed shown hidden : List String) (reader : Cells → Option ρ) : Prop where
  congr : ∀ {get get' : Cells},
    (∀ name ∈ "result" :: (needed ++ (shown ++ hidden)), get name = get' name) →
      reader get = reader get'
  repeated : ∀ {get : Cells}, get "result" = some "result" → reader get = none
  missing : ∀ {get : Cells} {name}, name ∈ needed → present get name = none → reader get = none
  complete : ∀ {get : Cells}, get "result" ≠ some "result" →
    (∀ name ∈ needed, get name = some "1" ∨ get name = some "2") → (reader get).isSome
  shows : ∀ {get get' : Cells}, reader get = reader get' → (reader get).isSome →
    (∀ name ∈ needed, get name = some "1" ∨ get name = some "2") →
    (∀ name ∈ needed, get' name = some "1" ∨ get' name = some "2") →
      ∀ name ∈ needed ++ shown, get name = get' name
  result_notMem : "result" ∉ needed

theorem present_eq {get : Cells} {name value : String} (h : get name = some value)
    (hempty : value ≠ "") (hname : value ≠ name) : present get name = some value := by
  rw [present, h, truthy_some hempty, Option.filter_some_pos (by exact decide_eq_true hname)]

theorem parseFloat_one : parseFloat "1" = some (.finite false (1 : ℕ)) :=
  parseFloat_of_decimal (by decide +kernel) (by decide)

theorem parseFloat_two : parseFloat "2" = some (.finite false (2 : ℕ)) :=
  parseFloat_of_decimal (by decide +kernel) (by decide)

theorem present_congr {get get' : Cells} {name : String} (h : get name = get' name) :
    present get name = present get' name := by
  rw [present, h, present]

theorem present_of_missing {get : Cells} {name : String} (h : get name = none) :
    present get name = none := by
  rw [present, h]
  rfl

theorem present_eq_none {get : Cells} {name : String} :
    present get name = none ↔ get name = none ∨ get name = some "" ∨ get name = some name := by
  unfold present
  cases hcell : get name with
  | none => simp [truthy]
  | some text =>
    by_cases hempty : text = ""
    · simp [hempty, truthy]
    · rw [truthy_some hempty]
      simp [Option.filter_eq_none_iff, hempty]

theorem get_of_present {get : Cells} {name value : String} (h : present get name = some value) :
    get name = some value := by
  obtain ⟨hmem, -⟩ := Option.filter_eq_some_iff.mp h
  exact (Option.filter_eq_some_iff.mp hmem).1

theorem present_of_mark {get : Cells} {name : String} (h : get name = some "1" ∨ get name = some "2")
    (hname : name ≠ "1" ∧ name ≠ "2") : present get name = get name := by
  rcases h with h | h
  · rw [h, present_eq h (by decide) hname.1.symm]
  · rw [h, present_eq h (by decide) hname.2.symm]

theorem metricRow_eq {get : Cells} (h : get "result" ≠ some "result")
    (hmarks : ∀ name ∈ metricColumns, get name = some "1" ∨ get name = some "2") :
    ∃ field time value number, get "_field" = some field ∧ get "_time" = some time ∧
      get "_value" = some value ∧ parseFloat value = some number ∧
      metricRow get = some ⟨field, time, number⟩ := by
  obtain ⟨field, hfield⟩ : ∃ field, get "_field" = some field :=
    (hmarks "_field" (by decide)).elim (⟨_, ·⟩) (⟨_, ·⟩)
  obtain ⟨time, htime⟩ : ∃ time, get "_time" = some time :=
    (hmarks "_time" (by decide)).elim (⟨_, ·⟩) (⟨_, ·⟩)
  obtain ⟨value, number, hvalue, hnumber⟩ : ∃ value number, get "_value" = some value ∧
      parseFloat value = some number :=
    (hmarks "_value" (by decide)).elim (⟨_, _, ·, parseFloat_one⟩) (⟨_, _, ·, parseFloat_two⟩)
  refine ⟨field, time, value, number, hfield, htime, hvalue, hnumber, ?_⟩
  rw [metricRow, if_neg h, present_of_mark (hmarks "_field" (by decide)) (by decide),
    present_of_mark (hmarks "_time" (by decide)) (by decide),
    present_of_mark (hmarks "_value" (by decide)) (by decide), hfield, htime, hvalue]
  simp [hnumber]

theorem looks_metricRow : Looks metricColumns [] [] metricRow where
  congr := by
    intro get get' h
    rw [metricRow, metricRow, h "result" (by decide), present_congr (h "_field" (by decide)),
      present_congr (h "_time" (by decide)), present_congr (h "_value" (by decide))]
  repeated := by
    intro get h
    rw [metricRow, if_pos h]
  missing := by
    intro get name hname h
    unfold metricRow
    split
    · rfl
    · simp only [metricColumns, List.mem_cons, List.not_mem_nil, or_false] at hname
      rcases hname with rfl | rfl | rfl
      · rw [h]; rfl
      · rw [h]; cases present get "_field" <;> rfl
      · rw [h]
        cases present get "_field" <;> cases present get "_time" <;> rfl
  complete := by
    intro get h hmarks
    obtain ⟨_, _, _, _, -, -, -, -, hrow⟩ := metricRow_eq h hmarks
    rw [hrow, Option.isSome_some]
  shows := by
    intro get get' hsame hsome hmarks hmarks' name hname
    have hresult (get : Cells) (h : (metricRow get).isSome) : get "result" ≠ some "result" := by
      intro hrepeated
      rw [metricRow, if_pos hrepeated] at h
      cases h
    obtain ⟨_, _, value, _, hfield, htime, hvalue, hnumber, hrow⟩ :=
      metricRow_eq (hresult get hsome) hmarks
    obtain ⟨_, _, value', _, hfield', htime', hvalue', hnumber', hrow'⟩ :=
      metricRow_eq (hresult get' (hsame ▸ hsome)) hmarks'
    rw [hrow, hrow', Option.some.injEq, MetricRow.mk.injEq] at hsame
    obtain ⟨rfl, rfl, rfl⟩ := hsame
    simp only [metricColumns, List.append_nil, List.mem_cons, List.not_mem_nil, or_false] at hname
    rcases hname with rfl | rfl | rfl
    · rw [hfield, hfield']
    · rw [htime, htime']
    · -- the two numbers are told apart
      have hvalues := hmarks "_value" (by decide)
      have hvalues' := hmarks' "_value" (by decide)
      rw [hvalue, Option.some.injEq, Option.some.injEq] at hvalues
      rw [hvalue', Option.some.injEq, Option.some.injEq] at hvalues'
      rw [hvalue, hvalue']
      have hnumbers : parseFloat value = parseFloat value' := hnumber.trans hnumber'.symm
      have hne : parseFloat "1" ≠ parseFloat "2" := by
        rw [parseFloat_one, parseFloat_two]
        simp
      rcases hvalues with rfl | rfl <;> rcases hvalues' with rfl | rfl
      · rfl
      · exact absurd hnumbers hne
      · exact absurd hnumbers.symm hne
      · rfl
  result_notMem := by decide

theorem syslogRow_eq {get : Cells} (h : get "result" ≠ some "result")
    (hmarks : ∀ name ∈ syslogColumns, get name = some "1" ∨ get name = some "2") :
    ∃ time message, get "_time" = some time ∧ get "_value" = some message ∧
      syslogRow get = some {
        time, message, severity := get "severity", appname := get "appname"
        hostname := (truthy (get "hostname")).or (get "host"), source := get "source" } := by
  obtain ⟨time, htime⟩ : ∃ time, get "_time" = some time :=
    (hmarks "_time" (by decide)).elim (⟨_, ·⟩) (⟨_, ·⟩)
  obtain ⟨message, hmessage⟩ : ∃ message, get "_value" = some message :=
    (hmarks "_value" (by decide)).elim (⟨_, ·⟩) (⟨_, ·⟩)
  refine ⟨time, message, htime, hmessage, ?_⟩
  rw [syslogRow, if_neg h, present_of_mark (hmarks "_time" (by decide)) (by decide),
    present_of_mark (hmarks "_value" (by decide)) (by decide), htime, hmessage]
  rfl

theorem looks_syslogRow :
    Looks syslogColumns ["severity", "appname", "source"] ["hostname", "host"] syslogRow where
  congr := by
    intro get get' h
    rw [syslogRow, syslogRow, h "result" (by decide), present_congr (h "_time" (by decide)),
      present_congr (h "_value" (by decide)), h "severity" (by decide), h "appname" (by decide),
      h "hostname" (by decide), h "host" (by decide), h "source" (by decide)]
  repeated := by
    intro get h
    rw [syslogRow, if_pos h]
  missing := by
    intro get name hname h
    unfold syslogRow
    split
    · rfl
    · simp only [syslogColumns, List.mem_cons, List.not_mem_nil, or_false] at hname
      rcases hname with rfl | rfl
      · rw [h]; rfl
      · rw [h]; cases present get "_time" <;> rfl
  complete := by
    intro get h hmarks
    obtain ⟨_, _, -, -, hrow⟩ := syslogRow_eq h hmarks
    rw [hrow, Option.isSome_some]
  shows := by
    intro get get' hsame hsome hmarks hmarks' name hname
    have hresult (get : Cells) (h : (syslogRow get).isSome) : get "result" ≠ some "result" := by
      intro hrepeated
      rw [syslogRow, if_pos hrepeated] at h
      cases h
    obtain ⟨_, _, htime, hmessage, hrow⟩ := syslogRow_eq (hresult get hsome) hmarks
    obtain ⟨_, _, htime', hmessage', hrow'⟩ := syslogRow_eq (hresult get' (hsame ▸ hsome)) hmarks'
    rw [hrow, hrow', Option.some.injEq, SyslogRow.mk.injEq] at hsame
    obtain ⟨rfl, rfl, hseverity, happname, -, hsource⟩ := hsame
    simp only [syslogColumns, List.cons_append, List.nil_append, List.mem_cons, List.not_mem_nil,
      or_false] at hname
    rcases hname with rfl | rfl | rfl | rfl | rfl
    · rw [htime, htime']
    · rw [hmessage, hmessage']
    · exact hseverity
    · exact happname
    · exact hsource
  result_notMem := by decide

/-! ## Headers that are taken for rows -/

theorem metricRow_header {first header : List String} :
    metricRow (cell first header) = none ↔
      LineSkipped metricColumns first header ∨
        (cell first header "_value").bind parseFloat = none := by
  have hskipped : LineSkipped metricColumns first header ↔
      cell first header "result" = some "result" ∨
        ∃ name ∈ metricColumns, present (cell first header) name = none := by
    simp only [LineSkipped, present_eq_none]
  rw [hskipped]
  constructor
  · intro h
    by_contra hread
    simp only [not_or, not_exists, not_and] at hread
    obtain ⟨⟨hresult, hneeded⟩, hvalue⟩ := hread
    obtain ⟨field, hfield⟩ := Option.ne_none_iff_exists'.mp (hneeded "_field" (by decide))
    obtain ⟨time, htime⟩ := Option.ne_none_iff_exists'.mp (hneeded "_time" (by decide))
    obtain ⟨value, hshown⟩ := Option.ne_none_iff_exists'.mp (hneeded "_value" (by decide))
    obtain ⟨number, hnumber⟩ := Option.ne_none_iff_exists'.mp hvalue
    rw [get_of_present hshown, Option.bind_some] at hnumber
    rw [metricRow, if_neg hresult, hfield, htime, hshown] at h
    simp [hnumber] at h
  · rintro ((hresult | ⟨name, hname, hnone⟩) | hvalue)
    · exact looks_metricRow.repeated hresult
    · exact looks_metricRow.missing hname hnone
    · by_cases hmissing : present (cell first header) "_value" = none
      · exact looks_metricRow.missing (by decide) hmissing
      · obtain ⟨value, hshown⟩ := Option.ne_none_iff_exists'.mp hmissing
        rw [get_of_present hshown, Option.bind_some] at hvalue
        unfold metricRow
        split
        · rfl
        · rw [hshown]
          simp [hvalue]

theorem syslogRow_header {first header : List String} :
    syslogRow (cell first header) = none ↔ LineSkipped syslogColumns first header := by
  have hskipped : LineSkipped syslogColumns first header ↔
      cell first header "result" = some "result" ∨
        ∃ name ∈ syslogColumns, present (cell first header) name = none := by
    simp only [LineSkipped, present_eq_none]
  rw [hskipped]
  constructor
  · intro h
    by_contra hread
    simp only [not_or, not_exists, not_and] at hread
    obtain ⟨hresult, hneeded⟩ := hread
    obtain ⟨time, htime⟩ := Option.ne_none_iff_exists'.mp (hneeded "_time" (by decide))
    obtain ⟨message, hmessage⟩ := Option.ne_none_iff_exists'.mp (hneeded "_value" (by decide))
    rw [syslogRow, if_neg hresult, htime, hmessage] at h
    cases h
  · rintro (hresult | ⟨name, hname, hnone⟩)
    · exact looks_syslogRow.repeated hresult
    · exact looks_syslogRow.missing hname hnone

/-! ## What a later header must have -/

section
variable {first header row : List String} {name : String} {needed shown hidden : List String}
  {reader : Cells → Option ρ}

theorem cell_eq_column (hrow : row.length = header.length) :
    cell first row name = (column first header name).bind (row[·]?) := by
  unfold cell column
  cases first.idxOf? name with
  | none => rfl
  | some i =>
    by_cases hi : i < header.length
    · rw [Option.filter_some_pos (by exact decide_eq_true hi)]
    · rw [Option.filter_some_neg (by simpa using hi), Option.bind_some,
        List.getElem?_eq_none (by omega)]
      rfl

theorem SameColumn.cell (h : SameColumn first header name) (hrow : row.length = header.length) :
    cell first row name = cell header row name := by
  rw [cell_eq_column hrow, h]
  rfl

/-- Where the columns agree, a row reads the same, and the header itself is skipped. -/
theorem ColumnsAgree.reads (hreader : Looks needed shown hidden reader)
    (h : ColumnsAgree needed (shown ++ hidden) first header) :
    (∀ row, row.length = header.length → reader (cell first row) = reader (cell header row)) ∧
      ("result" ∈ header → reader (cell first header) = none) := by
  rcases h with hsame | ⟨⟨own, hown, hmissing⟩, column, hcolumn, hnone⟩
  · refine ⟨fun row hrow => hreader.congr fun name hname => (hsame name hname).cell hrow, ?_⟩
    intro hresult
    refine hreader.repeated ?_
    rw [(hsame "result" List.mem_cons_self).cell rfl]
    obtain ⟨i, hi⟩ := Option.isSome_iff_exists.mp (List.isSome_idxOf?.mpr hresult)
    rw [Csv.cell, hi, Option.bind_some, idxOf?_eq_some hi]
  · have hfirst (row : List String) (hrow : row.length = header.length) :
        reader (cell first row) = none :=
      hreader.missing hcolumn (present_of_missing (by rw [cell_eq_column hrow, hnone]; rfl))
    refine ⟨fun row hrow => (hfirst row hrow).trans
      (hreader.missing hown (present_of_missing ?_)).symm, fun _ => hfirst header rfl⟩
    rw [Csv.cell, List.idxOf?_eq_none_iff.mpr hmissing]
    rfl

/-- The cells of a row with the text `fill i` at place `i`. -/
def probe (place : String → Option ℕ) (fill : ℕ → String) : Cells := fun name => (place name).map fill

/-- `special` at one place. -/
def mark (special : String) (place i : ℕ) : String := if i = place then special else "2"

theorem eq_of_marks {a b : Option ℕ} (h : ∀ place, a.map (mark "1" place) = b.map (mark "1" place)) :
    a = b := by
  have hmark (i j : ℕ) : mark "1" i j = mark "1" i i → j = i := by
    unfold mark
    split <;> simp_all
  cases a with
  | none =>
    cases b with
    | none => rfl
    | some j => cases h j
  | some i =>
    cases b with
    | none => cases h i
    | some j => rw [hmark i j (Option.some.inj (h i)).symm]

/-- Different names have different places. -/
def Apart (place : String → Option ℕ) : Prop :=
  ∀ {name name' i}, place name = some i → place name' = some i → name = name'

theorem mark_one (place i : ℕ) : mark "1" place i = "1" ∨ mark "1" place i = "2" := by
  unfold mark
  split
  · exact .inl rfl
  · exact .inr rfl

/-- Marked with `1`, a row has a number under every column that it needs. -/
theorem probe_mark_one {c : String → Option ℕ} (hc : ∀ name ∈ needed, (c name).isSome) (place : ℕ) :
    ∀ name ∈ needed, probe c (mark "1" place) name = some "1" ∨
      probe c (mark "1" place) name = some "2" := by
  intro name hname
  obtain ⟨i, hi⟩ := Option.isSome_iff_exists.mp (hc name hname)
  rw [probe, hi, Option.map_some, Option.some.injEq, Option.some.injEq]
  exact mark_one place i

theorem probe_mark_one_ne (c : String → Option ℕ) (place : ℕ) :
    probe c (mark "1" place) "result" ≠ some "result" := by
  rw [probe]
  cases c "result" with
  | none => simp
  | some i => rcases mark_one place i with hi | hi <;> simp [hi]

/-- A marked row is read just when it has all columns that the reader needs. -/
theorem Looks.isSome_probe_iff (hreader : Looks needed shown hidden reader)
    (c : String → Option ℕ) (place : ℕ) :
    (reader (probe c (mark "1" place))).isSome ↔ ∀ name ∈ needed, (c name).isSome := by
  refine ⟨fun hread name hname => ?_, fun hc =>
    hreader.complete (probe_mark_one_ne c place) (probe_mark_one hc place)⟩
  by_contra hnone
  rw [Option.not_isSome_iff_eq_none] at hnone
  rw [hreader.missing hname (present_of_missing (by rw [probe, hnone]; rfl))] at hread
  cases hread

/-- The row that is skipped under its own header is skipped under the first one, so its columns
`result` are the same. -/
theorem Looks.result_eq (hreader : Looks needed shown hidden reader) {a b : String → Option ℕ}
    (hb : Apart b) {i : ℕ} (hi : b "result" = some i) (hneeded : ∀ name ∈ needed, (b name).isSome)
    (hsame : ∀ name ∈ needed, a name = b name)
    (h : reader (probe a (mark "result" i)) = reader (probe b (mark "result" i))) :
    a "result" = b "result" := by
  have hown : reader (probe b (mark "result" i)) = none :=
    hreader.repeated (by simp [probe, hi, mark])
  by_contra hplace
  have hskipped : probe a (mark "result" i) "result" ≠ some "result" := by
    rw [probe]
    cases hcolumn : a "result" with
    | none => simp
    | some j =>
      have hj : j ≠ i := by
        rintro rfl
        exact hplace (hcolumn.trans hi.symm)
      simp [mark, hj]
  have hcells : ∀ name ∈ needed, probe a (mark "result" i) name = some "1" ∨
      probe a (mark "result" i) name = some "2" := by
    intro name hname
    obtain ⟨j, hj⟩ := Option.isSome_iff_exists.mp (hneeded name hname)
    have hne : j ≠ i := by
      rintro rfl
      exact hreader.result_notMem (hb hj hi ▸ hname)
    right
    simp [probe, hsame name hname, hj, mark, hne]
  have hread := hreader.complete hskipped hcells
  rw [h, hown] at hread
  cases hread

/-- A reader that takes every row for the same at two sets of places finds its columns at the same
places, or misses one it needs in both. -/
theorem places_agree (hreader : Looks needed shown hidden reader) {a b : String → Option ℕ}
    (hb : Apart b) (hresult : (b "result").isSome)
    (h : ∀ special ∈ ["1", "result"], ∀ place,
      reader (probe a (mark special place)) = reader (probe b (mark special place))) :
    (∀ name ∈ "result" :: (needed ++ shown), a name = b name) ∧ (∀ name ∈ needed, (b name).isSome) ∨
      (∃ name ∈ needed, b name = none) ∧ ∃ name ∈ needed, a name = none := by
  have hone (place : ℕ) := h "1" List.mem_cons_self place
  have hboth : (∀ name ∈ needed, (a name).isSome) ↔ ∀ name ∈ needed, (b name).isSome := by
    rw [← hreader.isSome_probe_iff a 0, ← hreader.isSome_probe_iff b 0, hone]
  have hmissing {c : String → Option ℕ} (hc : ¬ ∀ name ∈ needed, (c name).isSome) :
      ∃ name ∈ needed, c name = none := by
    simpa using hc
  by_cases hneeded : ∀ name ∈ needed, (b name).isSome
  · left
    have hfirst := hboth.mpr hneeded
    have hshown : ∀ name ∈ needed ++ shown, a name = b name := by
      intro name hname
      refine eq_of_marks fun place => ?_
      exact hreader.shows (hone place) ((hreader.isSome_probe_iff a place).mpr hfirst)
        (probe_mark_one hfirst place) (probe_mark_one hneeded place) name hname
    refine ⟨List.forall_mem_cons.mpr ⟨?_, hshown⟩, hneeded⟩
    obtain ⟨i, hi⟩ := Option.isSome_iff_exists.mp hresult
    exact hreader.result_eq hb hi hneeded
      (fun name hname => hshown name (List.mem_append_left _ hname))
      (h "result" (List.mem_cons_of_mem _ List.mem_cons_self) i)
  · exact .inr ⟨hmissing hneeded, hmissing (mt hboth.mp hneeded)⟩

/-! ## The host of a log -/

/-- `row.get("hostname") or row.get("host")` of two places. -/
def hostCell (hostname host : Option ℕ) (fill : ℕ → String) : Option String :=
  (truthy (hostname.map fill)).or (host.map fill)

theorem hostCell_mark (hostname host : Option ℕ) (place : ℕ) :
    hostCell hostname host (mark "1" place) = (hostname.or host).map (mark "1" place) := by
  unfold hostCell
  cases hostname with
  | none => rfl
  | some i =>
    have hne : mark "1" place i ≠ "" := by
      rcases mark_one place i with h | h <;> rw [h] <;> decide
    rw [Option.map_some, truthy_some hne]
    rfl

/-- An empty text at one place, `1` at another. -/
def markTwo (empty place i : ℕ) : String := if i = empty then "" else mark "1" place i

theorem map_markTwo {host : Option ℕ} {empty : ℕ} (h : host ≠ some empty) (place : ℕ) :
    host.map (markTwo empty place) = host.map (mark "1" place) := by
  cases host with
  | none => rfl
  | some i =>
    have hi : i ≠ empty := fun heq => h (congrArg some heq)
    rw [Option.map_some, markTwo, if_neg hi, Option.map_some]

/-- Where the host name is empty, the host is read. -/
theorem hostCell_markTwo {host : Option ℕ} {empty : ℕ} (h : host ≠ some empty) (place : ℕ) :
    hostCell (some empty) host (markTwo empty place) = host.map (mark "1" place) := by
  have hempty : truthy ((some empty).map (markTwo empty place)) = none := by
    simp [markTwo, truthy]
  rw [hostCell, hempty, Option.none_or, map_markTwo h]

theorem hostname_place {a b a' b' : Option ℕ} (hapart : ∀ i, a = some i → b ≠ some i)
    (hor : a.or b = a'.or b') {i : ℕ} (ha : a = some i)
    (h : hostCell a b (markTwo i i) = hostCell a' b' (markTwo i i)) : a' = some i := by
  subst ha
  cases a' with
  | some j => exact hor.symm
  | none =>
    have hb' : b' = some i := hor.symm
    have hempty : hostCell none b' (markTwo i i) = some "" := by simp [hb', hostCell, markTwo]
    rw [hostCell_markTwo (hapart i rfl), hempty, Option.map_eq_some_iff] at h
    obtain ⟨j, -, hj⟩ := h
    rcases mark_one i j with hmark | hmark <;> exact absurd (hmark.symm.trans hj) (by decide)

theorem host_places {a b a' b' : Option ℕ} (hapart : ∀ i, a = some i → b ≠ some i)
    (hapart' : ∀ i, a' = some i → b' ≠ some i)
    (hone : ∀ place, hostCell a b (mark "1" place) = hostCell a' b' (mark "1" place))
    (htwo : ∀ empty, a = some empty ∨ a' = some empty → ∀ place,
      hostCell a b (markTwo empty place) = hostCell a' b' (markTwo empty place)) :
    a = a' ∧ b = b' := by
  have hor : a.or b = a'.or b' := by
    refine eq_of_marks fun place => ?_
    rw [← hostCell_mark, hone, hostCell_mark]
  have ha : a = a' := by
    cases a with
    | some i => exact (hostname_place hapart hor rfl (htwo i (.inl rfl) i)).symm
    | none =>
      cases a' with
      | none => rfl
      | some i => cases hostname_place hapart' hor.symm rfl (htwo i (.inr rfl) i).symm
  subst ha
  refine ⟨rfl, ?_⟩
  cases a with
  | none => exact hor
  | some i =>
    refine eq_of_marks fun place => ?_
    rw [← hostCell_markTwo (hapart i rfl), htwo i (.inl rfl), hostCell_markTwo (hapart' i rfl)]

/-! ## Rows that tell columns apart -/

def fillRow (fill : ℕ → String) (width : ℕ) : List String := (List.range width).map fill

theorem length_fillRow (fill : ℕ → String) (width : ℕ) : (fillRow fill width).length = width := by
  rw [fillRow, List.length_map, List.length_range]

theorem fillRow_getElem? {fill : ℕ → String} {width i : ℕ} (hi : i < width) :
    (fillRow fill width)[i]? = some (fill i) := by
  rw [fillRow, List.getElem?_map, List.getElem?_range hi, Option.map_some]

theorem cell_fillRow (first header : List String) (fill : ℕ → String) :
    cell first (fillRow fill header.length) = probe (column first header) fill := by
  funext name
  rw [cell_eq_column (length_fillRow fill _), probe]
  cases hcolumn : column first header name with
  | none => rfl
  | some i =>
    have hi : i < header.length := of_decide_eq_true (Option.filter_eq_some_iff.mp hcolumn).2
    rw [Option.bind_some, fillRow_getElem? hi, Option.map_some]

theorem column_self (header : List String) (name : String) :
    column header header name = header.idxOf? name := by
  unfold column
  cases hcolumn : header.idxOf? name with
  | none => rfl
  | some i =>
    refine Option.filter_some_pos (decide_eq_true ?_)
    by_contra hge
    have hname := idxOf?_eq_some hcolumn
    rw [List.getElem?_eq_none (not_lt.mp hge)] at hname
    cases hname

theorem apart_column (first header : List String) : Apart (column first header) := by
  intro name name' i h h'
  exact Option.some.inj ((idxOf?_eq_some (Option.filter_eq_some_iff.mp h).1).symm.trans
    (idxOf?_eq_some (Option.filter_eq_some_iff.mp h').1))

/-- The texts of the rows that tell columns apart. -/
def probes : List String := ["", "1", "2", "result"]

theorem mark_mem_probes {special : String} (h : special ∈ ["1", "result"]) (place i : ℕ) :
    mark special place i ∈ probes := by
  unfold mark
  split
  · revert special
    decide
  · decide

/-- No row of these texts is read differently. -/
def Alike (reader : Cells → Option ρ) (first header : List String) : Prop :=
  ∀ fill : ℕ → String, (∀ i, fill i ∈ probes) →
    reader (probe (column first header) fill) = reader (probe (column header header) fill)

theorem Alike.agree (hreader : Looks needed shown hidden reader) (hresult : "result" ∈ header)
    (h : Alike reader first header) :
    (∀ name ∈ "result" :: (needed ++ shown), SameColumn first header name) ∧
        (∀ name ∈ needed, name ∈ header) ∨
      (∃ name ∈ needed, name ∉ header) ∧ ∃ name ∈ needed, column first header name = none := by
  have hplaces := places_agree hreader (apart_column header header)
    (by rw [column_self]; exact List.isSome_idxOf?.mpr hresult)
    fun special hspecial place => h _ (mark_mem_probes hspecial place)
  simpa only [SameColumn, column_self, List.isSome_idxOf?, List.idxOf?_eq_none_iff] using hplaces

theorem Alike.metric (hresult : "result" ∈ header) (h : Alike metricRow first header) :
    ColumnsAgree metricColumns [] first header :=
  (h.agree looks_metricRow hresult).imp_left And.left

theorem hostCell_congr {a b : String → Option ℕ} {fill : ℕ → String}
    (hmarks : ∀ name ∈ syslogColumns, probe b fill name = some "1" ∨ probe b fill name = some "2")
    (hsame : ∀ name ∈ "result" :: syslogColumns, a name = b name)
    (hresult : probe b fill "result" ≠ some "result")
    (h : syslogRow (probe a fill) = syslogRow (probe b fill)) :
    hostCell (a "hostname") (a "host") fill = hostCell (b "hostname") (b "host") fill := by
  have hcells : ∀ name ∈ "result" :: syslogColumns, probe a fill name = probe b fill name :=
    fun name hname => congrArg (Option.map fill) (hsame name hname)
  obtain ⟨hskip, hneeded⟩ := List.forall_mem_cons.mp hcells
  obtain ⟨_, _, -, -, hrow⟩ := syslogRow_eq (hskip ▸ hresult)
    fun name hname => hneeded name hname ▸ hmarks name hname
  obtain ⟨_, _, -, -, hrow'⟩ := syslogRow_eq hresult hmarks
  rw [hrow, hrow', Option.some.injEq, SyslogRow.mk.injEq] at h
  exact h.2.2.2.2.1

/-- The rows that leave the columns alone that a log needs show where its host is read. -/
theorem Alike.hostCell (h : Alike syslogRow first header)
    (hsame : ∀ name ∈ "result" :: syslogColumns, column first header name = column header header name)
    (hneeded : ∀ name ∈ syslogColumns, name ∈ header) {fill : ℕ → String}
    (hfill : ∀ i, fill i ∈ probes.take 3)
    (hmarks : ∀ name ∈ syslogColumns, ∀ i, column header header name = some i →
      fill i = "1" ∨ fill i = "2") :
    hostCell (column first header "hostname") (column first header "host") fill =
      hostCell (column header header "hostname") (column header header "host") fill := by
  refine hostCell_congr ?_ hsame ?_ (h fill fun i => List.mem_of_mem_take (hfill i))
  · intro name hname
    have hcolumn : (column header header name).isSome := by
      rw [column_self]
      exact List.isSome_idxOf?.mpr (hneeded name hname)
    obtain ⟨i, hi⟩ := Option.isSome_iff_exists.mp hcolumn
    rw [probe, hi, Option.map_some, Option.some.injEq, Option.some.injEq]
    exact hmarks name hname i hi
  · intro hresult
    obtain ⟨i, -, hi⟩ := Option.map_eq_some_iff.mp hresult
    have hmem := hfill i
    rw [hi] at hmem
    revert hmem
    decide

theorem Alike.syslog (hresult : "result" ∈ header) (h : Alike syslogRow first header) :
    ColumnsAgree syslogColumns tagColumns first header := by
  refine (h.agree looks_syslogRow hresult).imp_left ?_
  rintro ⟨hsame, hneeded⟩
  have hsame' : ∀ name ∈ "result" :: syslogColumns,
      column first header name = column header header name := by
    intro name hname
    rw [column_self]
    exact hsame name (List.mem_append_left _ hname)
  have hnames : ∀ name ∈ syslogColumns, name ≠ "hostname" ∧ name ≠ "host" := by decide
  obtain ⟨hhostname, hhost⟩ := host_places
    (fun i hi hi' => absurd (apart_column first header hi hi') (by decide))
    (fun i hi hi' => absurd (apart_column header header hi hi') (by decide))
    (fun place => h.hostCell hsame' hneeded
      (fun i => by rcases mark_one place i with hi | hi <;> rw [hi] <;> decide)
      fun _ _ i _ => mark_one place i)
    (fun empty hempty place => by
      refine h.hostCell hsame' hneeded (fun i => ?_) fun name hname i hi => ?_
      · unfold markTwo
        split
        · decide
        · rcases mark_one place i with hi | hi <;> rw [hi] <;> decide
      · rw [markTwo, if_neg]
        · exact mark_one place i
        · rintro rfl
          rcases hempty with hempty | hempty
          · rw [← hsame' name (List.mem_cons_of_mem _ hname)] at hi
            exact (hnames name hname).1 (apart_column first header hi hempty)
          · exact (hnames name hname).1 (apart_column header header hi hempty))
  rw [column_self] at hhostname hhost
  intro name hname
  simp only [tagColumns, syslogColumns, List.cons_append, List.nil_append, List.mem_cons,
    List.not_mem_nil, or_false] at hname hsame
  rcases hname with rfl | rfl | rfl | rfl | rfl | rfl | rfl | rfl
  · exact hsame _ (by simp)
  · exact hsame _ (by simp)
  · exact hsame _ (by simp)
  · exact hsame _ (by simp)
  · exact hsame _ (by simp)
  · exact hsame _ (by simp)
  · exact hhostname
  · exact hhost

end

end NetOpsBench.Influx
