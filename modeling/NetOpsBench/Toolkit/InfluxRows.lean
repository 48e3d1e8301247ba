import NetOpsBench.Data.Csv
import NetOpsBench.Data.FloatText

/-!
# The rows of a Flux response

A response is CSV: annotation lines, and tables that each start with a header line. The metric and
the syslog reader make dictionaries of the rows with the first header of the response, the reader
of structured queries follows the headers. A result of `none` is the error of the `csv` module.

The three readers are `parseInfluxMetricRows`, `parseInfluxSyslogRows` and `iterAnnotatedCsvRows`.
-/

namespace NetOpsBench.Influx
open Python Csv

/-- `[line for line in csv_text.splitlines() if line and not line.startswith("#")]` -/
def keptLines (csvText : String) : List (List Char) :=
  (splitlines csvText.toList).filter fun line => line ≠ [] ∧ line.head? ≠ some '#'

/-- `row.get` -/
abbrev Cells := String → Option String

/-- A cell that is neither empty nor the name of its column. -/
def present (get : Cells) (column : String) : Option String :=
  (truthy (get column)).filter (· ≠ column)

/-! ## Metrics -/

structure MetricRow where
  field : String
  time : String
  value : Python.Float
deriving DecidableEq, Repr

def metricRow (get : Cells) : Option MetricRow :=
  if get "result" = some "result" then none
  else do
    let field ← present get "_field"
    let time ← present get "_time"
    let value ← (present get "_value").bind parseFloat
    return { field, time, value }

def parseInfluxMetricRows (csvText : String) : Option (List MetricRow) :=
  if keptLines csvText = [] then some []
  else (dictReader (keptLines csvText)).map
    (·.filterMap fun row => metricRow fun key => (row.lookup key).join)

/-! ## Logs -/

structure SyslogRow where
  time : String
  message : String
  severity : Option String
  appname : Option String
  hostname : Option String
  source : Option String
deriving DecidableEq, Repr

def syslogRow (get : Cells) : Option SyslogRow :=
  if get "result" = some "result" then none
  else do
    let time ← present get "_time"
    let message ← present get "_value"
    return {
      time, message
      severity := get "severity"
      appname := get "appname"
      hostname := (truthy (get "hostname")).or (get "host")
      source := get "source" }

def parseInfluxSyslogRows (csvText : String) : Option (List SyslogRow) :=
  if keptLines csvText = [] then some []
  else (dictReader (keptLines csvText)).map
    (·.filterMap fun row => syslogRow fun key => (row.lookup key).join)

/-! ## Structured queries -/

/-- The first field has a `#` in front. -/
def isCommentRow (values : List String) : Bool :=
  values.head?.any fun value => value.toList.head? = some '#'

def isHeader (values : List String) : Bool := "result" ∈ values ∧ "table" ∈ values

/-- A row under a header; the fields that it lacks are empty. -/
def rowUnder (header values : List String) : Dict String String :=
  let padded := values ++ List.replicate (header.length - values.length) ""
  .ofItems (header.zip (padded.take header.length))

/-- The loop of `_iter_annotated_csv_rows`, from a record on. -/
def annotatedRows (header : Option (List String)) : List (List String) → List (Dict String String)
  | [] => []
  | values :: records =>
    if values = [] ∨ isCommentRow values then annotatedRows header records
    else if isHeader values then annotatedRows (some values) records
    else match header with
      | none => annotatedRows none records
      | some names => rowUnder names values :: annotatedRows header records

theorem annotatedRows_skip {values : List String} (h : values = [] ∨ isCommentRow values)
    (header : Option (List String)) (records : List (List String)) :
    annotatedRows header (values :: records) = annotatedRows header records := by
  unfold annotatedRows
  rw [if_pos h]
  cases records <;> rfl

theorem annotatedRows_header {values : List String} (hskip : ¬ (values = [] ∨ isCommentRow values))
    (h : isHeader values) (header : Option (List String)) (records : List (List String)) :
    annotatedRows header (values :: records) = annotatedRows (some values) records := by
  unfold annotatedRows
  rw [if_neg hskip, if_pos h]
  cases records <;> rfl

theorem annotatedRows_row {values : List String} (hskip : ¬ (values = [] ∨ isCommentRow values))
    (h : ¬ isHeader values) (names : List String) (records : List (List String)) :
    annotatedRows (some names) (values :: records) =
      rowUnder names values :: annotatedRows (some names) records := by
  rw [annotatedRows, if_neg hskip, if_neg h]

def iterAnnotatedCsvRows (csvText : String) : Option (List (Dict String String)) :=
  (read (physicalLines csvText.toList)).map (annotatedRows none)

end NetOpsBench.Influx
