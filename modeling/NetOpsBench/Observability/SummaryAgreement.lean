import NetOpsBench.Data.Fallible
import NetOpsBench.Observability.BgpParser

/-!
# The two summary readers agree

One reader follows the column names of the header, and joins the words that a row has too many into
the last column. The other takes the tenth word for the state, whatever the header says.

The main result is `agree_of_plain`: on a summary that is `Plain` they read the same neighbors, and
where the header does not repeat a column and no state is the very word `Established`, they do so on
no other. What is behind it is `agree_iff`, which compares the columns that the first reader finds
(`SameColumns`) and the lines that only one of the readers counts; `column_of_unrepeated` and
`prefixCount_eq_iff` say on the header and the words when the columns are the right ones.
-/

namespace NetOpsBench.BgpSummary
open Python Scan

def summaryColumns : List (List Char) :=
  ["Neighbor", "V", "AS", "MsgRcvd", "MsgSent", "TblVer", "InQ", "OutQ", "Up/Down",
    "State/PfxRcd"].map String.toList

/-- A text with one header line. -/
structure IsSummary (text : List Char) (preamble : List (List Char)) (header : List Char)
    (body : List (List Char)) : Prop where
  lines : filledLines text = preamble ++ header :: body
  before : ∀ line ∈ preamble, ¬ isHeader line
  found : isHeader header
  columns : (split header).take 10 = summaryColumns

/-- At least ten words, of which the first is an IPv4 address. -/
def isNeighborLine (line : List Char) : Bool :=
  10 ≤ (split line).length ∧
    (split line).head?.any fun address => (Ipv4.Addr.parse (.ofList address)).isSome

/-- The text of the state column: all that is left, if it is the last one. -/
def stateColumn (headers parts : List (List Char)) : List Char :=
  if headers.length = 10 then [' '].intercalate (parts.drop 9) else parts.getD 9 []

/-- An unsigned decimal number -/
def isUnsigned (text : List Char) : Bool := text ≠ [] ∧ text.all fun c => (decimal? c).isSome

/-- The row of a neighbor line. -/
structure IsRowOf (headers : List (List Char)) (row : Row) (line : List Char) : Prop where
  neighbor : row.neighbor = (split line)[0]?
  asn : row.asn = (split line)[2]?.map coerceValue
  established : ∀ count, row.state = some "Established".toList ∧ row.prefixesReceived = some count ↔
    isUnsigned (stateColumn headers (split line)) ∧
      count = decimalValue (stateColumn headers (split line))

def Row.isEstablished (row : Row) : Bool := row.state = some "Established".toList

/-- One row for each neighbor line, and as many established ones as the health check counts. -/
def Agree (text header : List Char) (body : List (List Char)) : Prop :=
  ∃ rows, parseBgpSummary text = .ok rows ∧
    List.Forall₂ (IsRowOf (split header)) rows (body.filter isNeighborLine) ∧
    rows.countP Row.isEstablished = parseBgpEstablished text

/-! ## When they agree -/

/-- A neighbor line whose state column is a number. -/
def isNumbered (headers : List (List Char)) (line : List Char) : Bool :=
  isNeighborLine line && isUnsigned (stateColumn headers (split line))

/-- A neighbor line whose state is the very word that stands for a number. -/
def isNamed (headers : List (List Char)) (line : List Char) : Bool :=
  isNeighborLine line && column headers (split line) "state_pfxrcd" = some "Established".toList

/-- The columns that go by the names of the address, the ASN and the state are those of the first
ten, and the state is a number if it has digits only. -/
structure SameColumns (headers parts : List (List Char)) : Prop where
  neighbor : column headers parts "neighbor" = parts[0]?
  asn : (column headers parts "as").map coerceValue = parts[2]?.map coerceValue
  state : prefixCount (column headers parts "state_pfxrcd") =
    .ok (if isUnsigned (stateColumn headers parts) then
      some (decimalValue (stateColumn headers parts) : Int) else none)

instance (headers parts : List (List Char)) : Decidable (SameColumns headers parts) :=
  decidable_of_iff (_ ∧ _ ∧ _)
    ⟨fun h => ⟨h.1, h.2.1, h.2.2⟩, fun h => ⟨h.neighbor, h.asn, h.state⟩⟩

structure Readable (preamble : List (List Char)) (header : List Char) (body : List (List Char)) :
    Prop where
  rows : ∀ line ∈ body, isRowLine line → isNeighborLine line
  columns : ∀ line ∈ body, isNeighborLine line → SameColumns (split header) (split line)
  counted : body.countP (isNamed (split header)) =
    preamble.countP isCounted +
      body.countP fun line => isCounted line && !isNumbered (split header) line

/-! ## Plain summaries -/

/-- No column after the tenth that a row reaches goes by the name of the address, the ASN or the
state. -/
def Unrepeated (headers parts : List (List Char)) : Prop :=
  ∀ name ∈ (headers.take parts.length).drop 10,
    normalizeKey name ∉ ["neighbor", "as", "state_pfxrcd"].map String.toList

instance (headers parts : List (List Char)) : Decidable (Unrepeated headers parts) :=
  inferInstanceAs (Decidable (∀ name ∈ _, _))

/-- The header names each column once as far as the neighbor lines reach, and no session is in a
state that has the name of the established one. -/
structure Unambiguous (header : List Char) (body : List (List Char)) : Prop where
  unrepeated : ∀ line ∈ body, isNeighborLine line → Unrepeated (split header) (split line)
  unnamed : ∀ line ∈ body, isNeighborLine line →
    stateColumn (split header) (split line) ≠ "Established".toList

/-- A summary without lines that only one of the readers understands: what starts with an address is
a neighbor line, a state of digits is a decimal number, and what the health check counts is a neighbor
line with such a state, which leaves no words over under a header of ten columns. -/
structure Plain (preamble : List (List Char)) (header : List Char) (body : List (List Char)) : Prop
    extends Unambiguous header body where
  rows : ∀ line ∈ body, isRowLine line → isNeighborLine line
  digits : ∀ line ∈ body, isNeighborLine line → isDigits (stateColumn (split header) (split line)) →
    isUnsigned (stateColumn (split header) (split line))
  before : ∀ line ∈ preamble, ¬ isCounted line
  counted : ∀ line ∈ body, isCounted line → isNumbered (split header) line

/-! ## Lines -/

section
variable {text header line : List Char} {preamble body : List (List Char)} {headers : List (List Char)}

theorem isRowLine_of_isNeighborLine (h : isNeighborLine line) : isRowLine line := by
  simp only [isNeighborLine, decide_eq_true_eq] at h
  obtain ⟨hlength, hhead⟩ := h
  unfold isRowLine
  match hsplit : split line with
  | [] => rw [hsplit] at hlength; simp at hlength
  | [_] => rw [hsplit] at hlength; simp at hlength
  | address :: _ :: _ =>
    rw [hsplit] at hhead
    have haddress : (Ipv4.Addr.parse (.ofList address)).isSome := hhead
    show (ipVersion address).isSome
    rw [ipVersion, if_pos haddress]
    rfl

theorem many1_append {p : Char → Bool} {word rest : List Char} (hne : word ≠ [])
    (hword : ∀ c ∈ word, p c) (hrest : ∀ c ∈ rest.head?, p c = false) :
    many1 p (word ++ rest) = some (word, rest) := by
  have htake : (word ++ rest).takeWhile p = word := by
    rw [List.takeWhile_append_of_pos hword]
    cases rest with
    | nil => simp
    | cons c rest => simp [hrest c rfl]
  have hdrop : (word ++ rest).dropWhile p = rest := by
    rw [List.dropWhile_append_of_pos hword]
    cases rest with
    | nil => rfl
    | cons c rest => simp [hrest c rfl]
  rw [many1, htake, hdrop, if_neg hne]

theorem readOctet_eq_some {octet : List Char} {value : Nat} {rest : List Char}
    (h : Ipv4.readOctet octet = some (value, rest)) :
    ∃ digits, octet = digits ++ rest ∧ digits ≠ [] ∧ ∀ c ∈ digits, c.isDigit := by
  unfold Ipv4.readOctet at h
  dsimp only at h
  split at h
  · cases h
  · rename_i hvalid
    cases h
    exact ⟨octet.takeWhile Char.isDigit, (List.takeWhile_append_dropWhile).symm,
      (not_or.mp hvalid).1, fun c => List.mem_takeWhile_imp⟩

theorem readDot_eq_some {text rest : List Char} (h : Ipv4.readDot text = some rest) :
    text = '.' :: rest := by
  unfold Ipv4.readDot at h
  split at h
  · cases h
    rfl
  · cases h

/-- The digits of an octet, with what may stand after it. -/
theorem digits1_append {digits rest : List Char} (hne : digits ≠ [])
    (hdigits : ∀ c ∈ digits, c.isDigit) (hrest : rest.head? = some '.' ∨ rest = []) :
    digits1 (digits ++ rest) = some (digits, rest) := by
  refine many1_append hne (fun c hc => ?_) fun c hc => ?_
  · rw [decimal?_of_isDigit (hdigits c hc)]
    rfl
  · rcases hrest with hdot | rfl
    · rw [hdot] at hc
      cases hc
      decide
    · cases hc

/-- An address is four numbers with dots between them. -/
theorem isDottedQuad_of_parse {word : List Char} (h : (Ipv4.Addr.parse (.ofList word)).isSome) :
    isDottedQuad word := by
  obtain ⟨addr, h⟩ := Option.isSome_iff_exists.mp h
  simp only [Ipv4.Addr.parse, String.toList_ofList, Option.bind_eq_bind, Option.bind_eq_some_iff,
    Prod.exists] at h
  obtain ⟨a, rest, ha, dot, hdot, b, rest', hb, dot', hdot', c, rest'', hc, dot'', hdot'', d, rest''',
    hd, hend⟩ := h
  have hnil : rest''' = [] := by
    by_contra hne
    rw [if_neg hne] at hend
    cases hend
  subst hnil
  obtain ⟨first, rfl, hfirst, hfirst'⟩ := readOctet_eq_some ha
  obtain rfl := readDot_eq_some hdot
  obtain ⟨second, rfl, hsecond, hsecond'⟩ := readOctet_eq_some hb
  obtain rfl := readDot_eq_some hdot'
  obtain ⟨third, rfl, hthird, hthird'⟩ := readOctet_eq_some hc
  obtain rfl := readDot_eq_some hdot''
  obtain ⟨fourth, rfl, hfourth, hfourth'⟩ := readOctet_eq_some hd
  have hliteral (rest : List Char) : literal ['.'] ('.' :: rest) = some rest := by
    rw [literal, if_pos (show ['.'] <+: '.' :: rest from List.prefix_append ['.'] rest)]
    rfl
  unfold isDottedQuad
  rw [digits1_append hfirst hfirst' (.inl rfl)]
  simp only [Option.bind_eq_bind, Option.bind_some, hliteral]
  rw [digits1_append hsecond hsecond' (.inl rfl)]
  simp only [Option.bind_some, hliteral]
  rw [digits1_append hthird hthird' (.inl rfl)]
  simp only [Option.bind_some, hliteral]
  rw [digits1_append hfourth hfourth' (.inr rfl)]
  rfl

theorem isCounted_header (h : (split header).take 10 = summaryColumns) : ¬ isCounted header := by
  have hhead : (split header).head? = some "Neighbor".toList := by
    have htake := congrArg List.head? h
    rwa [List.head?_take, if_neg (by decide)] at htake
  unfold isCounted
  dsimp only
  rw [hhead, Option.any_some, show isDottedQuad "Neighbor".toList = false by decide]
  exact Bool.false_ne_true

/-- The health check sees the same lines as the collector. -/
theorem parseBgpEstablished_eq (text : List Char) :
    parseBgpEstablished text = (filledLines text).countP isCounted := by
  have hstripped : isCounted ∘ (·.rdropWhile isSpace) = isCounted := by
    funext line
    simp only [Function.comp, isCounted, split_rdropWhile]
  rw [parseBgpEstablished, filledLines, List.countP_map, hstripped, List.countP_filter]
  refine List.countP_congr fun line _ => ?_
  simp only [Bool.and_eq_true, iff_self_and]
  intro hcounted
  by_contra hblank
  have hspaces : ∀ c ∈ line, isSpace c := by
    intro c hc
    by_contra hspace
    exact hblank (List.any_eq_true.mpr ⟨c, hc, by simpa using hspace⟩)
  rw [isCounted, split_of_isSpace hspaces] at hcounted
  simp at hcounted

/-- A state column that is a number is the tenth word. -/
theorem getElem?_of_isUnsigned {parts : List (List Char)} (hlength : 10 ≤ parts.length)
    (h : isUnsigned (stateColumn headers parts)) :
    ∃ word, parts[9]? = some word ∧ isUnsigned word := by
  have htenth : parts[9]? = some (parts.getD 9 []) := by
    rw [List.getD_eq_getElem?_getD, List.getElem?_eq_getElem hlength, Option.getD_some]
  refine ⟨parts.getD 9 [], htenth, ?_⟩
  unfold stateColumn at h
  split at h
  · rw [List.drop_eq_getElem?_toList_append, htenth] at h
    cases hrest : parts.drop 10 with
    | nil =>
      rw [hrest] at h
      simpa [List.intercalate] using h
    | cons second rest =>
      -- the blank between two words is no digit
      rw [hrest] at h
      simp only [isUnsigned, decide_eq_true_eq, List.all_eq_true] at h
      have hblank := h.2 ' ' (by simp [List.intercalate])
      exact absurd hblank (by decide)
  · exact h

/-- A neighbor line with a number for its state is counted. -/
theorem isCounted_of_isNumbered (h : isNumbered headers line) : isCounted line := by
  simp only [isNumbered, isNeighborLine, Bool.and_eq_true, decide_eq_true_eq] at h
  obtain ⟨⟨hlength, hhead⟩, hstate⟩ := h
  obtain ⟨word, hword, hunsigned⟩ := getElem?_of_isUnsigned hlength hstate
  obtain ⟨address, haddress, hparse⟩ := (Option.any_eq_true _ _).mp hhead
  simp only [isUnsigned, decide_eq_true_eq, List.all_eq_true] at hunsigned
  unfold isCounted
  dsimp only
  rw [haddress, hword, Option.any_some, Option.any_some, isDottedQuad_of_parse hparse,
    parseInt_digits hunsigned.1 hunsigned.2]
  rfl

/-! ## Rows -/

/-- The first reader, on a text with one header: its rows are those of the lines after the header.
-/
theorem parseBgpSummary_eq (h : IsSummary text preamble header body) :
    parseBgpSummary text =
      (body.filter isRowLine).mapM fun line => readRow (split header) (split line) := by
  have hlines : (filledLines text).dropWhile (fun line => !isHeader line) = header :: body := by
    rw [h.lines, List.dropWhile_append_of_pos fun line hline => by simpa using h.before line hline,
      List.dropWhile_cons_of_neg (by simpa using h.found)]
  rw [parseBgpSummary, hlines]

/-- What the reader of a row does, apart from the state that a count stands for. -/
theorem readRow_eq_ok {parts : List (List Char)} {row : Row} (h : readRow headers parts = .ok row) :
    row.neighbor = column headers parts "neighbor" ∧
      row.asn = (column headers parts "as").map coerceValue ∧
      prefixCount (column headers parts "state_pfxrcd") = .ok row.prefixesReceived ∧
      row.state = if row.prefixesReceived.isSome then some "Established".toList
        else column headers parts "state_pfxrcd" := by
  obtain ⟨count, hcount, hrow⟩ := Except.bind_eq_ok.mp h
  cases hrow
  exact ⟨rfl, rfl, hcount, rfl⟩

theorem exists_readRow {parts : List (List Char)} {count : Option Int}
    (h : prefixCount (column headers parts "state_pfxrcd") = .ok count) :
    ∃ row, readRow headers parts = .ok row := by
  unfold readRow
  dsimp only
  rw [h]
  exact ⟨_, rfl⟩

/-- A row is that of its line when the columns are. -/
theorem isRowOf_iff {row : Row} (h : readRow headers (split line) = .ok row) :
    IsRowOf headers row line ↔ SameColumns headers (split line) := by
  obtain ⟨hneighbor, hasn, hcount, hstate⟩ := readRow_eq_ok h
  have hcounted : (∀ count, row.state = some "Established".toList ∧
      row.prefixesReceived = some count ↔ isUnsigned (stateColumn headers (split line)) ∧
        count = decimalValue (stateColumn headers (split line))) ↔
      row.prefixesReceived = if isUnsigned (stateColumn headers (split line)) then
        some (decimalValue (stateColumn headers (split line)) : Int) else none := by
    have hmarked (count : Int) : row.state = some "Established".toList ∧
        row.prefixesReceived = some count ↔ row.prefixesReceived = some count := by
      rw [and_iff_right_iff_imp]
      intro hsome
      rw [hstate, hsome]
      rfl
    simp only [hmarked]
    rw [Option.ext_iff]
    refine forall_congr' fun count => iff_congr Iff.rfl ?_
    rw [Option.ite_none_right_eq_some, Option.some.injEq, eq_comm (b := count)]
  constructor
  · intro hrow
    refine ⟨hneighbor.symm.trans hrow.neighbor, hasn.symm.trans hrow.asn, ?_⟩
    rw [hcount, hcounted.mp hrow.established]
  · intro hcolumns
    refine ⟨hneighbor.trans hcolumns.neighbor, hasn.trans hcolumns.asn, hcounted.mpr ?_⟩
    exact Except.ok.inj (hcount.symm.trans hcolumns.state)

/-- The rows are those of the lines when the columns are the right ones. -/
theorem forall₂_isRowOf_iff {lines : List (List Char)} {rows : List Row}
    (h : List.Forall₂ (fun line row => readRow headers (split line) = .ok row) lines rows) :
    List.Forall₂ (IsRowOf headers) rows lines ↔
      ∀ line ∈ lines, SameColumns headers (split line) := by
  induction h with
  | nil => simp
  | cons hrow _ ih => rw [List.forall₂_cons, isRowOf_iff hrow, ih, List.forall_mem_cons]

/-- A neighbor line is established by its number, or by its name. -/
theorem isEstablished_eq {row : Row} (h : readRow headers (split line) = .ok row)
    (hneighbor : isNeighborLine line) (hcolumns : SameColumns headers (split line)) :
    row.isEstablished = (isNumbered headers line || isNamed headers line) := by
  obtain ⟨-, -, hcount, hstate⟩ := readRow_eq_ok h
  have hprefixes := Except.ok.inj (hcount.symm.trans hcolumns.state)
  rw [Row.isEstablished, isNumbered, isNamed, hneighbor, Bool.true_and, Bool.true_and, hstate,
    hprefixes]
  cases isUnsigned (stateColumn headers (split line)) with
  | true => rfl
  | false => rfl

theorem not_isNamed_of_isNumbered (hcolumns : SameColumns headers (split line))
    (h : isNumbered headers line) : ¬ isNamed headers line := by
  rw [isNumbered, Bool.and_eq_true] at h
  rw [isNamed, Bool.and_eq_true, decide_eq_true_eq, not_and]
  intro _ hname
  have hstate := hcolumns.state
  rw [hname, if_pos h.2] at hstate
  cases hstate

/-! ## Agreement -/

theorem countP_isEstablished {lines : List (List Char)} {rows : List Row}
    (hrows : List.Forall₂ (fun line row => readRow headers (split line) = .ok row) lines rows)
    (hneighbor : ∀ line ∈ lines, isNeighborLine line)
    (hcolumns : ∀ line ∈ lines, SameColumns headers (split line)) :
    rows.countP Row.isEstablished =
      lines.countP (isNumbered headers) + lines.countP (isNamed headers) := by
  induction hrows with
  | nil => rfl
  | @cons line row lines rows hrow _ ih =>
    obtain ⟨hneighbor, hneighbors⟩ := List.forall_mem_cons.mp hneighbor
    obtain ⟨hcolumns, hcolumns'⟩ := List.forall_mem_cons.mp hcolumns
    rw [List.countP_cons, List.countP_cons, List.countP_cons, ih hneighbors hcolumns',
      isEstablished_eq hrow hneighbor hcolumns]
    have hdisjoint : isNumbered headers line → ¬ isNamed headers line :=
      not_isNamed_of_isNumbered hcolumns
    cases hnumbered : isNumbered headers line with
    | true =>
      rw [Bool.not_eq_true] at hdisjoint
      rw [hdisjoint hnumbered]
      simp only [Bool.or_false, if_true, Bool.false_eq_true, if_false]
      omega
    | false =>
      simp only [Bool.false_or, Bool.false_eq_true, if_false]
      omega

/-- The lines that the health check counts beside the numbered ones. -/
theorem parseBgpEstablished_of_isSummary (h : IsSummary text preamble header body) :
    parseBgpEstablished text = body.countP (isNumbered (split header)) +
      (preamble.countP isCounted +
        body.countP fun line => isCounted line && !isNumbered (split header) line) := by
  have hnumbered : body.countP (isNumbered (split header)) =
      (body.filter (isNumbered (split header))).countP isCounted := by
    rw [List.countP_filter]
    refine List.countP_congr fun line _ => ?_
    rw [Bool.and_eq_true, iff_and_self]
    exact isCounted_of_isNumbered
  rw [parseBgpEstablished_eq, h.lines, List.countP_append,
    List.countP_cons_of_neg (isCounted_header h.columns),
    List.countP_eq_countP_filter_add body isCounted (isNumbered (split header)), ← hnumbered,
    List.countP_filter]
  omega

/-- Agreement, exactly when the row lines are the neighbor lines, their columns are where the
header's first ten say, and the states that only one of the readers takes for established balance. -/
theorem agree_iff (h : IsSummary text preamble header body) :
    Agree text header body ↔ Readable preamble header body := by
  have hsub : (body.filter isNeighborLine).Sublist (body.filter isRowLine) :=
    List.monotone_filter_right body fun line => isRowLine_of_isNeighborLine
  have hfilter (p : List Char → Bool) :
      (body.filter isNeighborLine).countP (fun line => isNeighborLine line && p line) =
        body.countP fun line => isNeighborLine line && p line := by
    rw [List.countP_filter]
    refine List.countP_congr fun line _ => ?_
    simp only [Bool.and_eq_true]
    tauto
  have hnumbered := hfilter fun line => isUnsigned (stateColumn (split header) (split line))
  have hnamed := hfilter fun line =>
    column (split header) (split line) "state_pfxrcd" = some "Established".toList
  have hneighbor : ∀ line ∈ body.filter isNeighborLine, isNeighborLine line :=
    fun line hline => (List.mem_filter.mp hline).2
  unfold Agree
  rw [parseBgpSummary_eq h, parseBgpEstablished_of_isSummary h]
  constructor
  · rintro ⟨rows, hparse, hrows, hcount⟩
    rw [Except.mapM_eq_ok] at hparse
    have hlines := hsub.eq_of_length (hrows.length_eq.symm.trans hparse.length_eq.symm)
    rw [← hlines] at hparse
    have hcolumns := (forall₂_isRowOf_iff hparse).mp hrows
    rw [countP_isEstablished hparse hneighbor hcolumns] at hcount
    refine ⟨?_, ?_, ?_⟩
    · intro line hline hrow
      have hmem : line ∈ body.filter isRowLine := List.mem_filter.mpr ⟨hline, hrow⟩
      rw [← hlines] at hmem
      exact hneighbor line hmem
    · exact fun line hline hkept => hcolumns line (List.mem_filter.mpr ⟨hline, hkept⟩)
    · unfold isNumbered isNamed at *
      omega
  · intro hreadable
    have hlines : body.filter isRowLine = body.filter isNeighborLine := by
      refine List.filter_congr fun line hline => ?_
      rw [Bool.eq_iff_iff]
      exact ⟨hreadable.rows line hline, isRowLine_of_isNeighborLine⟩
    have hcolumns : ∀ line ∈ body.filter isNeighborLine,
        SameColumns (split header) (split line) := by
      intro line hline
      obtain ⟨hmem, hkept⟩ := List.mem_filter.mp hline
      exact hreadable.columns line hmem hkept
    rw [hlines]
    obtain ⟨rows, hrows⟩ := Except.exists_mapM_eq_ok fun line hline =>
      exists_readRow (hcolumns line hline).state
    have hparse := Except.mapM_eq_ok.mp hrows
    refine ⟨rows, hrows, (forall₂_isRowOf_iff hparse).mpr hcolumns, ?_⟩
    have hcount := hreadable.counted
    rw [countP_isEstablished hparse hneighbor hcolumns]
    unfold isNumbered isNamed at *
    omega

/-! ## Columns of a plain summary -/

theorem length_of_summaryColumns (h : headers.take 10 = summaryColumns) : 10 ≤ headers.length := by
  have hlength := congrArg List.length h
  rw [List.length_take, show summaryColumns.length = 10 from rfl] at hlength
  omega

/-- A row has a word for each column that it reaches. -/
theorem length_columnWords {parts : List (List Char)} (h : headers ≠ []) :
    (columnWords headers parts).length = min headers.length parts.length := by
  have hpos := List.length_pos_iff.mpr h
  unfold columnWords
  split
  · rw [List.length_append, List.length_take, List.length_singleton]
    omega
  · omega

def summaryKeys : List (List Char) :=
  ["neighbor", "v", "as", "msgrcvd", "msgsent", "tblver", "inq", "outq", "up_down",
    "state_pfxrcd"].map String.toList

theorem map_normalizeKey_summaryColumns : summaryColumns.map normalizeKey = summaryKeys := by
  decide +kernel

/-- The word under one of the first ten columns, when no later column that the row reaches has its
name. -/
theorem lookup_columns {words : List (List Char)} (hcolumns : headers.take 10 = summaryColumns)
    {index : Nat} (hindex : index < 10) (hlength : 10 ≤ words.length)
    (h : ∀ name ∈ (headers.drop 10).take (words.length - 10),
      normalizeKey name ≠ summaryKeys.getD index []) :
    (Dict.ofItems ((headers.map normalizeKey).zip words)).lookup (summaryKeys.getD index []) =
      words[index]? := by
  have hsplit : (headers.map normalizeKey).zip words =
      summaryKeys.zip (words.take 10) ++ ((headers.drop 10).map normalizeKey).zip (words.drop 10) := by
    have hwords : summaryKeys.length = (words.take 10).length := by
      rw [List.length_take, Nat.min_eq_left hlength]
      rfl
    rw [← List.zip_append hwords, List.take_append_drop, ← map_normalizeKey_summaryColumns, ← hcolumns,
      ← List.map_append, List.take_append_drop]
  have hlater : ∀ item ∈ ((headers.drop 10).map normalizeKey).zip (words.drop 10),
      item.1 ≠ summaryKeys.getD index [] := by
    intro item hitem
    rw [List.zip_eq_zip_take_min, ← List.map_take] at hitem
    obtain ⟨name, hname, hkey⟩ := List.mem_map.mp (List.of_mem_zip hitem).1
    rw [← hkey]
    refine h name ((List.take_subset_take_left _ ?_) hname)
    rw [List.length_drop]
    exact Nat.min_le_right ..
  have hkeys : ((summaryKeys.zip (words.take 10)).map (·.1)).Nodup := by
    rw [List.map_fst_zip (by rw [List.length_take, Nat.min_eq_left hlength]; rfl)]
    decide
  have hword : words[index]? = some words[index] := List.getElem?_eq_getElem (by omega)
  rw [hsplit, Dict.lookup_ofItems_append hlater, hword]
  refine Dict.lookup_ofItems_of_mem hkeys ?_
  have hkey : index < summaryKeys.length := hindex
  have hmem := List.getElem_mem (l := summaryKeys.zip (words.take 10)) (n := index)
    (by rw [List.length_zip, List.length_take]; omega)
  rwa [List.getElem_zip, List.getElem_take, ← List.getD_eq_getElem summaryKeys [] hkey] at hmem

/-- A column that is not repeated is found by its name. -/
theorem column_of_unrepeated {parts : List (List Char)} (hcolumns : headers.take 10 = summaryColumns)
    (hlength : 10 ≤ parts.length) (h : Unrepeated headers parts) :
    column headers parts "neighbor" = (columnWords headers parts)[0]? ∧
      column headers parts "as" = (columnWords headers parts)[2]? ∧
      column headers parts "state_pfxrcd" = (columnWords headers parts)[9]? := by
  have hten := length_of_summaryColumns hcolumns
  have hwords : (columnWords headers parts).length = min headers.length parts.length :=
    length_columnWords (List.ne_nil_of_length_pos (by omega))
  have hnames (key : String) (hkey : key ∈ ["neighbor", "as", "state_pfxrcd"]) :
      ∀ name ∈ (headers.drop 10).take ((columnWords headers parts).length - 10),
        normalizeKey name ≠ key.toList := by
    rintro name hname heq
    refine h name ?_ (heq ▸ List.mem_map_of_mem hkey)
    rw [List.drop_take]
    exact List.take_subset_take_left _ (by omega) hname
  exact ⟨lookup_columns hcolumns (by decide : 0 < 10) (by omega) (hnames _ (by decide)),
    lookup_columns hcolumns (by decide : 2 < 10) (by omega) (hnames _ (by decide)),
    lookup_columns hcolumns (by decide : 9 < 10) (by omega) (hnames _ (by decide))⟩

/-- The words under the first columns are those of the row, and under the state the state column. -/
theorem getElem?_columnWords {parts : List (List Char)} (hheaders : 10 ≤ headers.length)
    (hlength : 10 ≤ parts.length) :
    (columnWords headers parts)[0]? = parts[0]? ∧ (columnWords headers parts)[2]? = parts[2]? ∧
      (columnWords headers parts)[9]? = some (stateColumn headers parts) := by
  have htenth : parts[9]? = some (parts.getD 9 []) := by
    rw [List.getD_eq_getElem?_getD, List.getElem?_eq_getElem hlength, Option.getD_some]
  have hfirst {index : Nat} (hindex : index < headers.length - 1) :
      (columnWords headers parts)[index]? = parts[index]? := by
    unfold columnWords
    split
    · rw [List.getElem?_append_left (by rw [List.length_take]; omega), List.getElem?_take_of_lt hindex]
    · rfl
  refine ⟨hfirst (by omega), hfirst (by omega), ?_⟩
  unfold stateColumn
  by_cases hten : headers.length = 10
  · rw [if_pos hten]
    unfold columnWords
    split
    · rw [List.getElem?_append_right (by rw [List.length_take]; omega), List.length_take]
      simp [hten, Nat.min_eq_left (by omega : 9 ≤ parts.length)]
    · -- a row of ten words has none left over
      have hrow : parts.drop 10 = [] := List.drop_eq_nil_of_le (by omega)
      rw [List.drop_eq_getElem?_toList_append, hrow, htenth]
      simp [List.intercalate]
  · rw [if_neg hten, hfirst (by omega), htenth]

/-- A state of digits is a count, unless they make no number. -/
theorem prefixCount_eq_iff (state : List Char) :
    prefixCount (some state) =
        .ok (if isUnsigned state then some (decimalValue state : Int) else none) ↔
      (isDigits state → isUnsigned state) := by
  unfold prefixCount
  rw [Option.getD_some]
  cases hunsigned : isUnsigned state with
  | true =>
    simp only [isUnsigned, decide_eq_true_eq, List.all_eq_true] at hunsigned
    have hdigits : isDigits state := by
      simp only [isDigits, decide_eq_true_eq, List.all_eq_true]
      exact ⟨hunsigned.1, fun c hc => by rw [hunsigned.2 c hc, Bool.true_or]⟩
    simp only [hdigits, if_true, parseInt_digits hunsigned.1 hunsigned.2, implies_true]
  | false =>
    by_cases hdigits : isDigits state
    · simp only [hdigits, Bool.false_eq_true, if_false, imp_false, not_true_eq_false, iff_false]
      cases parseInt (.ofList state) <;> simp
    · simp [hdigits]

/-- With columns that are not repeated, what the reader may still trip over are digits that make no
number. -/
theorem sameColumns_iff {parts : List (List Char)} (hcolumns : headers.take 10 = summaryColumns)
    (hlength : 10 ≤ parts.length) (h : Unrepeated headers parts) :
    SameColumns headers parts ↔
      (isDigits (stateColumn headers parts) → isUnsigned (stateColumn headers parts)) := by
  obtain ⟨hneighbor, hasn, hstate⟩ := column_of_unrepeated hcolumns hlength h
  obtain ⟨hfirst, hthird, htenth⟩ :=
    getElem?_columnWords (length_of_summaryColumns hcolumns) hlength
  rw [← prefixCount_eq_iff, ← htenth, ← hstate]
  exact ⟨SameColumns.state, fun hcount =>
    ⟨hneighbor.trans hfirst, congrArg (Option.map coerceValue) (hasn.trans hthird), hcount⟩⟩

theorem length_of_isNeighborLine (h : isNeighborLine line) : 10 ≤ (split line).length := by
  simp only [isNeighborLine, decide_eq_true_eq] at h
  exact h.1

/-- No state has the name of the established one. -/
theorem isNamed_eq_false (hcolumns : (split header).take 10 = summaryColumns)
    (hunambiguous : Unambiguous header body) (hline : line ∈ body) :
    isNamed (split header) line = false := by
  rw [isNamed, Bool.and_eq_false_imp]
  intro hneighbor
  have hlength := length_of_isNeighborLine hneighbor
  rw [(column_of_unrepeated hcolumns hlength (hunambiguous.unrepeated line hline hneighbor)).2.2,
    (getElem?_columnWords (length_of_summaryColumns hcolumns) hlength).2.2]
  simpa using hunambiguous.unnamed line hline hneighbor

/-- On an unambiguous summary, the lines are readable for both just when they are plain. -/
theorem readable_iff (h : IsSummary text preamble header body)
    (hunambiguous : Unambiguous header body) :
    Readable preamble header body ↔ Plain preamble header body := by
  have hsame (line : List Char) (hline : line ∈ body) (hneighbor : isNeighborLine line) :=
    sameColumns_iff h.columns (length_of_isNeighborLine hneighbor)
      (hunambiguous.unrepeated line hline hneighbor)
  have hnamed : body.countP (isNamed (split header)) = 0 :=
    List.countP_eq_zero.mpr fun line hline => by
      rw [isNamed_eq_false h.columns hunambiguous hline]
      exact Bool.false_ne_true
  have hnone : preamble.countP isCounted +
      body.countP (fun line => isCounted line && !isNumbered (split header) line) = 0 ↔
      (∀ line ∈ preamble, ¬ isCounted line) ∧
        ∀ line ∈ body, isCounted line → isNumbered (split header) line := by
    rw [Nat.add_eq_zero_iff, List.countP_eq_zero, List.countP_eq_zero]
    simp only [Bool.and_eq_true, Bool.not_eq_true', not_and, Bool.not_eq_false]
  constructor
  · intro hreadable
    have hcounted := hreadable.counted
    rw [hnamed] at hcounted
    obtain ⟨hbefore, hcounted⟩ := hnone.mp hcounted.symm
    exact { hunambiguous with
      rows := hreadable.rows
      digits := fun line hline hneighbor =>
        (hsame line hline hneighbor).mp (hreadable.columns line hline hneighbor)
      before := hbefore
      counted := hcounted }
  · intro hplain
    refine ⟨hplain.rows, fun line hline hneighbor =>
      (hsame line hline hneighbor).mpr (hplain.digits line hline hneighbor), ?_⟩
    rw [hnamed, hnone.mpr ⟨hplain.before, hplain.counted⟩]

/-- The readers agree on every plain summary. On one that is unambiguous they agree only then. -/
theorem agree_of_plain (h : IsSummary text preamble header body) :
    (Plain preamble header body → Agree text header body) ∧
      (Unambiguous header body → Agree text header body → Plain preamble header body) :=
  ⟨fun hplain => (agree_iff h).mpr ((readable_iff h hplain.toUnambiguous).mpr hplain),
    fun hunambiguous hagree => (readable_iff h hunambiguous).mp ((agree_iff h).mp hagree)⟩

end

def summaryHeader : List Char :=
  "Neighbor V AS MsgRcvd MsgSent TblVer InQ OutQ Up/Down State/PfxRcd".toList

def upNeighbor : List Char := "10.0.0.1 4 65001 10 10 0 0 0 01:00:00 5".toList

def shutNeighbor : List Char := "10.0.0.2 4 65002 10 10 0 0 0 never Idle (Admin)".toList

def twoNeighbors : List Char :=
  ['\n'].intercalate ["BGP router identifier 10.0.1.1".toList, summaryHeader, upNeighbor, shutNeighbor,
    "Total number of neighbors 2".toList]

theorem twoNeighbors_agree :
    Agree twoNeighbors summaryHeader
      [upNeighbor, shutNeighbor, "Total number of neighbors 2".toList] := by
  have hsummary : IsSummary twoNeighbors ["BGP router identifier 10.0.1.1".toList] summaryHeader
      [upNeighbor, shutNeighbor, "Total number of neighbors 2".toList] :=
    ⟨by decide +kernel, by decide +kernel, by decide +kernel, by decide +kernel⟩
  exact (agree_of_plain hsummary).1
    { unrepeated := by decide +kernel
      unnamed := by decide +kernel
      rows := by decide +kernel
      digits := by decide +kernel
      before := by decide +kernel
      counted := by decide +kernel }

def describedNeighbor : List Char := upNeighbor ++ " spine1".toList

def describedSummary : List Char := summaryHeader ++ '\n' :: describedNeighbor

/-- The description is part of the state column to one reader and stands after it to the other. -/
theorem describedSummary_not_agree :
    IsSummary describedSummary [] summaryHeader [describedNeighbor] ∧
      ¬ Agree describedSummary summaryHeader [describedNeighbor] := by
  refine ⟨⟨by decide +kernel, by simp, by decide +kernel, by decide +kernel⟩, ?_⟩
  rintro ⟨rows, hparse, -, hcount⟩
  have hrows : (parseBgpSummary describedSummary).toOption.map (·.countP Row.isEstablished) =
      some 0 := by decide +kernel
  have hestablished : parseBgpEstablished describedSummary = 1 := by decide +kernel
  rw [hparse, Except.toOption, Option.map_some, Option.some.injEq, hcount, hestablished] at hrows
  cases hrows

end NetOpsBench.BgpSummary
