import NetOpsBench.Toolkit.RouteParsers

/-!
# Whose next hops a route has

The lines of a route are its row and the indented lines before the next line at the first column.
The parser keeps the last row that it has read as the current route, also across lines at the first
column that it does not read: the indented lines after them are credited to that route.

`nexthops_own_iff` is the equivalence over the text of a table: every route has its own next hops just
when no indented line with a next hop is stray. `parseRows_eq` is what the parser makes of the rows, and
`queuedRow_not_own` a table with a row that it does not read.
-/

namespace NetOpsBench.RouteTable
open Python

/-- The text is a table of rows. -/
structure IsRowTable (text : List Char) : Prop where
  inTable : ¬ "Network not in table".toList <:+: text
  noEntry : ∀ first ∈ (filledLines text).head?, ¬ routingEntry <+: first

instance (text : List Char) : Decidable (IsRowTable text) :=
  decidable_of_iff (¬ "Network not in table".toList <:+: text ∧
      ∀ first ∈ (filledLines text).head?, ¬ routingEntry <+: first)
    ⟨fun ⟨inTable, noEntry⟩ => ⟨inTable, noEntry⟩, fun h => ⟨h.inTable, h.noEntry⟩⟩

theorem parseRouteTable_rows {text : List Char} (h : IsRowTable text) (isAlnum : Char → Bool) :
    parseRouteTable isAlnum text =
      (parseRows (splitlines text)).map fun route => addRouteState isAlnum route route.raw := by
  cases text with
  | nil => rfl
  | cons c text =>
    rw [parseRouteTable, if_neg (not_or.mpr ⟨List.cons_ne_nil c text, h.inTable⟩)]
    cases hlines : filledLines (c :: text) with
    | nil => rfl
    | cons first rest => exact if_neg (h.noEntry first (by rw [hlines]; rfl))

/-! ## Lines -/

def startsColumn (raw : List Char) : Bool := !isBlank raw && !isIndented raw

def isContinuation (raw : List Char) : Bool := !isBlank raw && isIndented raw

/-- The route of a line, if the line is a row that the parser reads. -/
def rowRoute (raw : List Char) : Option RawRoute :=
  if startsColumn raw then readRow (strip raw) else none

/-- The rows that the parser reads, each with the lines after it. -/
def rowTails : List (List Char) → List (RawRoute × List (List Char))
  | [] => []
  | raw :: lines =>
    match rowRoute raw with
    | some route => (route, lines) :: rowTails lines
    | none => rowTails lines

/-- The next hops of the row and of the indented lines before the next line at the first column. -/
def ownNexthops (tail : RawRoute × List (List Char)) : List NextHop :=
  tail.1.nexthops ++
    ((tail.2.takeWhile fun raw => !startsColumn raw).filter isContinuation).flatMap parseNexthops

/-- The indented lines after a line at the first column that is not read, before the next row that
is. -/
def strayLines (lines : List (List Char)) : List (List Char) :=
  ((lines.takeWhile fun raw => rowRoute raw = none).dropWhile fun raw => !startsColumn raw).filter
    isContinuation

/-! ## The loop -/

theorem readLine_eq (parsed : Parsed) (raw : List Char) :
    readLine parsed raw =
      match rowRoute raw with
      | some route => { done := parsed.routes, current := some route }
      | none =>
        if isContinuation raw then { parsed with current := parsed.current.map (·.extend raw) }
        else parsed := by
  unfold readLine rowRoute startsColumn isContinuation
  cases hblank : isBlank raw with
  | true => rfl
  | false =>
    cases hindented : isIndented raw with
    | true => rfl
    | false =>
      cases readRow (strip raw) <;> rfl

/-- A route with the lines that the parser credits to it. -/
def complete (tail : RawRoute × List (List Char)) : RawRoute :=
  ((tail.2.takeWhile fun raw => rowRoute raw = none).filter isContinuation).foldl
    RawRoute.extend tail.1

theorem foldl_readLine_some (lines : List (List Char)) (done : List RawRoute) (route : RawRoute) :
    (lines.foldl readLine { done, current := some route }).routes =
      done ++ complete (route, lines) :: (rowTails lines).map complete := by
  induction lines generalizing done route with
  | nil => rfl
  | cons raw lines ih =>
    rw [List.foldl_cons, readLine_eq]
    cases hrow : rowRoute raw with
    | some next =>
      have hcomplete : complete (route, raw :: lines) = route := by
        rw [complete, List.takeWhile_cons_of_neg (by simp [hrow])]
        rfl
      rw [hcomplete, rowTails, hrow]
      refine (ih (done ++ [route]) next).trans ?_
      rw [List.append_assoc]
      rfl
    | none =>
      have htaken : (raw :: lines).takeWhile (fun raw => rowRoute raw = none) =
          raw :: lines.takeWhile fun raw => rowRoute raw = none :=
        List.takeWhile_cons_of_pos (by simp [hrow])
      rw [complete, htaken, rowTails, hrow]
      dsimp only
      split
      · rename_i hcontinuation
        rw [List.filter_cons_of_pos hcontinuation]
        exact ih done (route.extend raw)
      · rename_i hcontinuation
        rw [List.filter_cons_of_neg hcontinuation]
        exact ih done route

theorem parseRows_eq (lines : List (List Char)) :
    parseRows lines = (rowTails lines).map complete := by
  unfold parseRows
  induction lines with
  | nil => rfl
  | cons raw lines ih =>
    rw [List.foldl_cons, readLine_eq, rowTails]
    cases hrow : rowRoute raw with
    | some route => exact foldl_readLine_some lines [] route
    | none =>
      dsimp only [Option.map_none]
      rwa [ite_self]

theorem nexthops_foldl_extend (lines : List (List Char)) (route : RawRoute) :
    (lines.foldl RawRoute.extend route).nexthops =
      route.nexthops ++ lines.flatMap parseNexthops := by
  induction lines generalizing route with
  | nil => exact (List.append_nil _).symm
  | cons raw lines ih =>
    rw [List.foldl_cons, ih, List.flatMap_cons, RawRoute.extend, List.append_assoc]

/-- What the parser credits to a route are its own next hops and those of the stray lines. -/
theorem nexthops_complete (tail : RawRoute × List (List Char)) :
    (complete tail).nexthops =
      ownNexthops tail ++ (strayLines tail.2).flatMap parseNexthops := by
  have hown : tail.2.takeWhile (fun raw => !startsColumn raw) =
      (tail.2.takeWhile fun raw => rowRoute raw = none).takeWhile fun raw => !startsColumn raw := by
    rw [List.takeWhile_takeWhile]
    congr 1
    funext raw
    cases hstarts : startsColumn raw with
    | true => rfl
    | false => simp [rowRoute, hstarts]
  rw [complete, nexthops_foldl_extend, ownNexthops, hown, strayLines, List.append_assoc,
    ← List.flatMap_append, ← List.filter_append, List.takeWhile_append_dropWhile]

/-- Every route has the next hops of its own lines if and only if no stray line has one. -/
theorem nexthops_own_iff {text : List Char} (h : IsRowTable text) (isAlnum : Char → Bool) :
    List.Forall₂ (fun route tail => route.nexthops = ownNexthops tail)
        (parseRouteTable isAlnum text) (rowTails (splitlines text)) ↔
      ∀ tail ∈ rowTails (splitlines text), ∀ line ∈ strayLines tail.2, parseNexthops line = [] := by
  rw [parseRouteTable_rows h, parseRows_eq, List.map_map, List.forall₂_map_left_iff,
    List.forall₂_same]
  refine forall₂_congr fun tail _ => ?_
  show (complete tail).nexthops = ownNexthops tail ↔ _
  rw [nexthops_complete, List.append_right_eq_self, List.flatMap_eq_nil_iff]

def twoRows : List Char :=
  ("S>* 192.168.2.2/32 [1/0] via 192.168.101.2, Ethernet8\n" ++
    "B>* 192.168.102.0/30 [20/0] via 192.168.11.1, Ethernet0\n" ++
    "  *                         via 192.168.21.1, Ethernet4\n").toList

theorem twoRows_own :
    List.Forall₂ (fun route tail => route.nexthops = ownNexthops tail)
      (parseRouteTable Char.isAlphanum twoRows) (rowTails (splitlines twoRows)) :=
  (nexthops_own_iff (by decide +kernel) Char.isAlphanum).mpr (by decide +kernel)

/-- The second row is one that the kernel has queued. -/
def queuedRow : List Char :=
  ("B>* 192.168.102.0/30 [20/0] via 192.168.11.1, Ethernet0\n" ++
    "B>q 192.168.103.0/30 [20/0] via 192.168.12.1, Ethernet4\n" ++
    "  q                         via 192.168.22.1, Ethernet8\n").toList

/-- Its second next hop goes to the row before. -/
theorem queuedRow_not_own :
    ((parseRouteTable Char.isAlphanum queuedRow).map fun route =>
        (String.ofList route.pfx, route.nexthops.map fun hop => String.ofList (hop.via.getD []))) =
        [("192.168.102.0/30", ["192.168.11.1", "192.168.22.1"])] ∧
      ¬ List.Forall₂ (fun route tail => route.nexthops = ownNexthops tail)
        (parseRouteTable Char.isAlphanum queuedRow) (rowTails (splitlines queuedRow)) := by
  decide +kernel

end NetOpsBench.RouteTable
