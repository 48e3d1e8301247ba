import NetOpsBench.Data.Scan

/-!
# Route tables

`parse_route_table` reads the routes and next hops of `show ip route`. A row starts at the first
column, the lines of its further next hops are indented. Lower case is that of ASCII, and
`str.isalnum` is a parameter.

A text with an entry for one prefix is read by `parseEntry`, a table by `parseRows`.
-/

namespace NetOpsBench.RouteTable
open Python Scan

structure NextHop where
  via : Option (List Char)
  interface : Option (List Char)
deriving DecidableEq, Repr

/-- A route with the text that `_raw` collects. -/
structure RawRoute where
  pfx : List Char
  code : Option (List Char)
  protocol : List Char
  nexthops : List NextHop
  adminDistance : Option Nat
  metric : Option Nat
  raw : List Char
deriving DecidableEq, Repr

structure Route where
  pfx : List Char
  code : Option (List Char)
  protocol : List Char
  nexthops : List NextHop
  adminDistance : Option Nat
  metric : Option Nat
  selected : Bool
  isDiscard : Bool
  discardInterface : Option (List Char)
deriving DecidableEq, Repr

def protocolFromCode : List Char → String
  | [] => "unknown"
  | 'B' :: _ => "bgp"
  | 'C' :: _ => "connected"
  | 'S' :: _ => "static"
  | 'O' :: _ => "ospf"
  | 'R' :: _ => "rip"
  | 'K' :: _ => "kernel"
  | 'L' :: _ => "local"
  | _ :: _ => "other"

/-- `via\s+([^,\s]+)(?:,\s*([^,\s]+))?` -/
def viaPattern (text : List Char) : Option (NextHop × List Char) := do
  let text ← literal "via".toList text
  let text ← spaces1 text
  let (via, rest) ← word1 text
  match (literal [','] rest).bind fun text => word1 (skipSpaces text) with
  | some (interface, rest) =>
    return ({ via := some via
              interface := if interface = "weight".toList then none else some interface }, rest)
  | none => return ({ via := some via, interface := none }, rest)

def parseNexthops (rest : List Char) : List NextHop := finditer viaPattern 0 rest

/-- A character under `re.IGNORECASE`: the Kelvin sign is a `k`. -/
def sameLetter (letter c : Char) : Bool :=
  c.toLower = letter || (letter = 'k' && c = Char.ofNat 0x212a)

/-- `\b(Null0|blackhole|reject)\b` -/
def discardMatch (isAlnum : Char → Bool) : Option Char → List Char → Option (List Char)
  | _, [] => none
  | before, c :: text =>
    let isWord (c : Char) : Bool := isAlnum c || c = '_'
    let found := ["null0", "blackhole", "reject"].find? fun word =>
      List.Forall₂ (fun letter c => sameLetter letter c) word.toList
        ((c :: text).take word.length) ∧
      !((c :: text)[word.length]?).any isWord
    match found with
    | some word =>
      if before.any isWord then discardMatch isAlnum (some c) text
      else some ((c :: text).take word.length)
    | none => discardMatch isAlnum (some c) text

/-- `text.lower()`, of ASCII letters only. -/
def lower (text : List Char) : List Char := text.map Char.toLower

def addRouteState (isAlnum : Char → Bool) (route : RawRoute) (rawText : List Char) : Route :=
  let code := route.code.getD []
  let discardMatch := discardMatch isAlnum none rawText
  let discardHop := (route.nexthops.find? fun hop =>
    lower (hop.interface.getD []) = "null0".toList).bind (·.interface)
  { pfx := route.pfx, code := route.code, protocol := route.protocol, nexthops := route.nexthops
    adminDistance := route.adminDistance, metric := route.metric
    selected := '>' ∈ code ∨ "best".toList <:+: lower rawText
    isDiscard := discardMatch.isSome || discardHop.isSome
    discardInterface := discardHop.or discardMatch }

def strip (text : List Char) : List Char := (text.dropWhile isSpace).rdropWhile isSpace

/-! ## The entry of one route -/

/-- `^Known via "([^"]+)", distance (\d+), metric (\d+)` -/
def knownMatch (line : List Char) : Option (List Char × Nat × Nat) := do
  let text ← literal "Known via \"".toList line
  let (protocol, text) ← many1 (· ≠ '"') text
  let text ← literal "\", distance ".toList text
  let (distance, text) ← digits1 text
  let text ← literal ", metric ".toList text
  let (metric, _) ← digits1 text
  return (protocol, decimalValue distance, decimalValue metric)

/-- `directly connected,\s*([^,\s]+)` -/
def connectedPattern (text : List Char) : Option (List Char) := do
  let text ← literal "directly connected,".toList text
  let (interface, _) ← word1 (skipSpaces text)
  return interface

/-- `^([^,\s]+)(?:,\s*via\s+([^,\s]+))?` -/
def entryHopMatch (line : List Char) : Option NextHop := do
  let (via, rest) ← word1 line
  let interface := do
    let text ← literal [','] rest
    let text ← literal "via".toList (skipSpaces text)
    let text ← spaces1 text
    word1 text
  return { via := some via, interface := interface.map (·.1) }

/-- A line of the entry. -/
def readEntryLine (route : RawRoute) (raw : List Char) : RawRoute :=
  let line := strip raw
  match knownMatch line with
  | some (protocol, distance, metric) =>
    { route with
      protocol := (lower protocol).map fun c => if c = ' ' then '_' else c
      adminDistance := some distance
      metric := some metric }
  | none =>
    if line.head? ≠ some '*' then route
    else
      let line := strip (line.dropWhile fun c => c = '*' || c = ' ')
      if "directly connected".toList <+: line then
        { route with
          nexthops := route.nexthops ++ [{ via := none, interface := search connectedPattern line }] }
      else
        { route with nexthops := route.nexthops ++ (entryHopMatch line).toList }

def parseEntry (pfx : List Char) (lines : List (List Char)) (text : List Char) : RawRoute :=
  lines.foldl readEntryLine
    { pfx, code := none, protocol := "unknown".toList, nexthops := [], adminDistance := none
      metric := none, raw := text }

/-! ## The rows of a table -/

/-- `\[(\d+)/(\d+)\]` -/
def metricPattern (text : List Char) : Option (Nat × Nat) := do
  let text ← literal ['['] text
  let (distance, text) ← digits1 text
  let text ← literal ['/'] text
  let (metric, text) ← digits1 text
  let _ ← literal [']'] text
  return (decimalValue distance, decimalValue metric)

/-- The route of a row that matches `^([A-Z*>]+)\s+([0-9.]+/\d+)\s*(.*)$`. -/
def readRow (line : List Char) : Option RawRoute := do
  let (code, text) ← many1 (fun c => c.isUpper || c = '*' || c = '>') line
  let text ← spaces1 text
  let (address, text) ← many1 (fun c => c.isDigit || c = '.') text
  let text ← literal ['/'] text
  let (length, text) ← digits1 text
  let rest := skipSpaces text
  let metrics := search metricPattern rest
  let connected :=
    if "directly connected".toList <:+: rest then
      (search connectedPattern rest).toList.map fun interface =>
        { via := none, interface := some interface }
    else []
  return {
    pfx := address ++ '/' :: length
    code := some code
    protocol := (protocolFromCode code).toList
    nexthops := connected ++ parseNexthops rest
    adminDistance := metrics.map (·.1)
    metric := metrics.map (·.2)
    raw := rest }

/-- The next hops of an indented line. -/
def RawRoute.extend (route : RawRoute) (raw : List Char) : RawRoute :=
  { route with
    nexthops := route.nexthops ++ parseNexthops raw
    raw := route.raw ++ ' ' :: strip raw }

/-- The routes before `current`, which further lines can still change. -/
structure Parsed where
  done : List RawRoute
  current : Option RawRoute
deriving DecidableEq, Repr

def Parsed.routes (parsed : Parsed) : List RawRoute := parsed.done ++ parsed.current.toList

def isBlank (raw : List Char) : Bool := raw.all isSpace

def isIndented (raw : List Char) : Bool := raw.head? = some ' '

/-- The body of the loop over the lines. -/
def readLine (parsed : Parsed) (raw : List Char) : Parsed :=
  if isBlank raw then parsed
  else if isIndented raw then { parsed with current := parsed.current.map (·.extend raw) }
  else
    match readRow (strip raw) with
    | none => parsed
    | some route => { done := parsed.routes, current := some route }

def parseRows (lines : List (List Char)) : List RawRoute :=
  (lines.foldl readLine { done := [], current := none }).routes

def routingEntry : List Char := "Routing entry for ".toList

def parseRouteTable (isAlnum : Char → Bool) (text : List Char) : List Route :=
  if text = [] ∨ "Network not in table".toList <:+: text then []
  else
    match filledLines text with
    | first :: rest =>
      if routingEntry <+: first then
        let route := parseEntry (strip (first.drop routingEntry.length)) rest text
        [addRouteState isAlnum route text]
      else
        (parseRows (splitlines text)).map fun route => addRouteState isAlnum route route.raw
    | [] => (parseRows (splitlines text)).map fun route => addRouteState isAlnum route route.raw

end NetOpsBench.RouteTable
