import NetOpsBench.Data.Dict
import NetOpsBench.Data.Ipv4
import NetOpsBench.Data.Scan

/-!
# Two readers of the BGP summary

`parse_bgp_summary` of the collector follows the column names of the header. The worker's health
check counts the established sessions from the tenth word of a line. Lower case is that of ASCII.

The readers are `parseBgpSummary` and `parseBgpEstablished`; what they have in common is told in
`SummaryAgreement`.
-/

namespace NetOpsBench.BgpSummary
open Python Scan

/-! ## Addresses -/

/-- A group of an IPv6 address. -/
def isHextet (group : List Char) : Bool :=
  group ≠ [] ∧ group.length ≤ 4 ∧
    group.all fun c => c.isDigit || ('a' ≤ c && c ≤ 'f') || ('A' ≤ c && c ≤ 'F')

/-- The text after a `%` is the scope. -/
def splitScope (text : List Char) : Option (List Char) :=
  match text.splitOn '%' with
  | [address] => some address
  | [address, scope] => if scope = [] then none else some address
  | _ => none

/-- The groups between colons, with the two that an IPv4 address at the end stands for. -/
def ipv6Groups (address : List Char) : Option (List (List Char)) :=
  let parts := address.splitOn ':'
  let last := parts.getLastD []
  if parts.length < 3 then none
  else if '.' ∈ last then
    (Ipv4.Addr.parse (.ofList last)).map fun _ => parts.dropLast ++ [['0'], ['0']]
  else some parts

/-- `IPv6Address(text)` is no error. -/
def isIpv6 (text : List Char) : Bool :=
  if '/' ∈ text then false
  else
    match (splitScope text).bind ipv6Groups with
    | none => false
    | some parts =>
      let inner := (parts.drop 1).dropLast
      match inner.findIdx? (· = []) with
      | none => parts.length = 8 ∧ parts.all isHextet
      | some index =>
        let high := parts.take (index + 1)
        let low := parts.drop (index + 2)
        let high := if high = [[]] then [] else high
        let low := if low = [[]] then [] else low
        parts.length ≤ 9 ∧ high.length + low.length < 8 ∧ high.all isHextet ∧ low.all isHextet

/-- The version of `ipaddress.ip_address(text)`. -/
def ipVersion (text : List Char) : Option Nat :=
  if (Ipv4.Addr.parse (.ofList text)).isSome then some 4
  else if isIpv6 text then some 6
  else none

/-! ## The collector's reader -/

/-- The values of `_coerce_value`. -/
inductive Coerced where
  | int (value : Int)
  | text (value : List Char)
deriving DecidableEq, Repr

def coerceValue (value : List Char) : Coerced :=
  match parseInt (.ofList value) with
  | some number => .int number
  | none => .text (strip (.ofList value)).toList

structure Row where
  neighbor : Option (List Char)
  asn : Option Coerced
  state : Option (List Char)
  prefixesReceived : Option Int
  upDown : Option (List Char)
  msgRcvd : Option Coerced
  msgSent : Option Coerced
  inQ : Option Coerced
  outQ : Option Coerced
deriving DecidableEq, Repr

/-- `re.sub(r"[^a-z0-9]+", "_", value.strip().lower()).strip("_")`, where ASCII letters only are
lowered. -/
def normalizeKey (value : List Char) : List Char :=
  let text := (strip (.ofList value)).toList.map Char.toLower
  let isKept (c : Char) : Bool := ('a' ≤ c && c ≤ 'z') || c.isDigit
  let groups := (text.splitOnP fun c => !isKept c).filter (· ≠ [])
  ['_'].intercalate groups

/-- The digits that are no decimal digits, such as superscripts. -/
def isOtherDigit (c : Char) : Bool :=
  [(0xb2, 0xb3), (0xb9, 0xb9), (0x1369, 0x1371), (0x19da, 0x19da), (0x2070, 0x2070),
    (0x2074, 0x2079), (0x2080, 0x2089), (0x2460, 0x2468), (0x2474, 0x247c), (0x2488, 0x2490),
    (0x24ea, 0x24ea), (0x24f5, 0x24fd), (0x24ff, 0x24ff), (0x2776, 0x277e), (0x2780, 0x2788),
    (0x278a, 0x2792), (0x10a40, 0x10a43), (0x10e60, 0x10e68), (0x11052, 0x1105a),
    (0x1f100, 0x1f10a)].any fun (low, high) => low ≤ c.toNat && c.toNat ≤ high

/-- `text.isdigit()` -/
def isDigits (text : List Char) : Bool :=
  text ≠ [] ∧ text.all fun c => (decimal? c).isSome || isOtherDigit c

def isHeader (line : List Char) : Bool :=
  "Neighbor".toList <+: line ∧ "State".toList <:+: line

/-- The words of a row under the columns of the header; those that are left over belong to the last
column. -/
def columnWords (headers parts : List (List Char)) : List (List Char) :=
  if headers.length < parts.length then
    parts.take (headers.length - 1) ++ [[' '].intercalate (parts.drop (headers.length - 1))]
  else parts

/-- The value of a column of a row. -/
def column (headers parts : List (List Char)) (key : String) : Option (List Char) :=
  (Dict.ofItems ((headers.map normalizeKey).zip (columnWords headers parts))).lookup key.toList

/-- `int(state)` of a session that counts prefixes; the error is a `ValueError`. -/
def prefixCount (state : Option (List Char)) : Except Unit (Option Int) :=
  let state := state.getD []
  if isDigits state then
    match parseInt (.ofList state) with
    | some count => .ok (some count)
    | none => .error ()
  else .ok none

def readRow (headers parts : List (List Char)) : Except Unit Row := do
  let row := column headers parts
  let prefixesReceived ← prefixCount (row "state_pfxrcd")
  return {
    neighbor := row "neighbor"
    asn := (row "as").map coerceValue
    state :=
      if prefixesReceived.isSome then some "Established".toList else row "state_pfxrcd"
    prefixesReceived
    upDown := row "up_down"
    msgRcvd := (row "msgrcvd").map coerceValue
    msgSent := (row "msgsent").map coerceValue
    inQ := (row "inq").map coerceValue
    outQ := (row "outq").map coerceValue }

/-- The lines after the header that become rows. -/
def isRowLine (line : List Char) : Bool :=
  match split line with
  | address :: _ :: _ => (ipVersion address).isSome
  | _ => false

def parseBgpSummary (text : List Char) : Except Unit (List Row) :=
  match (filledLines text).dropWhile fun line => !isHeader line with
  | [] => .ok []
  | header :: lines =>
    (lines.filter isRowLine).mapM fun line => readRow (split header) (split line)

/-! ## The health check's reader -/

/-- `^\d+\.\d+\.\d+\.\d+$` -/
def isDottedQuad (word : List Char) : Bool :=
  let rest := do
    let (_, rest) ← digits1 word
    let (_, rest) ← digits1 (← literal ['.'] rest)
    let (_, rest) ← digits1 (← literal ['.'] rest)
    let (_, rest) ← digits1 (← literal ['.'] rest)
    return rest
  rest = some []

/-- A line that the check counts as an established session. -/
def isCounted (line : List Char) : Bool :=
  let parts := split line
  parts.head?.any isDottedQuad && parts[9]?.any fun state => (parseInt (.ofList state)).isSome

def parseBgpEstablished (bgpOutput : List Char) : Nat := (splitlines bgpOutput).countP isCounted

end NetOpsBench.BgpSummary
