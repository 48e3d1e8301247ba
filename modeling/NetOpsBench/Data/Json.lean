import Mathlib

/-!
# JSON values

A JSON value, its canonical form with sorted keys, and the compact text of a value.
-/

inductive Json where
  | null
  | bool (value : Bool)
  | int (value : Int)
  | str (value : String)
  | arr (items : List Json)
  | obj (entries : List (String × Json))

namespace Json

/-- A character within a string of the compact text. -/
def escape (c : Char) : String :=
  if c = '"' then "\\\""
  else if c = '\\' then "\\\\"
  else if c = '\x08' then "\\b"
  else if c = '\x0c' then "\\f"
  else if c = '\n' then "\\n"
  else if c = '\r' then "\\r"
  else if c = '\t' then "\\t"
  else if c.toNat < 0x20 then
    .ofList ['\\', 'u', '0', '0', Nat.digitChar (c.toNat / 16), Nat.digitChar (c.toNat % 16)]
  else
    .singleton c

def quote (text : String) : String := "\"" ++ .join (text.toList.map escape) ++ "\""

mutual

/-- The compact text, without blanks. -/
def compact : Json → String
  | null => "null"
  | bool value => if value then "true" else "false"
  | int value => toString value
  | str value => quote value
  | arr items => "[" ++ ",".intercalate (compactItems items) ++ "]"
  | obj entries => "\x7b" ++ ",".intercalate (compactEntries entries) ++ "\x7d"

def compactItems : List Json → List String
  | [] => []
  | item :: items => compact item :: compactItems items

def compactEntries : List (String × Json) → List String
  | [] => []
  | entry :: entries => compactEntry entry :: compactEntries entries

def compactEntry : String × Json → String
  | (key, value) => quote key ++ ":" ++ compact value

end

mutual

/-- Every object with its keys in order. -/
def canonical : Json → Json
  | arr items => arr (canonicalItems items)
  | obj entries => obj ((canonicalEntries entries).insertionSort fun a b => a.1 ≤ b.1)
  | other => other

def canonicalItems : List Json → List Json
  | [] => []
  | item :: items => canonical item :: canonicalItems items

def canonicalEntries : List (String × Json) → List (String × Json)
  | [] => []
  | entry :: entries => canonicalEntry entry :: canonicalEntries entries

def canonicalEntry : String × Json → String × Json
  | (key, value) => (key, canonical value)

end

end Json
