import NetOpsBench.Data.Python

/-!
# Pieces of regular expressions

What the patterns of the translated code are made of, for patterns that never have to give back
what a repetition has taken.

Each piece takes the start of a text and returns what it read with the rest, or fails.
-/

namespace Scan

/-- The text after a word that it starts with. -/
def literal (word text : List Char) : Option (List Char) :=
  if word <+: text then some (text.drop word.length) else none

/-- One or more characters of a class, as many as there are, and the text after them. -/
def many1 (p : Char → Bool) (text : List Char) : Option (List Char × List Char) :=
  if text.takeWhile p = [] then none else some (text.takeWhile p, text.dropWhile p)

/-- `\s*` -/
def skipSpaces (text : List Char) : List Char := text.dropWhile Python.isSpace

/-- `\s+` -/
def spaces1 (text : List Char) : Option (List Char) := (many1 Python.isSpace text).map (·.2)

/-- `\d+` -/
def digits1 : List Char → Option (List Char × List Char) :=
  many1 fun c => (Python.decimal? c).isSome

/-- `[^,\s]+` -/
def word1 : List Char → Option (List Char × List Char) :=
  many1 fun c => !(c = ',' || Python.isSpace c)

/-- The leftmost match. -/
def search {α : Type} (pattern : List Char → Option α) : List Char → Option α
  | [] => pattern []
  | c :: text => (pattern (c :: text)).or (search pattern text)

/-- The matches after some characters that the match before has taken. -/
def finditer {α : Type} (pattern : List Char → Option (α × List Char)) : Nat → List Char → List α
  | _, [] => []
  | taken + 1, _ :: text => finditer pattern taken text
  | 0, c :: text =>
    match pattern (c :: text) with
    | some (value, rest) => value :: finditer pattern (text.length - rest.length) text
    | none => finditer pattern 0 text

end Scan
