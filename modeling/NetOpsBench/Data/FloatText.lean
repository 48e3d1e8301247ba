import NetOpsBench.Data.Binary64
import NetOpsBench.Data.Python

/-!
# The texts of floats

`float(text)`: the literals that it takes, and the double that a literal stands for.
-/

namespace Python

inductive FloatLiteral where
  | nan
  | infinity (negative : Bool)
  /-- `digits * 10 ** exponent` -/
  | decimal (negative : Bool) (digits : ℕ) (exponent : ℤ)
deriving DecidableEq, Repr

/-- A finite double is its sign and its magnitude. -/
inductive Float where
  | nan
  | infinity (negative : Bool)
  | finite (negative : Bool) (magnitude : ℚ)
deriving DecidableEq, Repr

/-- Decimal digits, with single underscores between them. -/
def digitPart (text : List Char) : Option (List Char) :=
  let groups := text.splitOn '_'
  if groups.all fun group => group ≠ [] ∧ group.all fun c => (decimal? c).isSome then
    some groups.flatten
  else none

/-- The digits on the sides of the point; one side may be empty. -/
def pointFloat (whole fraction : List Char) : Option (List Char × List Char) :=
  if whole = [] then (digitPart fraction).map ([], ·)
  else if fraction = [] then (digitPart whole).map (·, [])
  else do return (← digitPart whole, ← digitPart fraction)

def floatNumber (negative : Bool) (text : List Char) : Option FloatLiteral := do
  let exponent ← match (text.dropWhile (· ≠ 'e')).tail? with
    | none => some (0 : ℤ)
    | some exponent =>
      let (sign, digits) := splitSign exponent
      (digitPart digits).map fun digits => sign * decimalValue digits
  let mantissa := text.takeWhile (· ≠ 'e')
  let (whole, fraction) ← match (mantissa.dropWhile (· ≠ '.')).tail? with
    | none => (digitPart mantissa).map (·, [])
    | some fraction => pointFloat (mantissa.takeWhile (· ≠ '.')) fraction
  return .decimal negative (decimalValue (whole ++ fraction)) (exponent - fraction.length)

def floatLiteral (text : String) : Option FloatLiteral :=
  let (sign, rest) := splitSign (strip text).toList
  let rest := rest.map Char.toLower
  let negative : Bool := sign < 0
  if rest = "nan".toList then some .nan
  else if rest = "inf".toList ∨ rest = "infinity".toList then some (.infinity negative)
  else floatNumber negative rest

def Float.ofLiteral : FloatLiteral → Float
  | .nan => .nan
  | .infinity negative => .infinity negative
  | .decimal negative digits exponent =>
    let magnitude := Binary64.round (digits * 10 ^ exponent)
    if 2 ^ 1024 ≤ magnitude then .infinity negative else .finite negative magnitude

/-- `float(text)`; `none` is a `ValueError`. -/
def parseFloat (text : String) : Option Float := (floatLiteral text).map .ofLiteral

/-- Integers below `2 ^ 53` are read exactly. -/
theorem parseFloat_of_decimal {text : String} {n : ℕ}
    (h : floatLiteral text = some (.decimal false n 0)) (hn : n < 2 ^ 53) :
    parseFloat text = some (.finite false n) := by
  have hround : Binary64.round (n * 10 ^ (0 : ℤ)) = n := by
    rw [zpow_zero, mul_one, Binary64.round_natCast hn]
  have hsmall : ¬ (2 : ℚ) ^ 1024 ≤ n := by
    have hbound : (n : ℚ) < (2 : ℚ) ^ 53 := by exact_mod_cast hn
    exact not_le.mpr (hbound.trans_le (pow_le_pow_right₀ one_le_two (by omega)))
  rw [parseFloat, h, Option.map_some]
  unfold Float.ofLiteral
  simp only [hround, if_neg hsmall]

example : floatLiteral " -1_0.5e+3 " = some (.decimal true 105 2) := by decide +kernel

example : floatLiteral "1._5" = none := by decide +kernel

end Python
