import Mathlib

/-!
# IPv4 addresses

An address is the number of its bits. `Addr.parse_toString` reads the text of an address back.
-/

namespace Ipv4

/-- An IPv4 address, as the number of its 32 bits. -/
structure Addr where
  val : Nat
  isLt : val < 2 ^ 32
deriving DecidableEq, Repr

/-- The address of four octets. -/
def Addr.ofOctets (a b c d : Nat) : Addr where
  val := ((a % 256 * 256 + b % 256) * 256 + c % 256) * 256 + d % 256
  isLt := by omega

instance : ToString Addr where
  toString addr := s!"{addr.val / 2 ^ 24}.{addr.val / 2 ^ 16 % 256}.{addr.val / 2 ^ 8 % 256}.{addr.val % 256}"

@[ext] theorem Addr.ext {a b : Addr} (h : a.val = b.val) : a = b := by
  cases a; cases b; simp_all

/-! ## Reading an address -/

/-- A decimal octet without leading zeros. -/
def readOctet (text : List Char) : Option (Nat × List Char) :=
  let digits := text.takeWhile Char.isDigit
  let value := Nat.ofDigitChars 10 digits 0
  if digits = [] ∨ 3 < digits.length ∨ (digits.head? = some '0' ∧ 1 < digits.length) ∨ 255 < value
  then none
  else some (value, text.dropWhile Char.isDigit)

def readDot : List Char → Option (List Char)
  | '.' :: rest => some rest
  | _ => none

/-- Four octets with dots between them, and nothing else. -/
def Addr.parse (text : String) : Option Addr := do
  let (a, rest) ← readOctet text.toList
  let (b, rest) ← readOctet (← readDot rest)
  let (c, rest) ← readOctet (← readDot rest)
  let (d, rest) ← readOctet (← readDot rest)
  if rest = [] then some (.ofOctets a b c d) else none

theorem octet_digits : ∀ n < 256, ¬ (Nat.toDigits 10 n = [] ∨ 3 < (Nat.toDigits 10 n).length ∨
    ((Nat.toDigits 10 n).head? = some '0' ∧ 1 < (Nat.toDigits 10 n).length)) := by
  decide +kernel

/-- The digits of an octet are read back up to what is no digit. -/
theorem readOctet_repr {n : Nat} (hn : n < 256) {rest : List Char}
    (hrest : ∀ c ∈ rest.head?, ¬ c.isDigit) :
    readOctet (n.repr.toList ++ rest) = some (n, rest) := by
  have hdigits : ∀ c ∈ Nat.toDigits 10 n, c.isDigit := fun c hc =>
    Nat.isDigit_of_mem_toDigits (by decide) (by decide) hc
  have hstop : rest.takeWhile Char.isDigit = [] ∧ rest.dropWhile Char.isDigit = rest := by
    cases rest with
    | nil => exact ⟨rfl, rfl⟩
    | cons c rest =>
      exact ⟨List.takeWhile_cons_of_neg (hrest c rfl), List.dropWhile_cons_of_neg (hrest c rfl)⟩
  have hvalid := octet_digits n hn
  unfold readOctet
  rw [Nat.toList_repr]
  dsimp only
  rw [List.takeWhile_append_of_pos hdigits, List.dropWhile_append_of_pos hdigits, hstop.1, hstop.2,
    List.append_nil, Nat.ofDigitChars_ten_toDigits, if_neg]
  rw [← or_assoc, ← or_assoc, not_or]
  exact ⟨by rwa [or_assoc], by omega⟩

theorem Addr.toList_toString (addr : Addr) : (toString addr).toList =
    (addr.val / 2 ^ 24).repr.toList ++ '.' :: ((addr.val / 2 ^ 16 % 256).repr.toList ++
      '.' :: ((addr.val / 2 ^ 8 % 256).repr.toList ++
        '.' :: ((addr.val % 256).repr.toList ++ []))) := by
  simp [toString]

theorem Addr.parse_toString (addr : Addr) : Addr.parse (toString addr) = some addr := by
  have hlt := addr.isLt
  have hdot : ∀ rest : List Char, ∀ c ∈ ('.' :: rest).head?, ¬ c.isDigit := by
    rintro rest c ⟨⟩
    decide
  have hoctets : Addr.ofOctets (addr.val / 2 ^ 24) (addr.val / 2 ^ 16 % 256)
      (addr.val / 2 ^ 8 % 256) (addr.val % 256) = addr := by
    apply Addr.ext
    simp only [Addr.ofOctets]
    omega
  rw [Addr.parse, Addr.toList_toString, readOctet_repr (by omega) (hdot _)]
  simp only [Option.bind_eq_bind, Option.bind_some, readDot]
  rw [readOctet_repr (by omega) (hdot _)]
  simp only [Option.bind_some]
  rw [readOctet_repr (by omega) (hdot _)]
  simp only [Option.bind_some]
  rw [readOctet_repr (by omega) (by simp)]
  simp only [Option.bind_some, hoctets, if_true]

end Ipv4
