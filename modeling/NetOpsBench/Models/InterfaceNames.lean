import NetOpsBench.Data.Python

/-!
# Interface names

One front-panel port has a SONiC name, a Linux name and older labels. The patterns ignore case and
read the decimal digits of any script.
-/

namespace NetOpsBench.Models

/-! ## The patterns -/

def readDigits (digits : List Char) : Option Nat :=
  if digits ≠ [] ∧ digits.all fun c => (Python.decimal? c).isSome then
    some (Python.decimalValue digits)
  else none

/-- What follows a lower-case word at the start of a text. -/
def afterWord (word text : List Char) : Option (List Char) :=
  if (text.take word.length).map Char.toLower = word then some (text.drop word.length) else none

/-- `^ethernet(\d+)$` -/
def sonicPort (text : String) : Option Nat :=
  (afterWord "ethernet".toList text.toList).bind readDigits

/-- `^eth(\d+)$` -/
def linuxPort (text : String) : Option Nat :=
  (afterWord "eth".toList text.toList).bind readDigits

/-- The second number of a label with two numbers. -/
def secondPort (word : String) (separator : Char) (text : String) : Option Nat := do
  let numbers ← afterWord word.toList text.toList
  let _ ← readDigits (numbers.takeWhile (· ≠ separator))
  let rest ← afterWord [separator] (numbers.dropWhile (· ≠ separator))
  readDigits rest

/-- `^e(\d+)-(\d+)$` -/
def eStylePort : String → Option Nat := secondPort "e" '-'

/-- `^ethernet-(\d+)/(\d+)$` -/
def vendorStylePort : String → Option Nat := secondPort "ethernet-" '/'

/-! ## The names -/

def ethName (port : Nat) : String := "eth" ++ toString port

def ethernetName (index : Nat) : String := "Ethernet" ++ toString index

/-- `text.lower()`, of ASCII letters only: letters that Python lowers beside them stay as they are. -/
def lowerName (text : String) : String := .ofList (text.toList.map Char.toLower)

def normalizeInterfaceName (interfaceName : String) : String :=
  let rawName := Python.strip interfaceName
  if rawName = "" then
    ""
  else
    match sonicPort rawName with
    | some index => if index % 4 = 0 then ethName (index / 4 + 1) else lowerName rawName
    | none =>
      match linuxPort rawName <|> eStylePort rawName <|> vendorStylePort rawName with
      | some port => ethName port
      | none =>
        let normalized :=
          Python.replace (Python.replace (lowerName rawName) "ethernet-" "eth") "ethernet" "eth"
        Python.replace (Python.replace normalized "/" "") "-" ""

def toLinuxInterface (interfaceName : String) : String :=
  match linuxPort (normalizeInterfaceName interfaceName) with
  | some port => ethName port
  | none => Python.strip interfaceName

def toSonicInterface (interfaceName : String) : String :=
  match (linuxPort (normalizeInterfaceName interfaceName)).filter (1 ≤ ·) with
  | some port => ethernetName ((port - 1) * 4)
  | none =>
    match sonicPort (Python.strip interfaceName) with
    | some index => ethernetName index
    | none => Python.strip interfaceName

/-! ## The names of a port -/

theorem isDigit_of_mem_repr {n : Nat} {c : Char} (h : c ∈ n.repr.toList) : c.isDigit := by
  rw [Nat.toList_repr] at h
  exact Nat.isDigit_of_mem_toDigits (by decide) (by decide) h

theorem repr_ne_nil (n : Nat) : n.repr.toList ≠ [] := by
  rw [Nat.toList_repr]
  exact Nat.toDigits_ne_nil

theorem readDigits_repr (n : Nat) : readDigits n.repr.toList = some n := by
  have hdigits : n.repr.toList.all fun c => (Python.decimal? c).isSome :=
    List.all_eq_true.mpr fun c hc => by rw [Python.decimal?_of_isDigit (isDigit_of_mem_repr hc)]; rfl
  rw [readDigits, if_pos ⟨repr_ne_nil n, hdigits⟩,
    Python.decimalValue_eq fun c => isDigit_of_mem_repr, Nat.toList_repr,
    Nat.ofDigitChars_ten_toDigits]

/-- A word and a number have no blanks around them. -/
theorem strip_word_repr {text : String} {first : Char} {word : List Char} {n : Nat}
    (h : text.toList = first :: word ++ n.repr.toList) (hfirst : ¬ Python.isSpace first) :
    Python.strip text = text := by
  refine Python.strip_eq_self (fun c hc => ?_) fun c hc => ?_
  · rw [h] at hc
    cases hc
    exact hfirst
  · rw [h, List.getLast?_append_of_ne_nil _ (repr_ne_nil n)] at hc
    rw [Python.isSpace_of_isDigit (isDigit_of_mem_repr (List.mem_of_getLast? hc))]
    exact Bool.false_ne_true

theorem afterWord_append {word start rest : List Char} (h : start.map Char.toLower = word) :
    afterWord word (start ++ rest) = some rest := by
  subst h
  rw [afterWord, List.length_map, List.take_left, if_pos rfl, List.drop_left]

theorem toList_ethName (n : Nat) : (ethName n).toList = ['e', 't', 'h'] ++ n.repr.toList := by
  rw [ethName, String.toList_append]
  rfl

theorem toList_ethernetName (n : Nat) :
    (ethernetName n).toList = ['E', 't', 'h', 'e', 'r', 'n', 'e', 't'] ++ n.repr.toList := by
  rw [ethernetName, String.toList_append]
  rfl

theorem linuxPort_ethName (n : Nat) : linuxPort (ethName n) = some n := by
  rw [linuxPort, toList_ethName, afterWord_append (by decide), Option.bind_some, readDigits_repr]

theorem sonicPort_ethernetName (n : Nat) : sonicPort (ethernetName n) = some n := by
  rw [sonicPort, toList_ethernetName, afterWord_append (by decide), Option.bind_some,
    readDigits_repr]

theorem toLower_of_isDigit {c : Char} (h : c.isDigit) : c.toLower = c := by
  simp only [Char.isDigit, Bool.and_eq_true, decide_eq_true_eq, UInt32.le_iff_toNat_le] at h
  unfold Char.toLower
  rw [dif_neg]
  rw [ge_iff_le, UInt32.le_iff_toNat_le]
  have hnine : '9'.val.toNat = 57 := rfl
  have hletter : 'A'.val.toNat = 65 := rfl
  omega

/-- The fourth letter is not a digit. -/
theorem sonicPort_ethName (n : Nat) : sonicPort (ethName n) = none := by
  rw [sonicPort, toList_ethName]
  cases hdigits : n.repr.toList with
  | nil => exact absurd hdigits (repr_ne_nil n)
  | cons digit digits =>
    have hdigit : digit.isDigit := isDigit_of_mem_repr (hdigits ▸ List.mem_cons_self)
    rw [afterWord, if_neg, Option.bind_none]
    intro h
    have hletter : digit.toLower = 'e' := (List.cons.inj (List.cons.inj (List.cons.inj
      (List.cons.inj h).2).2).2).1
    rw [toLower_of_isDigit hdigit] at hletter
    rw [hletter] at hdigit
    cases hdigit

theorem strip_ethName (n : Nat) : Python.strip (ethName n) = ethName n :=
  strip_word_repr (toList_ethName n) (by decide)

theorem strip_ethernetName (n : Nat) : Python.strip (ethernetName n) = ethernetName n :=
  strip_word_repr (toList_ethernetName n) (by decide)

theorem ethName_ne (n : Nat) : ethName n ≠ "" := fun h => by
  have := congrArg String.toList h
  rw [toList_ethName] at this
  cases this

theorem ethernetName_ne (n : Nat) : ethernetName n ≠ "" := fun h => by
  have := congrArg String.toList h
  rw [toList_ethernetName] at this
  cases this

theorem normalize_ethName (n : Nat) : normalizeInterfaceName (ethName n) = ethName n := by
  unfold normalizeInterfaceName
  simp only [strip_ethName, if_neg (ethName_ne n), sonicPort_ethName, linuxPort_ethName]
  rfl

/-- The SONiC name of a port has its Linux name as the normal form. -/
theorem normalize_ethernetName (n : Nat) :
    normalizeInterfaceName (ethernetName (n * 4)) = ethName (n + 1) := by
  unfold normalizeInterfaceName
  simp only [strip_ethernetName, if_neg (ethernetName_ne _), sonicPort_ethernetName]
  rw [if_pos (Nat.mul_mod_left n 4), Nat.mul_div_cancel n (by decide)]

theorem toLinuxInterface_ethName (n : Nat) : toLinuxInterface (ethName n) = ethName n := by
  rw [toLinuxInterface, normalize_ethName, linuxPort_ethName]

theorem toSonicInterface_ethName {n : Nat} (h : 1 ≤ n) :
    toSonicInterface (ethName n) = ethernetName ((n - 1) * 4) := by
  rw [toSonicInterface, normalize_ethName, linuxPort_ethName, Option.filter_some, if_pos]
  exact decide_eq_true h

theorem toLinuxInterface_ethernetName (n : Nat) :
    toLinuxInterface (ethernetName (n * 4)) = ethName (n + 1) := by
  rw [toLinuxInterface, normalize_ethernetName, linuxPort_ethName]

/-- The SONiC name of a port has the Linux name of the port. -/
theorem toLinuxInterface_toSonicInterface {n : Nat} (h : 1 ≤ n) :
    toLinuxInterface (toSonicInterface (ethName n)) = toLinuxInterface (ethName n) := by
  rw [toSonicInterface_ethName h, toLinuxInterface_ethernetName, toLinuxInterface_ethName,
    Nat.sub_add_cancel h]

-- the names are read through the lemmas above only
attribute [irreducible] toLinuxInterface toSonicInterface

end NetOpsBench.Models
