import NetOpsBench.Data.Json

/-!
# Reading the compact text of a value

The compact text of a JSON value determines the value, also when more text follows. The text that
`json.dumps` writes with sorted keys is the compact text of the canonical value, as long as all
strings are printable ASCII.

`compact_injective` is the first fact; the prefix property behind it is `Reads`, which the texts of
strings, numbers, lists and objects have in turn. `dumps_eq` is the second.
-/

namespace Json

/-! ## Characters and strings -/

/-- The value of a lower-case hexadecimal digit. -/
def hexValue (c : Char) : Nat := if c.isDigit then c.toNat - 48 else c.toNat - 87

theorem hexValue_digitChar {n : Nat} (h : n < 16) : hexValue (Nat.digitChar n) = n := by
  revert h n
  decide

/-- The character that an escaped text starts with, and the rest. -/
def unescape : List Char → Option (Char × List Char)
  | '\\' :: 'u' :: '0' :: '0' :: high :: low :: rest =>
    some (.ofNat (hexValue high * 16 + hexValue low), rest)
  | '\\' :: 'b' :: rest => some ('\x08', rest)
  | '\\' :: 'f' :: rest => some ('\x0c', rest)
  | '\\' :: 'n' :: rest => some ('\n', rest)
  | '\\' :: 'r' :: rest => some ('\r', rest)
  | '\\' :: 't' :: rest => some ('\t', rest)
  | '\\' :: c :: rest => some (c, rest)
  | '"' :: _ => none
  | c :: rest => some (c, rest)
  | [] => none

theorem unescape_escape (c : Char) (rest : List Char) :
    unescape ((escape c).toList ++ rest) = some (c, rest) := by
  unfold escape
  split
  · next h => subst h; rfl
  split
  · next h => subst h; rfl
  split
  · next h => subst h; rfl
  split
  · next h => subst h; rfl
  split
  · next h => subst h; rfl
  split
  · next h => subst h; rfl
  split
  · next h => subst h; rfl
  split
  · next h =>
    have hhigh := hexValue_digitChar (n := c.toNat / 16) (by omega)
    have hlow := hexValue_digitChar (n := c.toNat % 16) (by omega)
    rw [String.toList_ofList]
    show some (Char.ofNat (hexValue (Nat.digitChar (c.toNat / 16)) * 16 +
      hexValue (Nat.digitChar (c.toNat % 16))), rest) = some (c, rest)
    rw [hhigh, hlow, Nat.div_add_mod', Char.ofNat_toNat]
  · next hquote hslash _ _ _ _ _ _ =>
    rw [String.toList_singleton, List.singleton_append]
    unfold unescape
    split <;> simp_all

/-- The escaped text up to its closing quote determines the text. -/
theorem escapes_inj {cs ds s t : List Char}
    (h : cs.flatMap (fun c => (escape c).toList) ++ '"' :: s =
      ds.flatMap (fun c => (escape c).toList) ++ '"' :: t) : cs = ds ∧ s = t := by
  induction cs generalizing ds with
  | nil =>
    cases ds with
    | nil => exact ⟨rfl, (List.cons.inj h).2⟩
    | cons d ds =>
      rw [List.flatMap_cons, List.append_assoc] at h
      have hread := congrArg unescape h
      rw [unescape_escape] at hread
      exact absurd hread nofun
  | cons c cs ih =>
    rw [List.flatMap_cons, List.append_assoc] at h
    cases ds with
    | nil =>
      have hread := congrArg unescape h
      rw [unescape_escape] at hread
      exact absurd hread nofun
    | cons d ds =>
      rw [List.flatMap_cons, List.append_assoc] at h
      have hread := congrArg unescape h
      rw [unescape_escape, unescape_escape, Option.some.injEq, Prod.mk.injEq] at hread
      obtain ⟨rfl, hrest⟩ := hread
      obtain ⟨rfl, hend⟩ := ih hrest
      exact ⟨rfl, hend⟩

theorem toList_quote (text : String) : (quote text).toList =
    '"' :: text.toList.flatMap (fun c => (escape c).toList) ++ ['"'] := by
  rw [quote, String.toList_append, String.toList_append, String.toList_join, List.flatMap_map]
  rfl

theorem quote_append_inj {first second : String} {s t : List Char}
    (h : (quote first).toList ++ s = (quote second).toList ++ t) : first = second ∧ s = t := by
  rw [toList_quote, toList_quote] at h
  rw [List.cons_append, List.cons_append, List.append_assoc, List.append_assoc, List.cons_append,
    List.cons_append] at h
  obtain ⟨htext, hrest⟩ := escapes_inj (List.cons.inj h).2
  exact ⟨String.toList_inj.mp htext, hrest⟩

/-! ## Numbers -/

/-- A character of a number. -/
def isNumeral (c : Char) : Bool := c.isDigit || c = '-'

/-- The text does not go on with a number. -/
def Stops (rest : List Char) : Prop := ∀ c ∈ rest.head?, ¬ isNumeral c

theorem Stops.cons {c : Char} (h : ¬ isNumeral c) (rest : List Char) : Stops (c :: rest) := by
  rintro d hd
  cases hd
  exact h

theorem numerals_append_inj {ds es s t : List Char} (hds : ∀ c ∈ ds, isNumeral c)
    (hes : ∀ c ∈ es, isNumeral c) (hs : Stops s) (ht : Stops t) (h : ds ++ s = es ++ t) :
    ds = es ∧ s = t := by
  have htake : ∀ {digits rest : List Char}, (∀ c ∈ digits, isNumeral c) → Stops rest →
      (digits ++ rest).takeWhile isNumeral = digits := fun {digits rest} hdigits hrest => by
    rw [List.takeWhile_append_of_pos hdigits]
    cases rest with
    | nil => exact List.append_nil _
    | cons c rest => rw [List.takeWhile_cons_of_neg (hrest c rfl), List.append_nil]
  have hdigits : ds = es := by rw [← htake hds hs, h, htake hes ht]
  subst hdigits
  exact ⟨rfl, List.append_cancel_left h⟩

theorem isNumeral_repr (n : Nat) : ∀ c ∈ n.repr.toList, isNumeral c := by
  intro c hc
  rw [Nat.toList_repr] at hc
  have hdigit : c.isDigit := Nat.isDigit_of_mem_toDigits (by decide) (by decide) hc
  rw [isNumeral, hdigit, Bool.true_or]

theorem isNumeral_toString (value : Int) : ∀ c ∈ (toString value).toList, isNumeral c := by
  intro c hc
  cases value with
  | ofNat n => exact isNumeral_repr n c hc
  | negSucc n =>
    have hc : c ∈ ("-" ++ (n + 1).repr).toList := hc
    rw [String.toList_append] at hc
    rcases List.mem_append.mp hc with hc | hc
    · cases List.mem_singleton.mp hc
      rfl
    · exact isNumeral_repr _ c hc

theorem int_append_inj {m n : Int} {s t : List Char} (hs : Stops s) (ht : Stops t)
    (h : (toString m).toList ++ s = (toString n).toList ++ t) : m = n ∧ s = t := by
  obtain ⟨htext, hrest⟩ := numerals_append_inj (isNumeral_toString m) (isNumeral_toString n) hs ht h
  exact ⟨Int.repr_injective (String.toList_inj.mp htext), hrest⟩

/-! ## Lists -/

section
variable {α : Type} {f : α → List Char} {close : Char} {s t : List Char}

/-- The items of a list with commas between them. -/
def separated (f : α → List Char) : List α → List Char
  | [] => []
  | item :: items => f item ++ items.flatMap fun item => ',' :: f item

theorem toList_intercalate_map (text : α → String) (items : List α) :
    (",".intercalate (items.map text)).toList = separated (fun item => (text item).toList) items := by
  cases items with
  | nil => rfl
  | cons item items =>
    rw [separated]
    induction items generalizing item with
    | nil => rw [List.map_singleton, String.intercalate_singleton, List.flatMap_nil, List.append_nil]
    | cons next items ih =>
      rw [List.map_cons, List.map_cons, String.intercalate_cons_cons, String.toList_append,
        String.toList_append, ← List.map_cons, ih, List.flatMap_cons, List.append_assoc]
      rfl

/-- Whatever follows an item can be told from it. -/
def Reads (f : α → List Char) (item : α) : Prop :=
  ∀ other s t, Stops s → Stops t → f item ++ s = f other ++ t → item = other ∧ s = t

theorem stops_tail (hclose : ¬ isNumeral close) (items : List α) (s : List Char) :
    Stops ((items.flatMap fun item => ',' :: f item) ++ close :: s) := by
  cases items with
  | nil => exact .cons hclose s
  | cons item items => exact .cons (by decide) _

/-- The later items of a list are determined when each item is. -/
theorem tail_append_inj (hcomma : close ≠ ',') (hclose : ¬ isNumeral close) {items others : List α}
    (hreads : ∀ item ∈ items, Reads f item)
    (h : (items.flatMap fun item => ',' :: f item) ++ close :: s =
      (others.flatMap fun item => ',' :: f item) ++ close :: t) : items = others ∧ s = t := by
  induction items generalizing others with
  | nil =>
    cases others with
    | nil => exact ⟨rfl, (List.cons.inj h).2⟩
    | cons other others => exact absurd (List.cons.inj h).1 hcomma
  | cons item items ih =>
    cases others with
    | nil => exact absurd (List.cons.inj h).1.symm hcomma
    | cons other others =>
      rw [List.flatMap_cons, List.flatMap_cons, List.cons_append, List.cons_append,
        List.cons_append, List.cons_append, List.append_assoc, List.append_assoc] at h
      obtain ⟨rfl, hrest⟩ := hreads item (.head _) other _ _ (stops_tail hclose items s)
        (stops_tail hclose others t) (List.cons.inj h).2
      obtain ⟨rfl, hend⟩ := ih (fun item hitem => hreads item (.tail _ hitem)) hrest
      exact ⟨rfl, hend⟩

theorem separated_append_inj (hcomma : close ≠ ',') (hclose : ¬ isNumeral close)
    (hlead : ∀ item, ∃ c rest, f item = c :: rest ∧ c ≠ close) {items others : List α}
    (hreads : ∀ item ∈ items, Reads f item)
    (h : separated f items ++ close :: s = separated f others ++ close :: t) :
    items = others ∧ s = t := by
  cases items with
  | nil =>
    cases others with
    | nil => exact ⟨rfl, (List.cons.inj h).2⟩
    | cons other others =>
      obtain ⟨c, rest, hother, hc⟩ := hlead other
      rw [separated, separated, hother] at h
      exact absurd (List.cons.inj h).1.symm hc
  | cons item items =>
    cases others with
    | nil =>
      obtain ⟨c, rest, hitem, hc⟩ := hlead item
      rw [separated, separated, hitem] at h
      exact absurd (List.cons.inj h).1 hc
    | cons other others =>
      rw [separated, separated, List.append_assoc, List.append_assoc] at h
      obtain ⟨rfl, hrest⟩ := hreads item (.head _) other _ _ (stops_tail hclose items s)
        (stops_tail hclose others t) h
      obtain ⟨rfl, hend⟩ := tail_append_inj hcomma hclose
        (fun item hitem => hreads item (.tail _ hitem)) hrest
      exact ⟨rfl, hend⟩

end

/-! ## Values -/

theorem compactItems_eq (items : List Json) : compactItems items = items.map compact := by
  induction items with
  | nil => rfl
  | cons item items ih => rw [compactItems, ih, List.map_cons]

theorem compactEntries_eq (entries : List (String × Json)) :
    compactEntries entries = entries.map compactEntry := by
  induction entries with
  | nil => rfl
  | cons entry entries ih => rw [compactEntries, ih, List.map_cons]

theorem toList_compact_arr (items : List Json) : (arr items).compact.toList =
    '[' :: separated (fun item => (compact item).toList) items ++ [']'] := by
  rw [compact, compactItems_eq, String.toList_append, String.toList_append, toList_intercalate_map]
  rfl

theorem toList_compact_obj (entries : List (String × Json)) : (obj entries).compact.toList =
    '\x7b' :: separated (fun entry => (compactEntry entry).toList) entries ++ ['\x7d'] := by
  rw [compact, compactEntries_eq, String.toList_append, String.toList_append,
    toList_intercalate_map]
  rfl

theorem toList_compactEntry (entry : String × Json) : (compactEntry entry).toList =
    (quote entry.1).toList ++ ':' :: entry.2.compact.toList := by
  rw [compactEntry, String.toList_append, String.toList_append, List.append_assoc]
  rfl

/-- The number of the constructor of a value. -/
def kind : Json → Nat
  | null => 0
  | bool _ => 1
  | int _ => 2
  | str _ => 3
  | arr _ => 4
  | obj _ => 5

/-- The kind of the values whose text starts with a character. -/
def leadKind (c : Char) : Nat :=
  if c = 'n' then 0
  else if c = 't' ∨ c = 'f' then 1
  else if isNumeral c then 2
  else if c = '"' then 3
  else if c = '[' then 4
  else if c = '\x7b' then 5
  else 6

theorem leadKind_numeral {c : Char} (h : isNumeral c) : leadKind c = 2 := by
  unfold leadKind
  rw [if_neg (by rintro rfl; cases h), if_neg (by rintro (rfl | rfl) <;> cases h), if_pos h]

/-- The first character of a text tells the kind of its value. -/
theorem compact_lead (value : Json) :
    ∃ c rest, value.compact.toList = c :: rest ∧ leadKind c = value.kind := by
  cases value with
  | null => exact ⟨'n', _, rfl, rfl⟩
  | bool value => cases value <;> exact ⟨_, _, rfl, rfl⟩
  | int value =>
    obtain ⟨c, rest, htext⟩ : ∃ c rest, (toString value).toList = c :: rest := by
      cases value with
      | ofNat n =>
        refine List.exists_cons_of_ne_nil ?_
        show n.repr.toList ≠ []
        rw [Nat.toList_repr]
        exact Nat.toDigits_ne_nil
      | negSucc n => exact ⟨'-', _, String.toList_append⟩
    refine ⟨c, rest, by rw [compact, htext], leadKind_numeral (isNumeral_toString value c ?_)⟩
    rw [htext]
    exact .head _
  | str value => exact ⟨'"', _, toList_quote value, rfl⟩
  | arr items => exact ⟨'[', _, toList_compact_arr items, rfl⟩
  | obj entries => exact ⟨'\x7b', _, toList_compact_obj entries, rfl⟩

theorem compact_lead_ne (value : Json) {close : Char} (hclose : leadKind close = 6) :
    ∃ c rest, value.compact.toList = c :: rest ∧ c ≠ close := by
  obtain ⟨c, rest, htext, hkind⟩ := value.compact_lead
  refine ⟨c, rest, htext, ?_⟩
  rintro rfl
  rw [hkind] at hclose
  cases value <;> cases hclose

/-- Values with one text, up to what follows, are of one kind. -/
theorem kind_eq {value other : Json} {s t : List Char}
    (h : value.compact.toList ++ s = other.compact.toList ++ t) : value.kind = other.kind := by
  obtain ⟨c, rest, htext, hkind⟩ := value.compact_lead
  obtain ⟨d, rest', htext', hkind'⟩ := other.compact_lead
  rw [htext, htext'] at h
  rw [← hkind, ← hkind', (List.cons.inj h).1]

/-- The text of a value can be told from whatever follows it. -/
theorem compact_reads : ∀ value, Reads (fun value => (compact value).toList) value
  | null, other, s, t, hs, ht, h => by
    have hkind := kind_eq h
    cases other <;> cases hkind
    exact ⟨rfl, List.append_cancel_left h⟩
  | bool value, other, s, t, hs, ht, h => by
    have hkind := kind_eq h
    cases other <;> cases hkind
    rename_i other
    cases value <;> cases other
    · exact ⟨rfl, List.append_cancel_left h⟩
    · exact absurd (List.cons.inj h).1 (by decide)
    · exact absurd (List.cons.inj h).1 (by decide)
    · exact ⟨rfl, List.append_cancel_left h⟩
  | int value, other, s, t, hs, ht, h => by
    have hkind := kind_eq h
    cases other <;> cases hkind
    obtain ⟨rfl, hrest⟩ := int_append_inj hs ht h
    exact ⟨rfl, hrest⟩
  | str value, other, s, t, hs, ht, h => by
    have hkind := kind_eq h
    cases other <;> cases hkind
    obtain ⟨rfl, hrest⟩ := quote_append_inj h
    exact ⟨rfl, hrest⟩
  | arr items, other, s, t, hs, ht, h => by
    have hkind := kind_eq h
    cases other <;> cases hkind
    dsimp only at h
    rw [toList_compact_arr, toList_compact_arr, List.append_assoc, List.append_assoc] at h
    have hreads : ∀ item ∈ items, Reads (fun value => (compact value).toList) item :=
      fun item _ => compact_reads item
    obtain ⟨rfl, hrest⟩ := separated_append_inj (by decide) (by decide)
      (fun item => item.compact_lead_ne rfl) hreads (List.cons.inj h).2
    exact ⟨rfl, hrest⟩
  | obj entries, other, s, t, hs, ht, h => by
    have hkind := kind_eq h
    cases other <;> cases hkind
    dsimp only at h
    rw [toList_compact_obj, toList_compact_obj, List.append_assoc, List.append_assoc] at h
    have hreads : ∀ entry ∈ entries, Reads (fun entry => (compactEntry entry).toList) entry := by
      rintro ⟨key, value⟩ hmem ⟨key', value'⟩ s t hs ht h
      dsimp only at h
      rw [toList_compactEntry, toList_compactEntry, List.append_assoc, List.append_assoc] at h
      obtain ⟨rfl, hvalue⟩ := quote_append_inj h
      have hsize : sizeOf value < sizeOf entries := by
        have hentry := List.sizeOf_lt_of_mem hmem
        rw [Prod.mk.sizeOf_spec] at hentry
        omega
      obtain ⟨rfl, hrest⟩ := compact_reads value value' s t hs ht (List.cons.inj hvalue).2
      exact ⟨rfl, hrest⟩
    have hlead : ∀ entry : String × Json,
        ∃ c rest, (compactEntry entry).toList = c :: rest ∧ c ≠ '\x7d' := fun entry => by
      rw [toList_compactEntry, toList_quote]
      exact ⟨'"', _, rfl, by decide⟩
    obtain ⟨rfl, hrest⟩ := separated_append_inj (by decide) (by decide) hlead hreads
      (List.cons.inj h).2
    exact ⟨rfl, hrest⟩
termination_by value => value

/-- The compact text of a value determines the value. -/
theorem compact_injective : Function.Injective compact := by
  intro value other h
  refine (compact_reads value other [] [] nofun nofun ?_).1
  show value.compact.toList ++ [] = other.compact.toList ++ []
  rw [h]

/-! ## The text of `json.dumps` -/

/-- Four hexadecimal digits. -/
def hex4 (n : Nat) : List Char :=
  [Nat.digitChar (n / 4096 % 16), Nat.digitChar (n / 256 % 16), Nat.digitChar (n / 16 % 16),
    Nat.digitChar (n % 16)]

/-- A character within an ASCII-only string; beyond the basic plane it is a surrogate pair. -/
def escapeAscii (c : Char) : String :=
  if c = '"' then "\\\""
  else if c = '\\' then "\\\\"
  else if c = '\n' then "\\n"
  else if c = '\r' then "\\r"
  else if c = '\t' then "\\t"
  else if c = '\x0c' then "\\f"
  else if c = '\x08' then "\\b"
  else if 0x20 ≤ c.toNat ∧ c.toNat ≤ 0x7e then .singleton c
  else if c.toNat < 0x10000 then .ofList ('\\' :: 'u' :: hex4 c.toNat)
  else
    .ofList ('\\' :: 'u' :: hex4 (0xd800 + (c.toNat - 0x10000) / 0x400) ++
      '\\' :: 'u' :: hex4 (0xdc00 + (c.toNat - 0x10000) % 0x400))

def quoteAscii (text : String) : String :=
  "\"" ++ .join (text.toList.map escapeAscii) ++ "\""

mutual

/-- `json.dumps(value, separators=(",", ":"), sort_keys=True)` -/
def dumps : Json → String
  | null => "null"
  | bool value => if value then "true" else "false"
  | int value => toString value
  | str value => quoteAscii value
  | arr items => "[" ++ ",".intercalate (dumpsItems items) ++ "]"
  | obj entries =>
    "\x7b" ++
      ",".intercalate (((dumpsEntries entries).insertionSort fun a b => a.1 ≤ b.1).map fun entry =>
        quoteAscii entry.1 ++ ":" ++ entry.2) ++
      "\x7d"

def dumpsItems : List Json → List String
  | [] => []
  | item :: items => dumps item :: dumpsItems items

/-- The values of the entries, as texts. -/
def dumpsEntries : List (String × Json) → List (String × String)
  | [] => []
  | entry :: entries => dumpsEntry entry :: dumpsEntries entries

def dumpsEntry : String × Json → String × String
  | (key, value) => (key, dumps value)

end

/-! ### Printable values -/

def PrintableText (text : String) : Prop := ∀ c ∈ text.toList, 0x20 ≤ c.toNat ∧ c.toNat ≤ 0x7e

/-- All strings of a value are printable ASCII. -/
inductive Printable : Json → Prop
  | null : Printable null
  | bool (value) : Printable (bool value)
  | int (value) : Printable (int value)
  | str {value} : PrintableText value → Printable (str value)
  | arr {items} : (∀ item ∈ items, Printable item) → Printable (arr items)
  | obj {entries} : (∀ entry ∈ entries, PrintableText entry.1) →
      (∀ entry ∈ entries, Printable entry.2) → Printable (obj entries)

theorem escapeAscii_eq {c : Char} (h : 0x20 ≤ c.toNat ∧ c.toNat ≤ 0x7e) :
    escapeAscii c = escape c := by
  have hcontrol : ∀ control : Char, control.toNat < 0x20 → c ≠ control := by
    rintro control hlt rfl
    omega
  unfold escapeAscii escape
  split
  · rfl
  split
  · rfl
  rw [if_neg (hcontrol _ (by decide)), if_neg (hcontrol _ (by decide)),
    if_neg (hcontrol _ (by decide)), if_neg (hcontrol _ (by decide)),
    if_neg (hcontrol _ (by decide)), if_neg (hcontrol _ (by decide)),
    if_neg (hcontrol _ (by decide)), if_neg (hcontrol _ (by decide)),
    if_neg (hcontrol _ (by decide)), if_neg (hcontrol _ (by decide)), if_neg (by omega)]

theorem quoteAscii_eq {text : String} (h : PrintableText text) : quoteAscii text = quote text := by
  rw [quoteAscii, quote, List.map_congr_left fun c hc => escapeAscii_eq (h c hc)]

theorem dumpsItems_eq (items : List Json) : dumpsItems items = items.map dumps := by
  induction items with
  | nil => rfl
  | cons item items ih => rw [dumpsItems, ih, List.map_cons]

theorem dumpsEntries_eq (entries : List (String × Json)) :
    dumpsEntries entries = entries.map fun entry => (entry.1, entry.2.dumps) := by
  induction entries with
  | nil => rfl
  | cons entry entries ih => rw [dumpsEntries, dumpsEntry, ih, List.map_cons]

theorem canonicalItems_eq (items : List Json) : canonicalItems items = items.map canonical := by
  induction items with
  | nil => rfl
  | cons item items ih => rw [canonicalItems, ih, List.map_cons]

theorem canonicalEntries_eq (entries : List (String × Json)) :
    canonicalEntries entries = entries.map fun entry => (entry.1, entry.2.canonical) := by
  induction entries with
  | nil => rfl
  | cons entry entries ih => rw [canonicalEntries, canonicalEntry, ih, List.map_cons]

/-- The keys decide the order, whatever becomes of the values. -/
theorem insertionSort_map_snd {α β : Type} (g : α → β) (entries : List (String × α)) :
    (entries.map fun entry => (entry.1, g entry.2)).insertionSort (fun a b => a.1 ≤ b.1) =
      (entries.insertionSort fun a b => a.1 ≤ b.1).map fun entry => (entry.1, g entry.2) :=
  (List.map_insertionSort (fun a b : String × α => a.1 ≤ b.1) (fun a b => a.1 ≤ b.1)
    (fun entry => (entry.1, g entry.2)) entries fun _ _ _ _ => Iff.rfl).symm

/-- The two encoders agree on printable values. -/
theorem dumps_eq : ∀ {value : Json}, Printable value → value.dumps = value.canonical.compact
  | _, .null => rfl
  | _, .bool _ => rfl
  | _, .int _ => rfl
  | _, .str h => quoteAscii_eq h
  | .arr items, .arr h => by
    have hitems : items.map dumps = items.map fun item => item.canonical.compact :=
      List.map_congr_left fun item hitem => dumps_eq (h item hitem)
    rw [dumps, canonical, compact, dumpsItems_eq, compactItems_eq, canonicalItems_eq, List.map_map,
      hitems]
    rfl
  | .obj entries, .obj hkeys hvalues => by
    have hentries : ∀ entry ∈ entries, quoteAscii entry.1 ++ ":" ++ entry.2.dumps =
        compactEntry (entry.1, entry.2.canonical) := fun entry hentry => by
      rw [compactEntry, quoteAscii_eq (hkeys entry hentry), dumps_eq (hvalues entry hentry)]
    rw [dumps, canonical, compact, dumpsEntries_eq, compactEntries_eq, canonicalEntries_eq,
      insertionSort_map_snd, insertionSort_map_snd, List.map_map, List.map_map]
    have hsorted : ∀ entry ∈ entries.insertionSort fun a b => a.1 ≤ b.1, entry ∈ entries :=
      fun entry hentry => (List.mem_insertionSort _).mp hentry
    congr 3
    exact List.map_congr_left fun entry hentry => hentries entry (hsorted entry hentry)

end Json
