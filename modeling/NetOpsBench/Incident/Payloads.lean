import NetOpsBench.Data.Json

/-!
# The size of what an agent observes

A payload that is too large is compacted: members and items are dropped from the end, and texts are
cut. A float stands as the text that JSON has for it.

`compactJson` is the compaction, over `compactWithin`, which descends with what is left of the budget.
`jsonSize_obj` splits the size of an object into those of its members.
-/

namespace NetOpsBench.Incident

inductive Payload where
  | null
  | bool (value : Bool)
  | int (value : Int)
  | float (literal : String)
  | str (value : String)
  | arr (items : List Payload)
  | obj (entries : List (String × Payload))

namespace Payload

mutual

/-- `json.dumps(value, ensure_ascii=False, separators=(",", ":"), sort_keys=True)` -/
def dumps : Payload → String
  | null => "null"
  | bool value => if value then "true" else "false"
  | int value => toString value
  | float literal => literal
  | str value => Json.quote value
  | arr items => "[" ++ ",".intercalate (dumpsItems items) ++ "]"
  | obj entries =>
    "\x7b" ++
      ",".intercalate (((dumpsEntries entries).insertionSort fun a b => a.1 ≤ b.1).map fun entry =>
        Json.quote entry.1 ++ ":" ++ entry.2) ++
      "\x7d"

def dumpsItems : List Payload → List String
  | [] => []
  | item :: items => dumps item :: dumpsItems items

/-- The values of the entries, as texts. -/
def dumpsEntries : List (String × Payload) → List (String × String)
  | [] => []
  | entry :: entries => dumpsEntry entry :: dumpsEntries entries

def dumpsEntry : String × Payload → String × String
  | (key, value) => (key, dumps value)

end

def jsonSize (value : Payload) : ℕ := value.dumps.utf8ByteSize

/-! ## Sizes -/

theorem utf8ByteSize_intercalate {texts : List String} (h : texts ≠ []) :
    (",".intercalate texts).utf8ByteSize + 1 =
      (texts.map String.utf8ByteSize).sum + texts.length := by
  induction texts with
  | nil => contradiction
  | cons text texts ih =>
    cases texts with
    | nil => simp
    | cons next texts =>
      have hrest := ih nofun
      rw [String.intercalate_cons_cons, String.utf8ByteSize_append, String.utf8ByteSize_append]
      rw [List.map_cons, List.sum_cons, List.length_cons]
      have hcomma : ",".utf8ByteSize = 1 := by decide
      omega

def entrySize (entry : String × Payload) : ℕ :=
  (Json.quote entry.1).utf8ByteSize + 1 + entry.2.jsonSize

theorem dumpsEntries_eq (entries : List (String × Payload)) :
    dumpsEntries entries = entries.map fun entry => (entry.1, entry.2.dumps) := by
  induction entries with
  | nil => rfl
  | cons entry entries ih =>
    obtain ⟨key, value⟩ := entry
    rw [dumpsEntries, ih, dumpsEntry, List.map_cons]

/-- The size of an object is that of its members, in any order. -/
theorem jsonSize_obj {entries : List (String × Payload)} (h : entries ≠ []) :
    (obj entries).jsonSize = (entries.map entrySize).sum + entries.length + 1 := by
  unfold jsonSize
  rw [dumps, String.utf8ByteSize_append, String.utf8ByteSize_append, dumpsEntries_eq]
  have hperm := List.perm_insertionSort (fun (a b : String × String) => a.1 ≤ b.1)
    (entries.map fun entry => (entry.1, entry.2.dumps))
  generalize List.insertionSort (fun (a b : String × String) => a.1 ≤ b.1)
    (entries.map fun entry => (entry.1, entry.2.dumps)) = sorted at hperm ⊢
  have hsorted : sorted ≠ [] := by
    rintro rfl
    exact h (List.map_eq_nil_iff.mp hperm.nil_eq.symm)
  have hne : sorted.map (fun entry => Json.quote entry.1 ++ ":" ++ entry.2) ≠ [] := fun hmap =>
    hsorted (List.map_eq_nil_iff.mp hmap)
  have hsize := utf8ByteSize_intercalate hne
  have hsum : ((sorted.map fun entry => Json.quote entry.1 ++ ":" ++ entry.2).map
      String.utf8ByteSize).sum = (entries.map entrySize).sum := by
    rw [List.map_map, (hperm.map _).sum_eq, List.map_map]
    refine congrArg List.sum (List.map_congr_left fun entry _ => ?_)
    simp only [Function.comp_apply, String.utf8ByteSize_append]
    rfl
  rw [hsum, List.length_map, hperm.length_eq, List.length_map] at hsize
  have hbraces : "\x7b".utf8ByteSize = 1 ∧ "\x7d".utf8ByteSize = 1 := by decide
  omega

/-- The size of an object is that of its members with commas and braces. -/
theorem jsonSize_obj_cons (entry : String × Payload) (entries : List (String × Payload)) :
    (obj (entry :: entries)).jsonSize =
      entrySize entry + (entries.map entrySize).sum + entries.length + 2 := by
  rw [jsonSize_obj (List.cons_ne_nil entry entries), List.map_cons, List.sum_cons, List.length_cons]
  rfl

theorem jsonSize_obj_nil : (obj []).jsonSize = 2 := by decide +kernel

/-! ## Compaction -/

/-- `entries[key] = value` -/
def assign (entries : List (String × Payload)) (key : String) (value : Payload) :
    List (String × Payload) :=
  if key ∈ entries.map (·.1) then
    entries.map fun entry => if entry.1 = key then (key, value) else entry
  else
    entries ++ [(key, value)]

def marker (originalBytes : ℕ) : List (String × Payload) :=
  [("truncated", .bool true), ("original_bytes", .int originalBytes)]

/-- What stands in the place of some members or items. -/
def omission (originalBytes omittedItems : ℕ) : Payload :=
  .obj (marker originalBytes ++ [("omitted_items", .int omittedItems)])

/-- What is left to a child by the bytes of its elder siblings. -/
def remaining (budget used : ℕ) : ℕ := max 128 (budget - used - 256)

/-- The first characters of a text that fit into some bytes. -/
def takeBytes : ℕ → List Char → List Char
  | _, [] => []
  | bytes, c :: text =>
    if c.utf8Size ≤ bytes then c :: takeBytes (bytes - c.utf8Size) text else []

/-- The loop over the members of an object, of which some are in the output. A child is given as
what it is compacted to within a budget. -/
def compactMembers (originalBytes budget : ℕ) :
    List (String × (ℕ → Payload)) → List (String × Payload) → List (String × Payload)
  | [], output => output
  | (key, child) :: rest, output =>
    let extended := assign output key (child (remaining budget (obj output).jsonSize))
    let candidate := assign extended "_truncation" (omission originalBytes rest.length)
    if (obj candidate).jsonSize > budget then output
    else compactMembers originalBytes budget rest extended

/-- The loop over the items of a list, of which some are in the output. -/
def compactItems (originalBytes budget : ℕ) : List (ℕ → Payload) → List Payload → List Payload
  | [], output => output
  | child :: rest, output =>
    let extended := output ++ [child (remaining budget (arr output).jsonSize)]
    let candidate := extended ++ [.obj [("_truncation", omission originalBytes rest.length)]]
    if (arr candidate).jsonSize > budget then output
    else compactItems originalBytes budget rest extended

mutual

/-- `_compact` -/
def compactWithin (originalBytes : ℕ) : Payload → ℕ → Payload
  | obj entries, budget =>
    let members := (compactEntries originalBytes entries).insertionSort fun a b => a.1 ≤ b.1
    let output := compactMembers originalBytes budget members []
    obj (assign output "_truncation" (omission originalBytes (members.length - output.length)))
  | arr items, budget =>
    let children := compactList originalBytes items
    let output := compactItems originalBytes budget children []
    arr (output ++
      [.obj [("_truncation", omission originalBytes (children.length - output.length))]])
  | str value, budget =>
    obj [("_truncated_text", str (.ofList (takeBytes (budget - 160) value.toList))),
      ("original_chars", int value.length)]
  | other, _ => other

def compactEntries (originalBytes : ℕ) :
    List (String × Payload) → List (String × (ℕ → Payload))
  | [] => []
  | entry :: entries => compactEntry originalBytes entry :: compactEntries originalBytes entries

def compactEntry (originalBytes : ℕ) : String × Payload → String × (ℕ → Payload)
  | (key, value) => (key, compactWithin originalBytes value)

def compactList (originalBytes : ℕ) : List Payload → List (ℕ → Payload)
  | [] => []
  | item :: items => compactWithin originalBytes item :: compactList originalBytes items

end

def compactJson (value : Payload) (maxBytes : ℕ) : Payload :=
  let originalBytes := value.jsonSize
  if originalBytes ≤ maxBytes then value
  else
    let compacted := compactWithin originalBytes value maxBytes
    if compacted.jsonSize ≤ maxBytes then compacted
    else obj [("_truncation", obj (marker originalBytes))]

theorem compactEntries_eq (original : ℕ) (entries : List (String × Payload)) :
    compactEntries original entries =
      entries.map fun entry => (entry.1, entry.2.compactWithin original) := by
  induction entries with
  | nil => rfl
  | cons entry entries ih =>
    obtain ⟨key, value⟩ := entry
    rw [compactEntries, ih, compactEntry, List.map_cons]

end Payload

end NetOpsBench.Incident
