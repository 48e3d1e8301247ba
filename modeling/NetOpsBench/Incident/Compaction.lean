import NetOpsBench.Incident.Payloads

/-!
# What compaction keeps

A compacted payload fits into its budget. Each of its objects and lists keeps a prefix of what was
there, and says how much it leaves out.

`compactJson_accounts` says so of every payload and budget, for the whole and, by the relation `Compacted`,
for every object and list in it. The sizes of the markers are computed exactly (`jsonSize_marker`,
`jsonSize_omission`), from which `jsonSize_compactWithin_le` bounds what a nested payload takes.
-/

namespace NetOpsBench.Incident

namespace Payload

/-! ## Nodes -/

/-- The payloads within a payload. -/
inductive Node : Payload → Payload → Prop where
  | self (value : Payload) : Node value value
  | item {items : List Payload} {item node : Payload} :
    item ∈ items → Node item node → Node (arr items) node
  | member {entries : List (String × Payload)} {entry : String × Payload} {node : Payload} :
    entry ∈ entries → Node entry.2 node → Node (obj entries) node

/-- Objects and lists, which are compacted member by member. -/
inductive Container : Payload → Prop where
  | arr (items : List Payload) : Container (arr items)
  | obj (entries : List (String × Payload)) : Container (obj entries)

/-- No object has two members of one name. -/
def DistinctKeys (value : Payload) : Prop :=
  ∀ entries, Node value (obj entries) → (entries.map (·.1)).Nodup

/-- No object has a member with the name of the marker. -/
def Unmarked (value : Payload) : Prop :=
  ∀ entries, Node value (obj entries) → "_truncation" ∉ entries.map (·.1)

/-- The members of an object in the order of their names. -/
def sortedEntries (entries : List (String × Payload)) : List (String × Payload) :=
  entries.insertionSort fun a b => a.1 ≤ b.1

/-- What a payload is compacted to: of an object or a list the first members or items, each
compacted, and how many are left out. -/
inductive Compacted (originalBytes : ℕ) : Payload → Payload → Prop where
  | null : Compacted originalBytes null null
  | bool (value : Bool) : Compacted originalBytes (bool value) (bool value)
  | int (value : Int) : Compacted originalBytes (int value) (int value)
  | float (literal : String) : Compacted originalBytes (float literal) (float literal)
  | str {value : String} {kept : List Char} : kept <+: value.toList →
    Compacted originalBytes (str value)
      (obj [("_truncated_text", str (.ofList kept)), ("original_chars", int value.length)])
  | arr {items kept outputs : List Payload} {omitted : ℕ} : kept <+: items →
    List.Forall₂ (Compacted originalBytes) kept outputs →
    outputs.length + omitted = items.length →
    Compacted originalBytes (arr items)
      (arr (outputs ++ [obj [("_truncation", omission originalBytes omitted)]]))
  | obj {entries kept outputs : List (String × Payload)} {omitted : ℕ} :
    kept <+: sortedEntries entries → outputs.map (·.1) = kept.map (·.1) →
    List.Forall₂ (Compacted originalBytes) (kept.map (·.2)) (outputs.map (·.2)) →
    outputs.length + omitted = entries.length →
    Compacted originalBytes (obj entries)
      (obj (outputs ++ [("_truncation", omission originalBytes omitted)]))

/-- The payloads within a payload have distinct keys too. -/
theorem DistinctKeys.node {value node : Payload} (h : value.DistinctKeys)
    (hnode : ∀ inner, Node node inner → Node value inner) : node.DistinctKeys :=
  fun entries hentries => h entries (hnode _ hentries)

theorem Unmarked.node {value node : Payload} (h : value.Unmarked)
    (hnode : ∀ inner, Node node inner → Node value inner) : node.Unmarked :=
  fun entries hentries => h entries (hnode _ hentries)

/-! ## The loops -/

theorem assign_of_not_mem {entries : List (String × Payload)} {key : String}
    (h : key ∉ entries.map (·.1)) (value : Payload) :
    assign entries key value = entries ++ [(key, value)] := if_neg h

section
variable (originalBytes budget : ℕ)

/-- The output with its marker, when some members are still to come. -/
def markedMembers (output : List (String × Payload)) (rest : ℕ) : Payload :=
  obj (assign output "_truncation" (omission originalBytes rest))

/-- The loop keeps the first members, and stops before the marked output is too large. -/
theorem compactMembers_spec (members : List (String × (ℕ → Payload)))
    (output : List (String × Payload)) (hkeys : (output.map (·.1) ++ members.map (·.1)).Nodup) :
    ∃ kept rest added, members = kept ++ rest ∧
      compactMembers originalBytes budget members output = output ++ added ∧
      List.Forall₂ (fun member entry => entry.1 = member.1 ∧ ∃ room, entry.2 = member.2 room)
        kept added ∧
      (added = [] ∨
        (markedMembers originalBytes (output ++ added) rest.length).jsonSize ≤ budget) := by
  induction members generalizing output with
  | nil => exact ⟨[], [], [], rfl, (List.append_nil output).symm, .nil, .inl rfl⟩
  | cons member rest ih =>
    obtain ⟨key, child⟩ := member
    have hfresh : key ∉ output.map (·.1) := fun hmem =>
      (List.nodup_append.mp hkeys).2.2 key hmem key List.mem_cons_self rfl
    rw [compactMembers, assign_of_not_mem hfresh]
    generalize remaining budget (obj output).jsonSize = room
    split
    · exact ⟨[], (key, child) :: rest, [], rfl, (List.append_nil output).symm, .nil, .inl rfl⟩
    · rename_i hsize
      have hkeys' : ((output ++ [(key, child room)]).map (·.1) ++ rest.map (·.1)).Nodup := by
        rwa [List.map_append, List.append_assoc]
      obtain ⟨kept, left, added, rfl, hloop, hadded, hmarked⟩ :=
        ih (output ++ [(key, child room)]) hkeys'
      refine ⟨(key, child) :: kept, left, (key, child room) :: added, rfl, ?_,
        .cons ⟨rfl, room, rfl⟩ hadded, .inr ?_⟩
      · rw [hloop, List.append_assoc]
        rfl
      · rcases hmarked with rfl | hmarked
        · cases hadded
          exact Nat.not_lt.mp hsize
        · rwa [List.append_assoc] at hmarked

/-- The list with its marker, when some items are still to come. -/
def markedItems (output : List Payload) (rest : ℕ) : Payload :=
  arr (output ++ [obj [("_truncation", omission originalBytes rest)]])

/-- The loop keeps the first items, each compacted within some room. -/
theorem compactItems_spec (children : List (ℕ → Payload)) (output : List Payload) :
    ∃ kept rest added, children = kept ++ rest ∧
      compactItems originalBytes budget children output = output ++ added ∧
      List.Forall₂ (fun child item => ∃ room, item = child room) kept added ∧
      (added = [] ∨
        (markedItems originalBytes (output ++ added) rest.length).jsonSize ≤ budget) := by
  induction children generalizing output with
  | nil => exact ⟨[], [], [], rfl, (List.append_nil output).symm, .nil, .inl rfl⟩
  | cons child rest ih =>
    rw [compactItems]
    generalize remaining budget (arr output).jsonSize = room
    split
    · exact ⟨[], child :: rest, [], rfl, (List.append_nil output).symm, .nil, .inl rfl⟩
    · rename_i hsize
      obtain ⟨kept, left, added, rfl, hloop, hadded, hmarked⟩ := ih (output ++ [child room])
      refine ⟨child :: kept, left, child room :: added, rfl, ?_, .cons ⟨room, rfl⟩ hadded, .inr ?_⟩
      · rw [hloop, List.append_assoc]
        rfl
      · rcases hmarked with rfl | hmarked
        · cases hadded
          exact Nat.not_lt.mp hsize
        · rwa [List.append_assoc] at hmarked

end

/-! ## What is left of a node -/

section
variable {originalBytes : ℕ}

theorem compactList_eq (items : List Payload) :
    compactList originalBytes items = items.map (compactWithin originalBytes) := by
  induction items with
  | nil => rfl
  | cons item items ih => rw [compactList, ih, List.map_cons]

/-- The members of an object, each with what it is compacted to within a budget. -/
def compactible (originalBytes : ℕ) (entries : List (String × Payload)) :
    List (String × (ℕ → Payload)) :=
  (sortedEntries entries).map fun entry => (entry.1, compactWithin originalBytes entry.2)

/-- The members are compacted in the order of their names. -/
theorem insertionSort_compactEntries (entries : List (String × Payload)) :
    ((compactEntries originalBytes entries).insertionSort fun a b => a.1 ≤ b.1) =
      compactible originalBytes entries := by
  rw [compactEntries_eq, compactible, sortedEntries,
    List.map_insertionSort _ (fun a b : String × (ℕ → Payload) => a.1 ≤ b.1)]
  exact fun _ _ _ _ => Iff.rfl

theorem keys_compactible (entries : List (String × Payload)) :
    ((compactible originalBytes entries).map (·.1)).Perm (entries.map (·.1)) := by
  rw [compactible, List.map_map]
  exact (List.perm_insertionSort _ entries).map _

theorem takeBytes_isPrefix (bytes : ℕ) (text : List Char) : takeBytes bytes text <+: text := by
  induction text generalizing bytes with
  | nil => exact List.nil_prefix
  | cons c text ih =>
    rw [takeBytes]
    split
    · exact List.cons_prefix_cons.mpr ⟨rfl, ih _⟩
    · exact List.nil_prefix

theorem map_fst_eq {kept added : List (String × Payload)} {r : Payload → Payload → Prop}
    (h : List.Forall₂ (fun entry out => out.1 = entry.1 ∧ r entry.2 out.2) kept added) :
    added.map (·.1) = kept.map (·.1) ∧ List.Forall₂ r (kept.map (·.2)) (added.map (·.2)) := by
  induction h with
  | nil => exact ⟨rfl, .nil⟩
  | cons hentry _ ih =>
    rw [List.map_cons, List.map_cons, List.map_cons, List.map_cons, hentry.1, ih.1]
    exact ⟨rfl, .cons hentry.2 ih.2⟩

/-- What an object is compacted to, with the size that the loop has checked. -/
theorem compactWithin_obj {entries : List (String × Payload)} (budget : ℕ)
    (hdistinct : (entries.map (·.1)).Nodup) :
    ∃ kept outputs omitted, compactWithin originalBytes (obj entries) budget =
        markedMembers originalBytes outputs omitted ∧
      kept <+: sortedEntries entries ∧
      List.Forall₂ (fun entry out =>
        out.1 = entry.1 ∧ ∃ room, out.2 = compactWithin originalBytes entry.2 room) kept outputs ∧
      outputs.length + omitted = entries.length ∧
      (outputs = [] ∨ (markedMembers originalBytes outputs omitted).jsonSize ≤ budget) := by
  have hperm := @keys_compactible originalBytes entries
  obtain ⟨kept, rest, added, hsplit, hloop, hadded, hsize⟩ :=
    compactMembers_spec originalBytes budget (compactible originalBytes entries) []
      (hperm.nodup_iff.mpr hdistinct)
  rw [List.nil_append] at hloop hsize
  obtain ⟨keptEntries, restEntries, hentries, rfl, rfl⟩ := List.map_eq_append_iff.mp hsplit
  rw [List.forall₂_map_left_iff] at hadded
  have hlength : (keptEntries ++ restEntries).length = entries.length := by
    rw [← hentries]
    exact List.length_insertionSort ..
  have hcount := hadded.length_eq
  rw [List.length_append] at hlength
  refine ⟨keptEntries, added, restEntries.length, ?_, ⟨restEntries, hentries.symm⟩, hadded,
    by omega, by rwa [List.length_map] at hsize⟩
  rw [compactWithin, insertionSort_compactEntries, hloop, hsplit]
  unfold markedMembers
  simp only [List.length_append, List.length_map]
  rw [hcount, Nat.add_sub_cancel_left]

/-- A list is compacted to its first items and a marker, unless all of them are kept. -/
theorem compactWithin_arr (items : List Payload) (budget : ℕ) :
    ∃ kept outputs omitted, compactWithin originalBytes (arr items) budget =
        markedItems originalBytes outputs omitted ∧
      kept <+: items ∧
      List.Forall₂ (fun item out => ∃ room, out = compactWithin originalBytes item room)
        kept outputs ∧
      outputs.length + omitted = items.length ∧
      (outputs = [] ∨ (markedItems originalBytes outputs omitted).jsonSize ≤ budget) := by
  obtain ⟨kept, rest, added, hsplit, hloop, hadded, hsize⟩ :=
    compactItems_spec originalBytes budget (items.map (compactWithin originalBytes)) []
  rw [List.nil_append] at hloop hsize
  obtain ⟨keptItems, restItems, rfl, rfl, rfl⟩ := List.map_eq_append_iff.mp hsplit
  rw [List.forall₂_map_left_iff] at hadded
  have hcount := hadded.length_eq
  refine ⟨keptItems, added, restItems.length, ?_, List.prefix_append .., hadded, ?_,
    by rwa [List.length_map] at hsize⟩
  · rw [compactWithin, compactList_eq, hloop]
    unfold markedItems
    simp only [List.length_map, List.length_append]
    rw [hcount, Nat.add_sub_cancel_left]
  · rw [List.length_append, hcount]

theorem compacted_compactWithin (value : Payload) (budget : ℕ) (hdistinct : value.DistinctKeys)
    (hunmarked : value.Unmarked) :
    Compacted originalBytes value (compactWithin originalBytes value budget) :=
  match value with
  | null => .null
  | bool value => .bool value
  | int value => .int value
  | float literal => .float literal
  | str value => .str (takeBytes_isPrefix ..)
  | arr items => by
    have hitems : ∀ item ∈ items, ∀ room,
        Compacted originalBytes item (compactWithin originalBytes item room) := fun item hmem room =>
      compacted_compactWithin item room (hdistinct.node fun _ => .item hmem)
        (hunmarked.node fun _ => .item hmem)
    obtain ⟨kept, outputs, omitted, heq, hkept, houtputs, hcount, -⟩ :=
      @compactWithin_arr originalBytes items budget
    rw [heq]
    refine .arr hkept ?_ hcount
    refine (List.forall₂_and_left _ _).mpr ⟨fun _ h => h, houtputs⟩ |>.imp ?_
    rintro item out ⟨hitem, room, rfl⟩
    exact hitems item (hkept.subset hitem) room
  | obj entries => by
    have hmembers : ∀ entry ∈ entries, ∀ room,
        Compacted originalBytes entry.2 (compactWithin originalBytes entry.2 room) :=
      fun entry hmem room =>
        have : sizeOf entry.2 < sizeOf entries := by
          have := List.sizeOf_lt_of_mem hmem
          cases entry
          simp only [Prod.mk.sizeOf_spec] at this ⊢
          omega
        compacted_compactWithin entry.2 room (hdistinct.node fun _ => .member hmem)
          (hunmarked.node fun _ => .member hmem)
    obtain ⟨kept, outputs, omitted, heq, hkept, houtputs, hcount, -⟩ :=
      @compactWithin_obj originalBytes _ budget (hdistinct entries (.self _))
    have hmem {entry} (hentry : entry ∈ kept) : entry ∈ entries :=
      (List.perm_insertionSort _ entries).subset (hkept.subset hentry)
    have hcompacted : List.Forall₂ (fun entry out =>
        out.1 = entry.1 ∧ Compacted originalBytes entry.2 out.2) kept outputs := by
      refine (List.forall₂_and_left _ _).mpr ⟨fun _ h => h, houtputs⟩ |>.imp ?_
      rintro entry out ⟨hentry, hkey, room, hout⟩
      rw [hout]
      exact ⟨hkey, hmembers entry (hmem hentry) room⟩
    obtain ⟨hkeys, hvalues⟩ := map_fst_eq hcompacted
    have hfresh : "_truncation" ∉ outputs.map (·.1) := fun hmarker => by
      rw [hkeys] at hmarker
      obtain ⟨entry, hentry, hkey⟩ := List.mem_map.mp hmarker
      exact hunmarked entries (.self _) (List.mem_map.mpr ⟨entry, hmem hentry, hkey⟩)
    rw [heq, markedMembers, assign_of_not_mem hfresh]
    exact .obj hkept hkeys hvalues hcount
termination_by sizeOf value

end

/-! ## Sizes of markers -/

theorem utf8ByteSize_ofList_of_isDigit {text : List Char} (h : ∀ c ∈ text, c.isDigit) :
    (String.ofList text).utf8ByteSize = text.length := by
  induction text with
  | nil => rfl
  | cons c text ih =>
    obtain ⟨hc, htext⟩ := List.forall_mem_cons.mp h
    have hsplit : String.ofList (c :: text) = .singleton c ++ .ofList text := by simp
    have hsingleton : (String.singleton c).utf8ByteSize = c.utf8Size := by simp
    have hone : c.utf8Size = 1 := by
      simp only [Char.isDigit, Bool.and_eq_true, decide_eq_true_eq] at hc
      exact Char.utf8Size_eq_one_iff.mpr (UInt32.le_trans hc.2 (by decide))
    rw [hsplit, String.utf8ByteSize_append, ih htext, List.length_cons]
    omega

theorem jsonSize_natCast (count : ℕ) : (int count).jsonSize = (Nat.toDigits 10 count).length := by
  have htext : (int count).dumps = String.ofList (Nat.toDigits 10 count) := by
    rw [dumps, ← Nat.repr_eq_ofList_toDigits]
    rfl
  rw [jsonSize, htext]
  exact utf8ByteSize_ofList_of_isDigit fun c hc =>
    Nat.isDigit_of_mem_toDigits (by decide) (by decide) hc

/-- A count that fits into 63 bits has at most 19 digits. -/
theorem jsonSize_int_le {count : ℕ} (h : count < 2 ^ 63) : (int count).jsonSize ≤ 19 := by
  rw [jsonSize_natCast]
  exact (Nat.length_toDigits_le_iff (by decide) (by decide)).mpr (by omega)

theorem jsonSize_marker (original : ℕ) (rest : List (String × Payload)) :
    (obj (marker original ++ rest)).jsonSize =
      (rest.map entrySize).sum + rest.length + (int original).jsonSize + 36 := by
  have hkeys : (Json.quote "truncated").utf8ByteSize = 11 ∧
      (Json.quote "original_bytes").utf8ByteSize = 16 ∧ (bool true).jsonSize = 4 := by decide +kernel
  rw [marker, List.cons_append, jsonSize_obj_cons]
  simp only [List.map_append, List.map_cons, List.sum_append, List.sum_cons, List.length_append,
    List.map_nil, List.sum_nil, List.length_cons, List.length_nil, entrySize]
  omega

/-- The size of what stands for omitted members or items. -/
theorem jsonSize_omission (original omitted : ℕ) :
    (omission original omitted).jsonSize =
      (int original).jsonSize + (int omitted).jsonSize + 53 := by
  have hkey : (Json.quote "omitted_items").utf8ByteSize = 15 := by decide +kernel
  rw [omission, jsonSize_marker]
  simp only [List.map_cons, List.map_nil, List.sum_cons, List.sum_nil, List.length_cons,
    List.length_nil, entrySize]
  omega

theorem jsonSize_truncation (value : Payload) :
    (obj [("_truncation", value)]).jsonSize = value.jsonSize + 16 := by
  have hkey : (Json.quote "_truncation").utf8ByteSize = 13 := by decide +kernel
  rw [jsonSize_obj_cons]
  simp only [List.map_nil, List.sum_nil, List.length_nil, entrySize]
  omega

theorem jsonSize_arr_singleton (item : Payload) : (arr [item]).jsonSize = item.jsonSize + 2 := by
  have hbrackets : "[".utf8ByteSize = 1 ∧ "]".utf8ByteSize = 1 := by decide
  unfold jsonSize
  rw [dumps, dumpsItems, dumpsItems, String.intercalate_singleton, String.utf8ByteSize_append,
    String.utf8ByteSize_append]
  omega

theorem length_le_jsonSize_obj (entries : List (String × Payload)) :
    entries.length ≤ (obj entries).jsonSize := by
  cases entries with
  | nil => exact Nat.zero_le _
  | cons entry entries =>
    rw [jsonSize_obj_cons, List.length_cons]
    omega

theorem length_dumpsItems (items : List Payload) : (dumpsItems items).length = items.length := by
  induction items with
  | nil => rfl
  | cons item items ih => rw [dumpsItems, List.length_cons, List.length_cons, ih]

theorem length_le_jsonSize_arr (items : List Payload) : items.length ≤ (arr items).jsonSize := by
  cases items with
  | nil => exact Nat.zero_le _
  | cons item items =>
    have hsize := @utf8ByteSize_intercalate (dumpsItems (item :: items)) nofun
    have hbrackets : "[".utf8ByteSize = 1 := by decide
    rw [length_dumpsItems] at hsize
    unfold jsonSize
    rw [dumps, String.utf8ByteSize_append, String.utf8ByteSize_append]
    omega

/-! ## The bound -/

/-- An object or a list fits when it is compacted: the loop has checked the size, or it has kept
nothing. -/
theorem jsonSize_compactWithin_le {value : Payload} {original budget : ℕ} (hbudget : 128 ≤ budget)
    (horiginal : original < 2 ^ 63) (hsize : value.jsonSize < 2 ^ 63) (hdistinct : value.DistinctKeys)
    (hcontainer : value.Container) :
    (compactWithin original value budget).jsonSize ≤ budget := by
  have hlone (omitted : ℕ) (homitted : omitted ≤ value.jsonSize) :
      (obj [("_truncation", omission original omitted)]).jsonSize ≤ 107 := by
    have hcount := jsonSize_int_le (homitted.trans_lt hsize)
    have horiginalCount := jsonSize_int_le horiginal
    rw [jsonSize_truncation, jsonSize_omission]
    omega
  cases hcontainer with
  | arr items =>
    obtain ⟨kept, outputs, omitted, heq, -, -, hcount, rfl | hchecked⟩ :=
      @compactWithin_arr original items budget
    · have hfits := hlone omitted
        (by have := length_le_jsonSize_arr items; simp only [List.length_nil] at hcount; omega)
      rw [heq, markedItems, List.nil_append, jsonSize_arr_singleton]
      omega
    · rwa [heq]
  | obj entries =>
    obtain ⟨kept, outputs, omitted, heq, -, -, hcount, rfl | hchecked⟩ :=
      @compactWithin_obj original _ budget (hdistinct entries (.self _))
    · have hfits := hlone omitted
        (by have := length_le_jsonSize_obj entries; simp only [List.length_nil] at hcount; omega)
      rw [heq, markedMembers, assign_of_not_mem List.not_mem_nil, List.nil_append]
      omega
    · rwa [heq]

/-- What compaction promises: the result fits, a payload that fits is left alone, and otherwise
each object and list says how much it leaves out. The size is the length of a byte string, and thus
less than `2 ^ 63`. -/
theorem compactJson_accounts (value : Payload) (maxBytes : ℕ) (hmax : 1024 ≤ maxBytes)
    (hsize : value.jsonSize < 2 ^ 63) (hdistinct : value.DistinctKeys) :
    (compactJson value maxBytes).jsonSize ≤ maxBytes ∧
      (value.jsonSize ≤ maxBytes → compactJson value maxBytes = value) ∧
      (maxBytes < value.jsonSize → value.Unmarked →
        Compacted value.jsonSize value (compactJson value maxBytes) ∨
          ¬ value.Container ∧
            compactJson value maxBytes = obj [("_truncation", obj (marker value.jsonSize))]) := by
  unfold compactJson
  by_cases hfits : value.jsonSize ≤ maxBytes
  · rw [if_pos hfits]
    exact ⟨hfits, fun _ => rfl, fun hlarge => absurd hfits hlarge.not_ge⟩
  rw [if_neg hfits]
  by_cases hcompact : (compactWithin value.jsonSize value maxBytes).jsonSize ≤ maxBytes
  · rw [if_pos hcompact]
    exact ⟨hcompact, fun h => absurd h hfits,
      fun _ hunmarked => .inl (compacted_compactWithin value maxBytes hdistinct hunmarked)⟩
  · rw [if_neg hcompact]
    refine ⟨?_, fun h => absurd h hfits, fun _ _ => .inr ⟨?_, rfl⟩⟩
    · have hmarker := jsonSize_marker value.jsonSize []
      rw [List.append_nil, List.map_nil, List.sum_nil, List.length_nil] at hmarker
      have hcount := jsonSize_int_le hsize
      rw [jsonSize_truncation, hmarker]
      omega
    · exact fun hcontainer => hcompact
        (jsonSize_compactWithin_le (by omega) hsize hsize hdistinct hcontainer)

/-- The log of a device, with a few lines too many. -/
def deviceLog : Payload :=
  obj [("device", str "leaf1"), ("lines", arr (List.replicate 90 (str "link down")))]

theorem keys_deviceLog {entries : List (String × Payload)} (h : Node deviceLog (obj entries)) :
    entries.map (·.1) = ["device", "lines"] := by
  cases h with
  | self => rfl
  | member hmem hnode =>
    rcases List.mem_pair.mp hmem with rfl | rfl
    · cases hnode
    · cases hnode with
      | item hmem hnode =>
        cases List.eq_of_mem_replicate hmem
        cases hnode

/-- A log that is over its budget is compacted, and fits. -/
theorem deviceLog_accounts : deviceLog.jsonSize = 1108 ∧
    (compactJson deviceLog 1024).jsonSize ≤ 1024 ∧
    Compacted 1108 deviceLog (compactJson deviceLog 1024) := by
  have hsize : deviceLog.jsonSize = 1108 := by decide +kernel
  have hdistinct : deviceLog.DistinctKeys := fun _ hnode => by
    rw [keys_deviceLog hnode]
    decide
  have hunmarked : deviceLog.Unmarked := fun _ hnode => by
    rw [keys_deviceLog hnode]
    decide
  obtain ⟨hfits, -, hkept⟩ := compactJson_accounts deviceLog 1024 (by decide)
    (by rw [hsize]; decide) hdistinct
  rw [hsize] at hkept
  exact ⟨hsize, hfits, (hkept (by decide) hunmarked).resolve_right fun h => h.1 (.obj _)⟩

end Payload

end NetOpsBench.Incident
