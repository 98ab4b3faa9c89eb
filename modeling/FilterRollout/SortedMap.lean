/-! Maps from texts to values, kept in ascending order of the keys. Order and uniqueness of the keys belong to the
type, so that two maps with the same bindings are the same map. Keys compare by code point. -/

namespace FilterRollout

universe u v

/-- Bindings in strictly ascending order of their keys. -/
structure SortedMap (Value : Type u) where
  entries : List (String × Value)
  sorted : entries.Pairwise fun a b => a.1 < b.1
  deriving DecidableEq

namespace SortedMap

variable {Value : Type u}

/-- Bind `key` at its place in an ordered list, replacing the value it had. -/
def insertEntry (key : String) (value : Value) : List (String × Value) → List (String × Value)
  | [] => [(key, value)]
  | entry :: rest =>
    if key < entry.1 then (key, value) :: entry :: rest
    else if key = entry.1 then (key, value) :: rest
    else entry :: insertEntry key value rest

/-- The value of the first binding of `key`. -/
def lookupEntry (key : String) : List (String × Value) → Option Value
  | [] => none
  | entry :: rest => if entry.1 = key then some entry.2 else lookupEntry key rest

theorem mem_insertEntry {key : String} {value : Value} {entries : List (String × Value)} {entry : String × Value}
    (member : entry ∈ insertEntry key value entries) : entry = (key, value) ∨ entry ∈ entries := by
  induction entries with
  | nil => simpa [insertEntry] using member
  | cons head rest ih =>
    unfold insertEntry at member
    split at member
    · simpa using member
    · split at member
      · rcases List.mem_cons.mp member with same | later
        · exact .inl same
        · exact .inr (List.mem_cons_of_mem _ later)
      · rcases List.mem_cons.mp member with same | later
        · exact .inr (by simp [same])
        · exact (ih later).imp id (List.mem_cons_of_mem _)

private theorem lt_of_not_lt_of_ne {a b : String} (notBelow : ¬ a < b) (different : a ≠ b) : b < a :=
  Classical.byContradiction fun notAbove =>
    different (String.le_antisymm (String.not_lt.mp notAbove) (String.not_lt.mp notBelow))

theorem sorted_insertEntry (key : String) (value : Value) {entries : List (String × Value)}
    (sorted : entries.Pairwise fun a b => a.1 < b.1) :
    (insertEntry key value entries).Pairwise fun a b => a.1 < b.1 := by
  induction entries with
  | nil => simp [insertEntry]
  | cons head rest ih =>
    rcases List.pairwise_cons.mp sorted with ⟨below, ordered⟩
    unfold insertEntry
    split
    · rename_i first
      refine List.pairwise_cons.mpr ⟨fun entry member => ?_, sorted⟩
      rcases List.mem_cons.mp member with rfl | later
      · exact first
      · exact String.lt_trans first (below entry later)
    · split
      · rename_i same
        exact List.pairwise_cons.mpr ⟨fun entry member => same ▸ below entry member, ordered⟩
      · rename_i notFirst different
        refine List.pairwise_cons.mpr ⟨fun entry member => ?_, ih ordered⟩
        rcases mem_insertEntry member with rfl | later
        · exact lt_of_not_lt_of_ne notFirst different
        · exact below entry later

/-- The map without bindings. -/
def empty : SortedMap Value := ⟨[], .nil⟩

instance : EmptyCollection (SortedMap Value) := ⟨empty⟩

instance : Inhabited (SortedMap Value) := ⟨empty⟩

/-- Bind `key` to `value`, in place of any value it had. -/
def insert (map : SortedMap Value) (key : String) (value : Value) : SortedMap Value :=
  ⟨insertEntry key value map.entries, sorted_insertEntry key value map.sorted⟩

/-- Remove the binding of `key`, if there is one. -/
def erase (map : SortedMap Value) (key : String) : SortedMap Value :=
  ⟨map.entries.filter (·.1 ≠ key), map.sorted.filter _⟩

def get? (map : SortedMap Value) (key : String) : Option Value := lookupEntry key map.entries

def contains (map : SortedMap Value) (key : String) : Bool := (map.get? key).isSome

def isEmpty (map : SortedMap Value) : Bool := map.entries.isEmpty

/-- The bound keys in ascending order. -/
def keys (map : SortedMap Value) : List String := map.entries.map (·.1)

/-- The bindings in ascending order of their keys. -/
def toList (map : SortedMap Value) : List (String × Value) := map.entries

/-- The map of a list of bindings, where a later binding of a key replaces an earlier one. -/
def ofList (bindings : List (String × Value)) : SortedMap Value :=
  bindings.foldl (fun map binding => map.insert binding.1 binding.2) empty

theorem lookupEntry_insertEntry (key other : String) (value : Value) (entries : List (String × Value)) :
    lookupEntry other (insertEntry key value entries) =
      if key = other then some value else lookupEntry other entries := by
  induction entries with
  | nil => simp [insertEntry, lookupEntry]
  | cons head rest ih =>
    unfold insertEntry
    split
    · simp [lookupEntry]
    · split
      · rename_i same
        by_cases found : key = other <;> simp_all [lookupEntry]
      · rename_i different
        by_cases found : head.1 = other
        · have : ¬ key = other := fun same => different (same.trans found.symm)
          simp [lookupEntry, found, this]
        · simp [lookupEntry, found, ih]

@[simp] theorem get?_empty (key : String) : (empty : SortedMap Value).get? key = none := rfl

/-- After a binding the key has the new value, and every other key what it had. -/
@[simp] theorem get?_insert (map : SortedMap Value) (key other : String) (value : Value) :
    (map.insert key value).get? other = if key = other then some value else map.get? other :=
  lookupEntry_insertEntry key other value map.entries

/-- After a removal the key has no value, and every other key what it had. -/
@[simp] theorem get?_erase (map : SortedMap Value) (key other : String) :
    (map.erase key).get? other = if key = other then none else map.get? other := by
  suffices ∀ entries : List (String × Value), lookupEntry other (entries.filter (·.1 ≠ key)) =
      if key = other then none else lookupEntry other entries from this map.entries
  intro entries
  induction entries with
  | nil => simp [lookupEntry]
  | cons head rest ih =>
    by_cases removed : head.1 = key
    · rw [List.filter_cons_of_neg (by simpa using removed), ih]
      by_cases found : key = other
      · simp [found]
      · have : ¬ head.1 = other := fun same => found (removed ▸ same)
        simp [found, lookupEntry, this]
    · rw [List.filter_cons_of_pos (by simpa using removed)]
      by_cases found : head.1 = other
      · have : ¬ key = other := fun same => removed (found.trans same.symm)
        simp [lookupEntry, found, this]
      · simpa [lookupEntry, found] using ih

theorem mem_of_lookupEntry {key : String} {value : Value} {entries : List (String × Value)}
    (found : lookupEntry key entries = some value) : (key, value) ∈ entries := by
  induction entries with
  | nil => simp [lookupEntry] at found
  | cons head rest ih =>
    unfold lookupEntry at found
    split at found
    · rename_i same
      obtain rfl := Option.some.inj found
      exact same ▸ List.mem_cons_self
    · exact List.mem_cons_of_mem _ (ih found)

theorem lookupEntry_of_mem {key : String} {value : Value} {entries : List (String × Value)}
    (sorted : entries.Pairwise fun a b => a.1 < b.1) (member : (key, value) ∈ entries) :
    lookupEntry key entries = some value := by
  induction entries with
  | nil => simp at member
  | cons head rest ih =>
    rcases List.pairwise_cons.mp sorted with ⟨below, ordered⟩
    rcases List.mem_cons.mp member with rfl | later
    · simp [lookupEntry]
    · have : ¬ head.1 = key := fun same => String.lt_irrefl key (by simpa [same] using below _ later)
      simp [lookupEntry, this, ih ordered later]

/-- Keys in strictly ascending order come once each. -/
theorem nodup_of_sorted {entries : List (String × Value)} (sorted : entries.Pairwise fun a b => a.1 < b.1) :
    (entries.map (·.1)).Nodup :=
  List.pairwise_map.mpr (sorted.imp fun below => String.ne_of_lt below)

/-- A binding is listed exactly when the look-up of its key finds its value. -/
theorem mem_toList_iff {map : SortedMap Value} {key : String} {value : Value} :
    (key, value) ∈ map.toList ↔ map.get? key = some value :=
  ⟨lookupEntry_of_mem map.sorted, mem_of_lookupEntry⟩

/-- Maps in which every key has the same value are the same map. -/
theorem ext_get? {map other : SortedMap Value} (same : ∀ key, map.get? key = other.get? key) : map = other := by
  have distinct (map : SortedMap Value) : map.entries.Nodup :=
    List.Pairwise.of_map _ (fun _ _ different same => different (congrArg _ same)) (nodup_of_sorted map.sorted)
  have listed (entry : String × Value) : entry ∈ map.entries ↔ entry ∈ other.entries := by
    change entry ∈ map.toList ↔ entry ∈ other.toList
    rw [mem_toList_iff, mem_toList_iff, same]
  have entries : map.entries = other.entries :=
    ((List.perm_ext_iff_of_nodup (distinct map) (distinct other)).mpr listed).eq_of_pairwise
      (fun a b _ _ below above => absurd (String.lt_trans below above) (String.lt_irrefl _)) map.sorted other.sorted
  cases map
  cases other
  cases entries
  rfl

/-- A binding that is there already changes nothing. -/
theorem insert_of_get? {map : SortedMap Value} {key : String} {value : Value} (found : map.get? key = some value) :
    map.insert key value = map := by
  refine ext_get? fun other => ?_
  rw [get?_insert]
  split
  · rename_i same
    rw [← same, found]
  · rfl

theorem mem_keys_iff {map : SortedMap Value} {key : String} : key ∈ map.keys ↔ ∃ value, map.get? key = some value := by
  constructor
  · intro member
    obtain ⟨entry, listed, rfl⟩ := List.mem_map.mp member
    exact ⟨entry.2, mem_toList_iff.mp listed⟩
  · rintro ⟨value, found⟩
    exact List.mem_map.mpr ⟨(key, value), mem_toList_iff.mpr found, rfl⟩

theorem nodup_keys (map : SortedMap Value) : map.keys.Nodup := nodup_of_sorted map.sorted

/-- The keys of a list of bindings are the keys of its map. -/
theorem mem_keys_ofList {bindings : List (String × Value)} {key : String} :
    key ∈ (ofList bindings).keys ↔ key ∈ bindings.map (·.1) := by
  suffices ∀ map : SortedMap Value, key ∈ (bindings.foldl (fun map binding => map.insert binding.1 binding.2) map).keys ↔
      key ∈ map.keys ∨ key ∈ bindings.map (·.1) by
    have none : key ∉ (empty : SortedMap Value).keys := by simp [keys, empty]
    rw [ofList, this empty, or_iff_right none]
  induction bindings with
  | nil => simp
  | cons head rest ih =>
    intro map
    have inserted : key ∈ (map.insert head.1 head.2).keys ↔ key = head.1 ∨ key ∈ map.keys := by
      simp only [mem_keys_iff, get?_insert]
      by_cases same : head.1 = key
      · simp [same]
      · simp [same, Ne.symm same]
    rw [List.foldl_cons, ih, inserted, List.map_cons, List.mem_cons]
    grind

end SortedMap

end FilterRollout
