import FilterRollout.Json.Basic

/-! Normal JSON values: the fixed points of `normalize`. Main statement: normalizing once is enough. -/

namespace FilterRollout.Json

/-- Members in ascending order of their keys whose values are normal stay as they are. -/
theorem normalizeMembers_eq_self {members : List (String × Json)}
    (sorted : members.Pairwise fun a b => a.1 < b.1) (normal : ∀ entry ∈ members, entry.2.normalize = entry.2) :
    normalizeMembers members = members := by
  induction members with
  | nil => rfl
  | cons head rest ih =>
    rcases List.pairwise_cons.mp sorted with ⟨below, ordered⟩
    have later := ih ordered fun entry member => normal entry (List.mem_cons_of_mem _ member)
    have absent : SortedMap.lookupEntry head.1 rest = none := by
      cases found : SortedMap.lookupEntry head.1 rest with
      | none => rfl
      | some value => exact absurd (below _ (SortedMap.mem_of_lookupEntry found)) (String.lt_irrefl _)
    have first : SortedMap.insertEntry head.1 head.2 rest = head :: rest := by
      cases rest with
      | nil => rfl
      | cons second _ => simp [SortedMap.insertEntry, below second List.mem_cons_self]
    simp [normalizeMembers, addEarlier, later, absent, normal head List.mem_cons_self, first]

theorem sorted_normalizeMembers (members : List (String × Json)) :
    (normalizeMembers members).Pairwise fun a b => a.1 < b.1 := by
  induction members with
  | nil => exact .nil
  | cons head rest ih =>
    unfold normalizeMembers addEarlier
    split
    · exact ih
    · exact SortedMap.sorted_insertEntry _ _ ih

mutual

/-- A normalized value is normal. -/
theorem normalize_normalize : (json : Json) → json.normalize.normalize = json.normalize
  | .array items => by
    simp only [normalize]
    rw [normalizeItems_normalizeItems items]
  | .object members => by
    simp only [normalize]
    rw [normalizeMembers_eq_self (sorted_normalizeMembers members) (normal_of_mem_normalizeMembers members)]
  | .null => rfl
  | .bool _ => rfl
  | .number _ => rfl
  | .string _ => rfl

theorem normalizeItems_normalizeItems : (items : List Json) →
    normalizeItems (normalizeItems items) = normalizeItems items
  | [] => rfl
  | item :: rest => by
    simp only [normalizeItems]
    rw [normalize_normalize item, normalizeItems_normalizeItems rest]

theorem normal_of_mem_normalizeMembers : (members : List (String × Json)) →
    ∀ entry ∈ normalizeMembers members, entry.2.normalize = entry.2
  | [], entry, member => by simp [normalizeMembers] at member
  | (key, value) :: rest, entry, member => by
    unfold normalizeMembers addEarlier at member
    split at member
    · exact normal_of_mem_normalizeMembers rest entry member
    · rcases SortedMap.mem_insertEntry member with rfl | later
      · exact normalize_normalize value
      · exact normal_of_mem_normalizeMembers rest entry later

end

end FilterRollout.Json
