import FilterRollout.Json.Equality
import FilterRollout.Json.Normal
import Mathlib.Data.Option.Basic

/-! What stands at a place of a JSON value, to which keys lead. Values that are the same have the same at every place,
in whatever order their members are. -/

namespace FilterRollout.Json

/-- The members of an object; other values have none. -/
def members : Json → List (String × Json)
  | .object members => members
  | _ => []

/-- The value to which a path of keys leads, if there is one. -/
def at? : List String → Json → Option Json
  | [], json => some json
  | key :: rest, json => (member? key json.members).bind (at? rest)

theorem member?_cons (key : String) (member : String × Json) (rest : List (String × Json)) :
    member? key (member :: rest) = (member? key rest).or (if member.1 = key then some member.2 else none) := by
  suffices ∀ entries : List (String × Json), SortedMap.lookupEntry key (entries ++ [member]) =
      (SortedMap.lookupEntry key entries).or (if member.1 = key then some member.2 else none) by
    rw [member?, List.reverse_cons, this]
    rfl
  intro entries
  induction entries with
  | nil => simp [SortedMap.lookupEntry]
  | cons head others ih =>
    rw [List.cons_append, SortedMap.lookupEntry, SortedMap.lookupEntry, ih]
    split <;> rfl

theorem lookupEntry_addEarlier (key other : String) (value : Json) (later : List (String × Json)) :
    SortedMap.lookupEntry other (addEarlier key value later) =
      (SortedMap.lookupEntry other later).or (if key = other then some value else none) := by
  unfold addEarlier
  split
  · rename_i found
    by_cases same : key = other
    · rw [← same, found]
      rfl
    · rw [if_neg same, Option.or_none]
  · rename_i absent
    rw [SortedMap.lookupEntry_insertEntry]
    by_cases same : key = other
    · rw [← same, absent, if_pos rfl]
      rfl
    · rw [if_neg same, if_neg same, Option.or_none]

/-- Normalizing keeps the member of each key. -/
theorem lookupEntry_normalizeMembers (key : String) (members : List (String × Json)) :
    SortedMap.lookupEntry key (normalizeMembers members) = (member? key members).map normalize := by
  induction members with
  | nil => rfl
  | cons head rest ih =>
    rw [normalizeMembers, lookupEntry_addEarlier, ih, member?_cons, Option.map_or]
    split <;> rfl

theorem lookupEntry_of_sameMembers {as bs : List (String × Json)} (same : sameMembers as bs = true) (key : String) :
    Option.Rel (fun a b => a.sameNormal b = true) (SortedMap.lookupEntry key as) (SortedMap.lookupEntry key bs) := by
  induction as generalizing bs with
  | nil =>
    cases bs with
    | nil => exact .none
    | cons second others => cases same
  | cons first rest ih =>
    cases bs with
    | nil => cases same
    | cons second others =>
      simp only [sameMembers, Bool.and_eq_true, beq_iff_eq] at same
      obtain ⟨⟨keys, values⟩, later⟩ := same
      rw [SortedMap.lookupEntry, SortedMap.lookupEntry, keys]
      split
      · exact .some values
      · exact ih later

theorem member?_of_same {a b : Json} (same : a.same b = true) (key : String) :
    Option.Rel (fun x y => x.same y = true) (member? key a.members) (member? key b.members) := by
  cases a with
  | object as =>
    cases b with
    | object bs =>
      have found := lookupEntry_of_sameMembers (show sameMembers (normalizeMembers as) (normalizeMembers bs) = true
        from same) key
      rw [lookupEntry_normalizeMembers, lookupEntry_normalizeMembers] at found
      simp only [members]
      cases first : member? key as <;> cases second : member? key bs <;> rw [first, second] at found
      · exact .none
      · cases found
      · cases found
      · cases found with
        | some same => exact .some same
    | _ => cases same
  | _ =>
    cases b with
    | object bs => cases same
    | _ => exact .none

/-- Values that are the same have the same at every place. -/
theorem at?_of_same {a b : Json} (same : a.same b = true) (path : List String) :
    Option.Rel (fun x y => x.same y = true) (at? path a) (at? path b) := by
  induction path generalizing a b with
  | nil => exact .some same
  | cons key rest ih =>
    have here := member?_of_same same key
    rw [at?, at?]
    generalize member? key a.members = first at here
    generalize member? key b.members = second at here
    cases here with
    | none => exact .none
    | some same => exact ih same

theorem isSome_at?_of_same {a b : Json} (same : a.same b = true) (path : List String) :
    (at? path a).isSome = (at? path b).isSome := by
  have here := at?_of_same same path
  generalize at? path a = first at here
  generalize at? path b = second at here
  cases here <;> rfl

/-- Texts at one place are the same only if they are one text, and none stands for none. -/
theorem eq_of_rel_string {first second : Option String}
    (same : Option.Rel (fun x y => Json.same x y = true) (first.map .string) (second.map .string)) :
    first = second := by
  cases first <;> cases second <;> cases same
  · rfl
  · rename_i same
    exact congrArg some (by simpa [Json.same, normalize, sameNormal] using same)

end FilterRollout.Json
