import FilterRollout.Json.Basic

/-! Whether two JSON values are one and the same, member by member and in order, can be decided. Then they are also equal
as JSON values. -/

namespace FilterRollout.Json

mutual

def decideEq : (a b : Json) → Decidable (a = b)
  | .null, b => match b with
    | .null => isTrue rfl
    | .bool _ | .number _ | .string _ | .array _ | .object _ => isFalse nofun
  | .bool value, b => match b with
    | .bool other => decidable_of_iff (value = other) (by simp)
    | .null | .number _ | .string _ | .array _ | .object _ => isFalse nofun
  | .number value, b => match b with
    | .number other => decidable_of_iff (value = other) (by simp)
    | .null | .bool _ | .string _ | .array _ | .object _ => isFalse nofun
  | .string value, b => match b with
    | .string other => decidable_of_iff (value = other) (by simp)
    | .null | .bool _ | .number _ | .array _ | .object _ => isFalse nofun
  | .array items, b => match b with
    | .array others => have := decideEqItems items others; decidable_of_iff (items = others) (by simp)
    | .null | .bool _ | .number _ | .string _ | .object _ => isFalse nofun
  | .object members, b => match b with
    | .object others => have := decideEqMembers members others; decidable_of_iff (members = others) (by simp)
    | .null | .bool _ | .number _ | .string _ | .array _ => isFalse nofun
  termination_by structural a => a

def decideEqItems : (as bs : List Json) → Decidable (as = bs)
  | [], [] => isTrue rfl
  | [], _ :: _ | _ :: _, [] => isFalse nofun
  | a :: as, b :: bs =>
    have := decideEq a b
    have := decideEqItems as bs
    decidable_of_iff (a = b ∧ as = bs) (by simp)
  termination_by structural as => as

def decideEqMembers : (as bs : List (String × Json)) → Decidable (as = bs)
  | [], [] => isTrue rfl
  | [], _ :: _ | _ :: _, [] => isFalse nofun
  | (key, a) :: as, (other, b) :: bs =>
    have := decideEq a b
    have := decideEqMembers as bs
    decidable_of_iff (key = other ∧ a = b ∧ as = bs) (by simp [and_assoc])
  termination_by structural as => as

end

instance : DecidableEq Json := decideEq

mutual

theorem sameNormal_self : (json : Json) → json.sameNormal json = true
  | .null => rfl
  | .bool value => by simp [sameNormal]
  | .number value => value.same_self
  | .string value => by simp [sameNormal]
  | .array items => sameItems_self items
  | .object members => sameMembers_self members

theorem sameItems_self : (items : List Json) → sameItems items items = true
  | [] => rfl
  | item :: rest => by
    rw [sameItems, sameNormal_self item, sameItems_self rest]
    rfl

theorem sameMembers_self : (members : List (String × Json)) → sameMembers members members = true
  | [] => rfl
  | (key, value) :: rest => by
    rw [sameMembers, sameNormal_self value, sameMembers_self rest]
    simp

end

theorem same_self (json : Json) : json.same json = true := sameNormal_self json.normalize

end FilterRollout.Json
