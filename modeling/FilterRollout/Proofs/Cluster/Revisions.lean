import FilterRollout.Resource.ConfigMap
import FilterRollout.Resource.Workload

/-! Optimistic concurrency: a store gives an object a version of its own at every write, and a client that writes an
object back names the version that it read. Whoever names the current version has read the current object, since no
version comes back. -/

namespace FilterRollout

/-- Objects that carry the version under which a store keeps them. -/
class Versioned (Object : Type) where
  version : Object → Option String
  /-- The object as a store keeps it under a version. -/
  stamped : String → Object → Object
  version_stamped : ∀ resourceVersion object, version (stamped resourceVersion object) = some resourceVersion

open Versioned

/-- The metadata of an object that is kept under a version. -/
def ObjectMeta.stamped (resourceVersion : String) (metadata : ObjectMeta) : ObjectMeta :=
  { metadata with resourceVersion := some resourceVersion }

instance : Versioned ConfigMap where
  version registry := registry.metadata.resourceVersion
  stamped resourceVersion registry := { registry with metadata := registry.metadata.stamped resourceVersion }
  version_stamped _ _ := rfl

instance : Versioned Workload where
  version workload := workload.metadata.resourceVersion
  stamped resourceVersion workload := { workload with metadata := workload.metadata.stamped resourceVersion }
  version_stamped _ _ := rfl

/-- The refusal of a write that names another version than the current one. -/
def ApiError.conflict : ApiError := .refused ⟨"Failure", "the object has been modified", "Conflict", 409⟩

/-- A stored object, unless there is none, with the versions that it had before and does not have again. -/
structure Revisions (Object : Type) [Versioned Object] where
  current : Option Object
  former : List (Option String)
  fresh : ∀ object ∈ current, version object ∉ former

namespace Revisions

variable {Object : Type} [Versioned Object]

/-- An object, or none, that has not been written before. -/
def first (current : Option Object) : Revisions Object := ⟨current, [], by simp⟩

/-- All versions that there have been so far. -/
def versions (revisions : Revisions Object) : List (Option String) :=
  (revisions.current.map version).toList ++ revisions.former

/-- Another content takes the place of the stored one, whose version is a former one from then on. -/
structure Replaced (before : Revisions Object) (content : Option Object) (after : Revisions Object) : Prop where
  current : after.current = content
  former : after.former = before.versions

/-- A store accepts an object: it names the current version, and is stored under a new one. -/
structure Accepts (before : Revisions Object) (written : Object) (after : Revisions Object) : Prop where
  named : before.current.map version = some (version written)
  stored : ∃ resourceVersion, before.Replaced (some (stamped resourceVersion written)) after

/-- An object was read from the store: it is the current one, or its version is a former one. -/
def Held (revisions : Revisions Object) (object : Object) : Prop :=
  revisions.current = some object ∨ version object ∈ revisions.former

theorem Held.replaced {before after : Revisions Object} {object : Object} {content : Option Object}
    (held : before.Held object) (replaced : before.Replaced content after) : after.Held object := by
  right
  rw [replaced.former, versions, List.mem_append]
  rcases held with current | former
  · exact .inl (by simp [current])
  · exact .inr former

/-- An object that was read is the current one if it has the version of the current one. -/
theorem Held.eq_current {revisions : Revisions Object} {object current : Object} (held : revisions.Held object)
    (stored : revisions.current = some current) (same : version current = version object) : current = object := by
  rcases held with read | former
  · exact Option.some.inj (stored.symm.trans read)
  · exact absurd (same ▸ former) (revisions.fresh current stored)

/-- A store accepts changes of an object that was read only while it is the current one. -/
theorem Held.current_of_accepts {before after : Revisions Object} {object written : Object} (held : before.Held object)
    (accepts : before.Accepts written after) (same : version written = version object) :
    before.current = some object := by
  obtain ⟨current, stored, named⟩ := Option.map_eq_some_iff.mp accepts.named
  rw [stored, held.eq_current stored (named.trans same)]

/-- Put an object in the place of the stored one, unless the given version is not a new one. -/
def replace? (revisions : Revisions Object) (resourceVersion : String) (object : Object) : Option (Revisions Object) :=
  if new : some resourceVersion ∉ revisions.versions then
    some ⟨some (stamped resourceVersion object), revisions.versions, by simpa [version_stamped] using new⟩
  else none

/-- Put an object in the place of the stored one if it names its version. -/
def put? (revisions : Revisions Object) (resourceVersion : String) (object : Object) : Option (Revisions Object) :=
  if revisions.current.map version = some (version object) then revisions.replace? resourceVersion object else none

theorem replaced_of_replace? {revisions after : Revisions Object} {resourceVersion : String} {object : Object}
    (replaced : revisions.replace? resourceVersion object = some after) :
    revisions.Replaced (some (stamped resourceVersion object)) after := by
  unfold replace? at replaced
  split at replaced
  · obtain rfl := Option.some.inj replaced
    exact ⟨rfl, rfl⟩
  · cases replaced

theorem accepts_of_put? {revisions after : Revisions Object} {resourceVersion : String} {object : Object}
    (stored : revisions.put? resourceVersion object = some after) : revisions.Accepts object after := by
  unfold put? at stored
  split at stored
  · rename_i named
    exact ⟨named, resourceVersion, replaced_of_replace? stored⟩
  · cases stored

end Revisions

end FilterRollout
