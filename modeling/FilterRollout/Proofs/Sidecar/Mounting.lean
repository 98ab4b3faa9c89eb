import FilterRollout.Proofs.Sidecar.Merging

/-! What a pod template mounts once the required annotations were merged into it: the volume of the cache, whatever else
its annotations held. Main statement: `mounted_apply`. -/

namespace FilterRollout

namespace VolumeList

/-- Whether one of the volumes has this name. -/
def Names (volumes : List Volume) (name : String) : Prop :=
  ∃ volume ∈ volumes, Json.member? identityKey volume = some (.string name)

/-- Whether a text is a JSON array with a volume of this name. -/
def Mounts (text name : String) : Prop :=
  ∃ items volume, Json.read? text = some (.array items) ∧ .object volume ∈ items ∧
    Json.member? identityKey volume = some (.string name)

instance (volumes : List Volume) (name : String) : Decidable (Names volumes name) :=
  inferInstanceAs (Decidable (∃ volume ∈ volumes, Json.member? identityKey volume = some (.string name)))

theorem mounts_of_names {text name : String} {volumes : List Volume} (read : read? text = some volumes)
    (names : Names volumes name) : Mounts text name := by
  obtain ⟨volume, member, found⟩ := names
  exact ⟨_, volume, read?_iff.mp read, List.mem_map_of_mem member, found⟩

theorem names_of_mounts {text name : String} {volumes : List Volume} (read : read? text = some volumes)
    (mounts : Mounts text name) : Names volumes name := by
  obtain ⟨items, volume, whole, member, found⟩ := mounts
  obtain rfl : volumes.map Json.object = items := by
    rw [read?_iff.mp read] at whole
    exact Json.array.inj (Option.some.inj whole)
  obtain ⟨other, listed, same⟩ := List.mem_map.mp member
  cases same
  exact ⟨volume, listed, found⟩

/-- Only a text equals a text. -/
theorem eq_string_of_same {json : Json} {name : String} (same : json.same (.string name) = true) :
    json = .string name := by
  cases json with
  | string text =>
    have equal : text = name := by simpa [Json.same, Json.normalize, Json.sameNormal] using same
    rw [equal]
  | _ => simp [Json.same, Json.normalize, Json.sameNormal] at same

/-- A name that is required is there once what was missing is. -/
theorem names_append_missing {current required : List Volume} {name : String} (names : Names required name) :
    Names (current ++ missing current required) name := by
  obtain ⟨volume, member, found⟩ := names
  obtain ⟨other, listed, stands⟩ := missing_eq_nil_iff.mp (missing_append_missing current required) volume member
  refine ⟨other, listed, ?_⟩
  unfold StandsFor at stands
  rw [found] at stands
  cases identity : Json.member? identityKey other with
  | none =>
    rw [identity] at stands
    cases stands
  | some json =>
    rw [identity] at stands
    cases stands with
    | some same => rw [eq_string_of_same same]

/-- Volumes from lists that were read keep their names when they are written. -/
theorem mounts_write {volumes : List Volume} {name : String}
    (origin : ∀ volume ∈ volumes, ∃ text others, read? text = some others ∧ volume ∈ others)
    (names : Names volumes name) : Mounts (write volumes) name := by
  obtain ⟨volume, member, found⟩ := names
  refine mounts_of_names (read?_write origin) ⟨_, List.mem_map_of_mem member, ?_⟩
  rw [Json.member?_rereadMembers, found]
  rfl

/-- What is merged mounts what was required. -/
theorem mounts_of_merge {key current required merged name : String} (mounts : Mounts required name)
    (success : merge key current required = .ok merged) : Mounts merged name := by
  obtain ⟨volumes, wanted, first, second, rfl⟩ := merge_ok_iff.mp success
  have names : Names (volumes ++ missing volumes wanted) name := names_append_missing (names_of_mounts second mounts)
  split
  · rename_i complete
    rw [List.isEmpty_iff.mp complete, List.append_nil] at names
    exact mounts_of_names first names
  · exact mounts_write (origin_of_mem first second) names

end VolumeList

namespace SidecarAnnotations

open VolumeList (Mounts)

/-- Annotations with which a proxy mounts a volume of this name at each required key. -/
def Mounted (required annotations : SortedMap String) (name : String) : Prop :=
  ∀ key ∈ required.keys, ∃ text, annotations.get? key = some text ∧ Mounts text name

theorem mounts_of_mergeOne {annotations merged : SortedMap String} {key wanted name : String}
    (mounts : Mounts wanted name) (success : mergeOne annotations key wanted = .ok merged) :
    ∃ text, merged.get? key = some text ∧ Mounts text name := by
  rcases mergeOne_cases success with ⟨found, rfl⟩ | ⟨-, rfl⟩ | ⟨current, value, -, -, -, joined, rfl⟩
  · exact ⟨wanted, found, mounts⟩
  · exact ⟨wanted, by simp, mounts⟩
  · exact ⟨value, by simp, VolumeList.mounts_of_merge mounts joined⟩

/-- Merging at other keys keeps the value of a key. -/
theorem get?_of_mergeEach {annotations merged : SortedMap String} {entries : List (String × String)} {key text : String}
    (absent : key ∉ entries.map (·.1)) (success : mergeEach annotations entries = (merged, .ok ()))
    (found : annotations.get? key = some text) : merged.get? key = some text := by
  induction entries generalizing annotations with
  | nil =>
    obtain ⟨rfl, -⟩ := Prod.mk.inj success
    exact found
  | cons entry rest ih =>
    obtain ⟨next, first, later⟩ := mergeEach_ok_iff.mp success
    obtain ⟨different, behind⟩ := not_or.mp (mt List.mem_cons.mpr absent)
    exact ih behind later (get?_of_mergeOne first different found)

theorem mounts_of_mergeEach {annotations merged : SortedMap String} {entries : List (String × String)} {name : String}
    (distinct : (entries.map (·.1)).Nodup) (mounts : ∀ entry ∈ entries, Mounts entry.2 name)
    (success : mergeEach annotations entries = (merged, .ok ())) :
    ∀ key ∈ entries.map (·.1), ∃ text, merged.get? key = some text ∧ Mounts text name := by
  induction entries generalizing annotations with
  | nil => simp
  | cons entry rest ih =>
    obtain ⟨next, first, later⟩ := mergeEach_ok_iff.mp success
    obtain ⟨absent, distinctRest⟩ := List.nodup_cons.mp distinct
    obtain ⟨here, others⟩ := List.forall_mem_cons.mp mounts
    intro key member
    rcases List.mem_cons.mp member with rfl | behind
    · obtain ⟨text, found, mounted⟩ := mounts_of_mergeOne here first
      exact ⟨text, get?_of_mergeEach absent later found, mounted⟩
    · exact ih distinctRest others later key behind

/-- The required texts mount the volume of the cache. -/
theorem mounts_required : ∀ entry ∈ required.toList, Mounts entry.2 "cache-dir" := by
  have readable : ∀ entry ∈ required.toList, ∃ volumes ∈ VolumeList.read? entry.2,
      VolumeList.Names volumes "cache-dir" := by decide +kernel
  intro entry member
  obtain ⟨volumes, read, names⟩ := readable entry member
  exact VolumeList.mounts_of_names read names

/-- A pod template into which the required annotations were merged mounts the volume of the cache. -/
theorem mounted_apply {template : PodTemplate} (success : (apply required template).2 = .ok ()) :
    Mounted required (apply required template).1.annotations "cache-dir" := by
  have merged : mergeEach template.annotations required.toList =
      ((mergeEach template.annotations required.toList).1, .ok ()) := Prod.ext rfl success
  exact mounts_of_mergeEach (SortedMap.nodup_of_sorted required.sorted) mounts_required merged

end SidecarAnnotations

end FilterRollout
