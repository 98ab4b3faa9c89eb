import FilterRollout.Proofs.Sidecar.Union
import FilterRollout.Sidecar.Annotations
import Mathlib.Logic.Function.Iterate

/-! Merging the required annotations. A key that was merged once is settled: merging it again changes nothing, and
nothing that is merged after it unsettles it. Main statement: `apply_iterate`. -/

namespace FilterRollout

open Json (FaithfulText RoundTrips)

namespace SidecarAnnotations

theorem toList_backupKey (key : String) : (backupKey key).toList = backupMark.toList ++ key.toList := by
  rw [backupKey, String.toList_append]

theorem backupKey_ne_self (key : String) : backupKey key ≠ key := by
  intro same
  have longer := congrArg (fun text : String => text.toList.length) same
  have mark : backupMark.toList.length = 17 := by decide
  simp only [toList_backupKey, List.length_append, mark] at longer
  omega

theorem backupKey_injective {key other : String} (same : backupKey key = backupKey other) : key = other := by
  have lists := congrArg String.toList same
  rw [toList_backupKey, toList_backupKey] at lists
  exact String.toList_inj.mp (List.append_cancel_left lists)

/-- What merging one annotation can come down to: nothing is to be done, a value is set, or a value is merged after it
was saved. -/
theorem mergeOne_cases {annotations merged : SortedMap String} {key wanted : String}
    (success : mergeOne annotations key wanted = .ok merged) :
    (annotations.get? key = some wanted ∧ merged = annotations) ∨
    ((annotations.get? key = none ∨ annotations.get? key = some "") ∧ merged = annotations.insert key wanted) ∨
    (∃ current value, annotations.get? key = some current ∧ current ≠ wanted ∧ current ≠ "" ∧
      VolumeList.merge key current wanted = .ok value ∧
      merged = (if annotations.contains (backupKey key) then annotations
        else annotations.insert (backupKey key) current).insert key value) := by
  unfold mergeOne at success
  cases found : annotations.get? key with
  | none =>
    rw [found] at success
    exact .inr (.inl ⟨.inl rfl, (Except.ok.inj success).symm⟩)
  | some current =>
    simp only [found] at success
    by_cases same : current = wanted
    · rw [if_pos same] at success
      exact .inl ⟨congrArg some same, (Except.ok.inj success).symm⟩
    · rw [if_neg same] at success
      by_cases blank : current = ""
      · rw [if_pos blank] at success
        exact .inr (.inl ⟨.inr (congrArg some blank), (Except.ok.inj success).symm⟩)
      · rw [if_neg blank] at success
        cases joined : VolumeList.merge key current wanted with
        | error e =>
          rw [joined] at success
          cases success
        | ok value =>
          rw [joined] at success
          have kept : (if annotations.contains (backupKey key) then annotations
              else annotations.insert (backupKey key) current).get? key = some current := by
            split
            · exact found
            · rw [SortedMap.get?_insert, if_neg (backupKey_ne_self key), found]
          refine .inr (.inr ⟨current, value, rfl, same, blank, joined, (Except.ok.inj success).symm.trans ?_⟩)
          by_cases unchanged : value = current
          · rw [if_pos unchanged, unchanged, SortedMap.insert_of_get? kept]
          · rw [if_neg unchanged]

/-- A key that needs no merging any more: it has the wanted value, or one with nothing to add and a backup. -/
def Settled (annotations : SortedMap String) (key wanted : String) : Prop :=
  annotations.get? key = some wanted ∨
    ∃ current, annotations.get? key = some current ∧ VolumeList.merge key current wanted = .ok current ∧
      annotations.contains (backupKey key) = true

theorem mergeOne_of_settled {annotations : SortedMap String} {key wanted : String}
    (settled : Settled annotations key wanted) : mergeOne annotations key wanted = .ok annotations := by
  rcases settled with found | ⟨current, found, joined, saved⟩
  · simp [mergeOne, found]
  · have filled := VolumeList.ne_empty_of_merge joined
    by_cases same : current = wanted
    · simp [mergeOne, found, same]
    · simp only [mergeOne, found, joined, same, filled, saved, if_false, if_true]
      exact congrArg Except.ok (if_pos rfl)

theorem settled_of_mergeOne {annotations merged : SortedMap String} {key wanted : String}
    (roundTrips : RoundTrips wanted)
    (success : mergeOne annotations key wanted = .ok merged) : Settled merged key wanted := by
  rcases mergeOne_cases success with ⟨found, rfl⟩ | ⟨-, rfl⟩ | ⟨current, value, -, -, -, joined, rfl⟩
  · exact .inl found
  · exact .inl (by simp)
  · refine .inr ⟨value, by simp, VolumeList.merge_merge roundTrips joined, ?_⟩
    have other : key ≠ backupKey key := (backupKey_ne_self key).symm
    rw [SortedMap.contains, SortedMap.get?_insert, if_neg other]
    split
    · rename_i saved
      exact saved
    · simp

/-- Merging at one key keeps every value that is there under another one. -/
theorem get?_of_mergeOne {annotations merged : SortedMap String} {key wanted other value : String}
    (success : mergeOne annotations key wanted = .ok merged) (different : other ≠ key)
    (found : annotations.get? other = some value) : merged.get? other = some value := by
  have apart := different.symm
  rcases mergeOne_cases success with ⟨-, rfl⟩ | ⟨-, rfl⟩ | ⟨current, joined, -, -, -, -, rfl⟩
  · exact found
  · rwa [SortedMap.get?_insert, if_neg apart]
  · rw [SortedMap.get?_insert, if_neg apart]
    split
    · exact found
    · rename_i unsaved
      have absent : backupKey key ≠ other := by
        rintro rfl
        simp [SortedMap.contains, found] at unsaved
      rwa [SortedMap.get?_insert, if_neg absent]

theorem contains_of_mergeOne {annotations merged : SortedMap String} {key wanted other : String}
    (success : mergeOne annotations key wanted = .ok merged) (found : annotations.contains other = true) :
    merged.contains other = true := by
  by_cases same : other = key
  · subst same
    rcases mergeOne_cases success with ⟨-, rfl⟩ | ⟨-, rfl⟩ | ⟨current, joined, -, -, -, -, rfl⟩
    · exact found
    · simp [SortedMap.contains]
    · simp [SortedMap.contains]
  · obtain ⟨value, there⟩ := Option.isSome_iff_exists.mp found
    exact Option.isSome_iff_exists.mpr ⟨value, get?_of_mergeOne success same there⟩

theorem Settled.mergeOne {annotations merged : SortedMap String} {key wanted other wish : String}
    (settled : Settled annotations key wanted) (different : key ≠ other)
    (success : mergeOne annotations other wish = .ok merged) : Settled merged key wanted := by
  rcases settled with found | ⟨current, found, joined, saved⟩
  · exact .inl (get?_of_mergeOne success different found)
  · exact .inr ⟨current, get?_of_mergeOne success different found, joined, contains_of_mergeOne success saved⟩

/-- The texts that merging entries looks at have only doubles that are read as they are printed. -/
def Faithful (annotations : SortedMap String) (entries : List (String × String)) : Prop :=
  ∀ entry ∈ entries, FaithfulText entry.2 ∧ ∀ current ∈ annotations.get? entry.1, FaithfulText current

/-- The required texts have no doubles. -/
theorem faithful_required {annotations : SortedMap String}
    (known : ∀ key ∈ required.keys, ∀ current ∈ annotations.get? key, FaithfulText current) :
    Faithful annotations required.toList := by
  have wished : ∀ entry ∈ required.toList, FaithfulText entry.2 := by decide +kernel
  exact fun entry member => ⟨wished entry member, known entry.1 (List.mem_map_of_mem member)⟩

theorem mergeEach_ok_iff {annotations merged : SortedMap String} {key wanted : String} {rest : List (String × String)} :
    mergeEach annotations ((key, wanted) :: rest) = (merged, .ok ()) ↔
      ∃ next, mergeOne annotations key wanted = .ok next ∧ mergeEach next rest = (merged, .ok ()) := by
  rw [mergeEach]
  cases mergeOne annotations key wanted with
  | error e => simp
  | ok next => simp

theorem Settled.mergeEach {annotations merged : SortedMap String} {key wanted : String}
    {entries : List (String × String)} (settled : Settled annotations key wanted)
    (absent : key ∉ entries.map (·.1)) (success : mergeEach annotations entries = (merged, .ok ())) :
    Settled merged key wanted := by
  induction entries generalizing annotations with
  | nil =>
    obtain ⟨rfl, -⟩ := Prod.mk.inj success
    exact settled
  | cons entry rest ih =>
    obtain ⟨next, first, later⟩ := mergeEach_ok_iff.mp success
    simp only [List.map_cons, List.mem_cons, not_or] at absent
    exact ih (settled.mergeOne absent.1 first) absent.2 later

theorem settled_of_mergeEach {annotations merged : SortedMap String} {entries : List (String × String)}
    (distinct : (entries.map (·.1)).Nodup) (roundTrips : ∀ entry ∈ entries, RoundTrips entry.2)
    (success : mergeEach annotations entries = (merged, .ok ())) :
    ∀ entry ∈ entries, Settled merged entry.1 entry.2 := by
  induction entries generalizing annotations with
  | nil => simp
  | cons entry rest ih =>
    obtain ⟨next, first, later⟩ := mergeEach_ok_iff.mp success
    obtain ⟨absent, distinctRest⟩ := List.nodup_cons.mp distinct
    obtain ⟨here, others⟩ := List.forall_mem_cons.mp roundTrips
    intro other member
    rcases List.mem_cons.mp member with rfl | behind
    · exact (settled_of_mergeOne here first).mergeEach absent later
    · exact ih distinctRest others later other behind

theorem mergeEach_of_settled {annotations : SortedMap String} {entries : List (String × String)}
    (settled : ∀ entry ∈ entries, Settled annotations entry.1 entry.2) :
    mergeEach annotations entries = (annotations, .ok ()) := by
  induction entries with
  | nil => rfl
  | cons entry rest ih =>
    refine mergeEach_ok_iff.mpr ⟨annotations, mergeOne_of_settled (settled entry List.mem_cons_self), ?_⟩
    exact ih fun other member => settled other (List.mem_cons_of_mem _ member)

/-- Merging into a pod template is done once, whichever keys are required. -/
theorem apply_apply {required : SortedMap String} {template : PodTemplate}
    (roundTrips : ∀ entry ∈ required.toList, RoundTrips entry.2) (success : (apply required template).2 = .ok ()) :
    apply required (apply required template).1 = apply required template := by
  cases merged : mergeEach template.annotations required.toList with
  | mk annotations result =>
    have ended : apply required template = (template.withAnnotations (some annotations), result) := by
      simp only [apply, merged]
    rw [ended] at success ⊢
    obtain rfl : result = .ok () := success
    have settled := settled_of_mergeEach (SortedMap.nodup_of_sorted required.sorted) roundTrips merged
    have again : mergeEach annotations required.toList = (annotations, .ok ()) := mergeEach_of_settled settled
    change ((template.withAnnotations (some annotations)).withAnnotations
      (some (mergeEach annotations required.toList).1), (mergeEach annotations required.toList).2) = _
    rw [again]
    rfl

/-- Once a merge into a pod template has succeeded, each further one succeeds and changes nothing. All that is asked for
is that the required lists are read again as they are printed. -/
theorem apply_iterate {required : SortedMap String} {template : PodTemplate}
    (roundTrips : ∀ key, ∀ wanted ∈ required.get? key, RoundTrips wanted)
    (success : (apply required template).2 = .ok ()) (times : Nat) :
    (fun before : PodTemplate × Except Error Unit => apply required before.1)^[times] (apply required template) =
      apply required template := by
  refine Function.iterate_fixed (apply_apply (fun entry member => ?_) success) times
  exact roundTrips entry.1 entry.2 (SortedMap.mem_toList_iff.mp member)

/-- Two required keys of which one is the backup key of the other. -/
def entangled : SortedMap String := .ofList
  [("volumes", "[\x7b\"name\":\"cache\"\x7d]"), (backupKey "volumes", "[\x7b\"name\":7\x7d,\x7b\"mode\":420\x7d]")]

/-- The former value is saved under a key that is merged itself afterwards, and merging again changes neither. -/
theorem apply_iterate_entangled :
    let template := PodTemplate.empty.annotate "volumes" "[\x7b\"name\": \"data\", \"size\": 1e2\x7d]"
    (∀ key, ∀ wanted ∈ entangled.get? key, RoundTrips wanted) ∧ (apply entangled template).2 = .ok () ∧
      (apply entangled template).1.annotations = .ofList
        [("volumes", "[\x7b\"name\":\"data\",\"size\":100.0\x7d,\x7b\"name\":\"cache\"\x7d]"),
          (backupKey "volumes",
            "[\x7b\"name\":\"data\",\"size\":100.0\x7d,\x7b\"name\":7\x7d,\x7b\"mode\":420\x7d]"),
          (backupKey (backupKey "volumes"), "[\x7b\"name\": \"data\", \"size\": 1e2\x7d]")] ∧
      apply entangled (apply entangled template).1 = apply entangled template := by
  intro template
  have roundTrips : ∀ key, ∀ wanted ∈ entangled.get? key, RoundTrips wanted := by
    have listed : ∀ entry ∈ entangled.toList, RoundTrips entry.2 := by decide +kernel
    exact fun key wanted found => listed (key, wanted) (SortedMap.mem_toList_iff.mpr found)
  have success : (apply entangled template).2 = .ok () := by decide +kernel
  exact ⟨roundTrips, success, by decide +kernel, apply_iterate roundTrips success 1⟩

end SidecarAnnotations

end FilterRollout
