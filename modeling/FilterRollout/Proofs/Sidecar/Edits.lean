import FilterRollout.Proofs.Sidecar.Restoration

/-! Annotations that others edit between merges. Their keys are none of the required ones and no backups, so that an edit
moves the annotations and what is to be given back in the same way. Main statement: `remove_of_steps`. -/

namespace FilterRollout.SidecarAnnotations

/-- What happens to a pod template while a filter is rolled out: the required annotations are merged in, or somebody
else sets or removes another one. -/
inductive Step
  | merge
  | set (key value : String)
  | unset (key : String)
  deriving DecidableEq

/-- The pod template with the required annotations merged in, if all of them can be. -/
def merged (required : SortedMap String) (template : PodTemplate) : Except Error PodTemplate :=
  (apply required template).2.map fun _ => (apply required template).1

namespace Step

def perform (required : SortedMap String) : Step → PodTemplate → Except Error PodTemplate
  | merge, template => merged required template
  | set key value, template => .ok (template.annotate key value)
  | unset key, template => .ok (template.unannotate key)

/-- What a step of somebody else does to the annotations. -/
def edit : Step → SortedMap String → SortedMap String
  | merge, annotations => annotations
  | set key value, annotations => annotations.insert key value
  | unset key, annotations => annotations.erase key

/-- The key that a step of somebody else is about. -/
def key? : Step → Option String
  | merge => none
  | set key _ => some key
  | unset key => some key

/-- A step that leaves the required keys and the backups alone. -/
def Foreign (required : SortedMap String) (step : Step) : Prop :=
  ∀ key ∈ step.key?, key ∉ required.keys ∧ isBackupKey key = false

instance (required : SortedMap String) (step : Step) : Decidable (step.Foreign required) :=
  inferInstanceAs (Decidable (∀ key ∈ step.key?, key ∉ required.keys ∧ isBackupKey key = false))

theorem get?_edit_of_ne {step : Step} {key : String} (other : key ∉ step.key?) (annotations : SortedMap String) :
    (step.edit annotations).get? key = annotations.get? key := by
  cases step with
  | merge => rfl
  | set changed value =>
    have different : changed ≠ key := fun same => other (by simp [key?, same])
    simp [edit, different]
  | unset changed =>
    have different : changed ≠ key := fun same => other (by simp [key?, same])
    simp [edit, different]

/-- An edit does not depend on the value that its key had. -/
theorem get?_edit_self {step : Step} {key : String} (own : key ∈ step.key?) (annotations other : SortedMap String) :
    (step.edit annotations).get? key = (step.edit other).get? key := by
  cases step with
  | merge => simp [key?] at own
  | set changed value =>
    obtain rfl := Option.some.inj own
    simp [edit]
  | unset changed =>
    obtain rfl := Option.some.inj own
    simp [edit]

end Step

theorem merged_ok_iff {required : SortedMap String} {template last : PodTemplate} :
    merged required template = .ok last ↔ apply required template = (last, .ok ()) := by
  unfold merged
  rcases apply required template with ⟨changed, result | result⟩ <;> simp [Except.map]

variable {required original : SortedMap String}

/-- Others edit what is stored and what is to be given back alike. -/
theorem Recoverable.edit {merged : List String} {current : SortedMap String} {step : Step}
    (recoverable : Recoverable required original merged current) (foreign : step.Foreign required) :
    Recoverable required (step.edit original) merged (step.edit current) := by
  have backups (key : String) : (step.edit current).get? (backupKey key) = current.get? (backupKey key) :=
    Step.get?_edit_of_ne (fun own => by simpa using (foreign _ own).2) current
  have wishes (key : String) (member : key ∈ required.keys) (annotations : SortedMap String) :
      (step.edit annotations).get? key = annotations.get? key :=
    Step.get?_edit_of_ne (fun own => (foreign key own).1 member) annotations
  constructor
  · exact recoverable.inside
  · intro key plainKey unmerged
    obtain ⟨same, unsaved⟩ := recoverable.untouched key plainKey unmerged
    refine ⟨?_, (backups key).trans unsaved⟩
    by_cases own : key ∈ step.key?
    · exact Step.get?_edit_self own current original
    · rw [Step.get?_edit_of_ne own, Step.get?_edit_of_ne own, same]
  · intro key member wanted wish
    rw [backups, wishes key (recoverable.inside member)]
    exact recoverable.backup key member wanted wish
  · intro key member wanted wish former
    rw [wishes key (recoverable.inside member)] at former ⊢
    exact recoverable.wanted key member wanted wish former
  · intro key nested
    exact (backups key).trans (recoverable.unnested key nested)

theorem Step.unmarked_edit {step : Step} (foreign : step.Foreign required)
    (unmarked : ∀ key ∈ original.keys, isBackupKey key = false) :
    ∀ key ∈ (step.edit original).keys, isBackupKey key = false := by
  intro key member
  by_cases own : key ∈ step.key?
  · exact (foreign key own).2
  · obtain ⟨value, found⟩ := SortedMap.mem_keys_iff.mp member
    rw [Step.get?_edit_of_ne own] at found
    exact unmarked key (SortedMap.mem_keys_iff.mpr ⟨value, found⟩)

theorem Step.unmarked_foldl_edit {steps : List Step} (foreign : ∀ step ∈ steps, step.Foreign required)
    (unmarked : ∀ key ∈ original.keys, isBackupKey key = false) :
    ∀ key ∈ (steps.foldl (fun annotations step => step.edit annotations) original).keys, isBackupKey key = false := by
  induction steps generalizing original with
  | nil => exact unmarked
  | cons step rest ih =>
    exact ih (fun other member => foreign other (List.mem_cons_of_mem _ member))
      (step.unmarked_edit (foreign step List.mem_cons_self) unmarked)

theorem Step.get?_foldl_edit {steps : List Step} (foreign : ∀ step ∈ steps, step.Foreign required) {key : String}
    (wish : key ∈ required.keys) :
    (steps.foldl (fun annotations step => step.edit annotations) original).get? key = original.get? key := by
  induction steps generalizing original with
  | nil => rfl
  | cons step rest ih =>
    rw [List.foldl_cons, ih fun other member => foreign other (List.mem_cons_of_mem _ member)]
    exact step.get?_edit_of_ne (fun own => (foreign step List.mem_cons_self key own).1 wish) original

/-- One step changes nothing of a pod template but its annotations, and what it changes there can be taken back. -/
theorem Step.perform_ok {step : Step} {template next : PodTemplate} {keys : List String} (plain : Plain required)
    (foreign : step.Foreign required) (recoverable : Recoverable required original keys template.annotations)
    (success : step.perform required template = .ok next) :
    ∃ annotations more, next = template.withAnnotations (some annotations) ∧
      Recoverable required (step.edit original) (more ++ keys) annotations ∧
      (step = .merge → required.keys ⊆ more) := by
  cases step with
  | merge =>
    have whole := merged_ok_iff.mp success
    unfold apply at whole
    obtain ⟨rfl, ended⟩ := Prod.mk.inj whole
    have wishes : ∀ entry ∈ required.toList, required.get? entry.1 = some entry.2 :=
      fun entry member => SortedMap.mem_toList_iff.mp member
    refine ⟨_, _, rfl, recoverable.mergeEach plain wishes (Prod.ext rfl ended), fun _ key member => ?_⟩
    exact List.mem_reverse.mpr member
  | set key value =>
    obtain rfl := Except.ok.inj success
    exact ⟨_, [], rfl, recoverable.edit foreign, by simp⟩
  | unset key =>
    obtain rfl := Except.ok.inj success
    exact ⟨_, [], rfl, recoverable.edit foreign, by simp⟩

/-- Any number of steps, one after another. -/
theorem recoverable_of_steps {steps : List Step} {template last : PodTemplate} {keys : List String}
    (plain : Plain required) (foreign : ∀ step ∈ steps, step.Foreign required)
    (recoverable : Recoverable required original keys template.annotations)
    (course : steps.foldlM (fun now step => step.perform required now) template = .ok last) :
    ∃ more, Recoverable required (steps.foldl (fun annotations step => step.edit annotations) original) (more ++ keys)
        last.annotations ∧
      (.merge ∈ steps → required.keys ⊆ more) ∧
      (steps ≠ [] → ∃ annotations, last = template.withAnnotations (some annotations)) := by
  induction steps generalizing template original keys with
  | nil =>
    obtain rfl := Except.ok.inj course
    exact ⟨[], recoverable, by simp, by simp⟩
  | cons step rest ih =>
    rw [List.foldlM_cons] at course
    cases first : step.perform required template with
    | error e =>
      rw [first] at course
      cases course
    | ok next =>
      rw [first] at course
      obtain ⟨annotations, new, rfl, goes, fresh⟩ :=
        step.perform_ok plain (foreign step List.mem_cons_self) recoverable first
      obtain ⟨later, ends, all, whole⟩ :=
        ih (fun other member => foreign other (List.mem_cons_of_mem _ member)) goes course
      refine ⟨later ++ new, by simpa using ends, fun member => ?_, fun _ => ?_⟩
      · rcases List.mem_cons.mp member with same | behind
        · exact fun key wish => List.mem_append_right _ (fresh same.symm wish)
        · exact fun key wish => List.mem_append_left _ (all behind wish)
      · cases rest with
        | nil =>
          obtain rfl := Except.ok.inj course
          exact ⟨annotations, rfl⟩
        | cons second others =>
          obtain ⟨stored, rfl⟩ := whole (by simp)
          exact ⟨stored, rfl⟩

/-- The required keys that a withdrawal does not give back: their value was empty or the required one. -/
def forgotten (required annotations : SortedMap String) : List String :=
  required.keys.filter fun key => annotations.get? key = some "" || annotations.get? key = required.get? key

theorem mem_forgotten_iff {annotations : SortedMap String} {key wanted : String}
    (wish : required.get? key = some wanted) :
    key ∈ forgotten required annotations ↔ annotations.get? key = some "" ∨ annotations.get? key = some wanted := by
  have member : key ∈ required.keys := SortedMap.mem_keys_iff.mpr ⟨wanted, wish⟩
  simp [forgotten, member, wish]

/-- A withdrawal after any merges and foreign edits leaves what the edits alone leave of the original annotations, but
for required keys that had no value worth keeping. -/
theorem remove_of_steps {template last : PodTemplate} {steps : List Step} (plain : Plain required)
    (unmarked : ∀ key ∈ template.annotations.keys, isBackupKey key = false)
    (foreign : ∀ step ∈ steps, step.Foreign required) (merges : .merge ∈ steps)
    (course : steps.foldlM (fun now step => step.perform required now) template = .ok last) :
    let edited := steps.foldl (fun annotations step => step.edit annotations) template.annotations
    let left := (forgotten required template.annotations).foldl SortedMap.erase edited
    remove required last = template.withAnnotations (if left.isEmpty then none else some left) := by
  intro edited left
  obtain ⟨more, recoverable, all, whole⟩ := recoverable_of_steps plain foreign (.start unmarked) course
  obtain ⟨annotations, rfl⟩ := whole (List.ne_nil_of_mem merges)
  have stored : (template.withAnnotations (some annotations)).annotations = annotations := rfl
  rw [stored] at recoverable
  have withdrawn : withdraw required annotations = left := by
    refine SortedMap.ext_get? fun key => ?_
    rw [get?_withdraw_of_recoverable plain (Step.unmarked_foldl_edit foreign unmarked) recoverable
      (fun _ wish => List.mem_append_left _ (all merges wish)), SortedMap.get?_foldl_erase]
    cases wish : required.get? key with
    | none =>
      have kept : key ∉ forgotten required template.annotations :=
        fun member => SortedMap.get?_eq_none_iff.mp wish (List.mem_filter.mp member).1
      rw [if_neg kept]
    | some wanted =>
      have member : key ∈ required.keys := SortedMap.mem_keys_iff.mpr ⟨wanted, wish⟩
      have value : edited.get? key = template.annotations.get? key := Step.get?_foldl_edit foreign member
      simp only [edited] at value
      simp only [edited, value, mem_forgotten_iff wish]
      cases template.annotations.get? key with
      | none => simp
      | some text => simp
  simp [remove, withdrawn]

/-- A pod template with a volume of its own, an empty list of mounts and a note. -/
def claimed : PodTemplate :=
  ((PodTemplate.empty.annotate "sidecar.istio.io/userVolume" "[\x7b\"name\":\"data\"\x7d]").annotate
    "sidecar.istio.io/userVolumeMount" "").annotate "team" "edge"

/-- Two merges, with edits of others before, between and after them. -/
def interspersed : List Step :=
  [.set "note" "blue", .merge, .set "team" "core", .unset "note", .merge, .set "owner" "ops", .unset "absent"]

/-- The volume is back, the empty list is gone, and the edits stay. -/
theorem remove_of_interspersed :
    let perform (now : PodTemplate) (step : Step) := step.perform SidecarAnnotations.required now
    ∃ last, interspersed.foldlM perform claimed = .ok last ∧
      last.annotations.contains (backupKey "sidecar.istio.io/userVolume") = true ∧
      remove SidecarAnnotations.required last = claimed.withAnnotations (some (.ofList
        [("owner", "ops"), ("sidecar.istio.io/userVolume", "[\x7b\"name\":\"data\"\x7d]"), ("team", "core")])) := by
  intro perform
  have saves : (interspersed.foldlM perform claimed).toOption.any
      (·.annotations.contains (backupKey "sidecar.istio.io/userVolume")) = true := by decide +kernel
  cases course : interspersed.foldlM perform claimed with
  | error e =>
    rw [course] at saves
    cases saves
  | ok last =>
    rw [course] at saves
    have restored := remove_of_steps plain_required (by decide +kernel) (by decide +kernel) (by decide) course
    exact ⟨last, rfl, saves, restored.trans (congrArg claimed.withAnnotations (by decide +kernel))⟩

end FilterRollout.SidecarAnnotations
