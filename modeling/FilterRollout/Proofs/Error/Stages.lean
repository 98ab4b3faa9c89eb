import FilterRollout.Error

/-! Errors inside stages. However many stages an error has passed through, callers tell it by what it was at first, and
its text names every stage. Main statement: `Error.inStages_classified`, with the relations between the classifications
that callers rely on when they try again. -/

namespace FilterRollout

namespace Error

/-- An error that has passed stages, outermost first. -/
def inStages (stages : List String) (e : Error) : Error := stages.foldr .context e

/-- The stages that an error is inside, the outermost one first. -/
def stages : Error → List String
  | context stage source => stage :: source.stages
  | _ => []

@[simp] theorem inStages_nil (e : Error) : e.inStages [] = e := rfl

@[simp] theorem inStages_cons (stage : String) (stages : List String) (e : Error) :
    e.inStages (stage :: stages) = .context stage (e.inStages stages) := rfl

@[simp] theorem root_inStages (stages : List String) (e : Error) : (e.inStages stages).root = e.root := by
  induction stages with
  | nil => rfl
  | cons stage rest ih => exact ih

@[simp] theorem category_inStages (stages : List String) (e : Error) : (e.inStages stages).category = e.category := by
  simp only [category, root_inStages]

@[simp] theorem isNotFound_inStages (stages : List String) (e : Error) :
    (e.inStages stages).isNotFound = e.isNotFound := by
  simp only [isNotFound, root_inStages]

@[simp] theorem isRetryable_inStages (stages : List String) (e : Error) :
    (e.inStages stages).isRetryable = e.isRetryable := by
  simp only [isRetryable, root_inStages]

theorem message_inStages (stages : List String) (e : Error) :
    (e.inStages stages).message = String.join (stages.map (· ++ ": ")) ++ e.message := by
  induction stages with
  | nil => simp
  | cons stage rest ih =>
    have whole : (e.inStages (stage :: rest)).message = stage ++ ": " ++ (e.inStages rest).message := rfl
    rw [whole, ih, List.map_cons, String.join_cons]
    simp only [String.append_assoc]

theorem inStages_stages_root (e : Error) : e.root.inStages e.stages = e := by
  induction e with
  | context stage source ih => exact congrArg (context stage) ih
  | _ => rfl

theorem ownCategory?_root (e : Error) : e.root.ownCategory? = some e.category := (Option.some_get _).symm

end Error

/-- A computation that fails in stages fails with its error in these stages. -/
theorem foldr_inStage {Value : Type} (stages : List String) (result : Except Error Value) :
    stages.foldr inStage result = result.mapError (Error.inStages stages) := by
  induction stages with
  | nil => cases result <;> rfl
  | cons stage rest ih =>
    rw [List.foldr_cons, ih]
    cases result <;> rfl

namespace Error

theorem isRetryable_refused_iff {status : ApiStatus} : (kubernetes (.refused status)).isRetryable = true ↔
    status.code = 409 ∨ ¬ (400 ≤ status.code ∧ status.code ≤ 499) := by
  have decided : (kubernetes (.refused status)).isRetryable =
      !(400 ≤ status.code && status.code < 500 && status.code != 409) := rfl
  rw [decided]
  simp only [Bool.not_eq_true', Bool.and_eq_false_iff, decide_eq_false_iff_not, bne_eq_false_iff_eq]
  omega

/-- What is missing is missing at a collaborator, and a second try does not find it. -/
theorem of_isNotFound {e : Error} (missing : e.isNotFound = true) :
    e.category = .collaborator ∧ e.isRetryable = false := by
  induction e with
  | context _ _ ih => exact ih missing
  | notFound => exact ⟨rfl, rfl⟩
  | kubernetes source =>
    cases source with
    | refused status =>
      have code : status.code = 404 := of_decide_eq_true missing
      refine ⟨rfl, Bool.eq_false_iff.mpr fun again => ?_⟩
      have allowed := isRetryable_refused_iff.mp again
      omega
    | _ => cases missing
  | _ => cases missing

/-- What the caller has to change first is no use trying again, and a timeout is. -/
theorem isRetryable_of_category (e : Error) :
    (e.category = .validation ∨ e.category = .compatibility → e.isRetryable = false) ∧
      (e.category = .syncTimeout → e.isRetryable = true) := by
  induction e with
  | context _ _ ih => exact ih
  | _ => simp [category, ownCategory?, root, isRetryable]

/-- An error in any stages has the root of the error that it was, which is in no stage, so that its family is that of
its root. It is classified as that error, its text is the stages with a colon behind each and then the text of that
error, and the stages that a failed computation goes through are put around it. There are no other errors than roots in
stages. What is missing belongs to a collaborator and is not tried again, nor is what is invalid or incompatible;
timeouts are, and of the API's refusals conflicts and those that do not blame the client. -/
theorem inStages_classified (stages : List String) (e : Error) :
    ((e.inStages stages).root = e.root ∧ (∀ stage source, e.root ≠ context stage source) ∧
        e.root.ownCategory? = some (e.inStages stages).category) ∧
      ((e.inStages stages).category = e.category ∧ (e.inStages stages).isNotFound = e.isNotFound ∧
        (e.inStages stages).isRetryable = e.isRetryable) ∧
      (e.inStages stages).message = String.join (stages.map (· ++ ": ")) ++ e.message ∧
      (∀ (Value : Type) (result : Except Error Value),
        stages.foldr inStage result = result.mapError (inStages stages)) ∧
      e.root.inStages e.stages = e ∧
      (e.isNotFound = true → e.category = .collaborator ∧ e.isRetryable = false) ∧
      (e.category = .validation ∨ e.category = .compatibility → e.isRetryable = false) ∧
      (e.category = .syncTimeout → e.isRetryable = true) ∧
      ∀ status, e.root = .kubernetes (.refused status) →
        (e.isRetryable = true ↔ status.code = 409 ∨ ¬ (400 ≤ status.code ∧ status.code ≤ 499)) := by
  obtain ⟨final, passing⟩ := isRetryable_of_category e
  refine ⟨⟨root_inStages stages e, e.root_ne_context, ?_⟩, ⟨category_inStages stages e, isNotFound_inStages stages e,
    isRetryable_inStages stages e⟩, message_inStages stages e, fun _ => foldr_inStage stages, e.inStages_stages_root,
    of_isNotFound, final, passing, ?_⟩
  · rw [category_inStages, ownCategory?_root]
  · intro status refused
    rw [← isRetryable_refused_iff, ← refused, ← isRetryable_inStages e.stages e.root, inStages_stages_root]

/-- A resource that the API does not have, in two stages, and beside it a conflict, a timeout and a digest that is
none, each in one stage. -/
theorem inStages_classified_missing :
    let e := kubernetes (.refused ⟨"Failure", "no such object", "NotFound", 404⟩)
    let outer := e.inStages ["applying filter", "updating workload"]
    let conflict := (kubernetes (.refused ⟨"Failure", "modified", "Conflict", 409⟩)).inStages ["updating workload"]
    let timeout := (syncTimeout "filter:1.2" (.ofSeconds 3) "no events").inStages ["synchronizing cache"]
    let malformed := (validation "malformed digest" (some "digest")).inStages ["applying filter"]
    (e.isNotFound = true ∧ outer.isNotFound = true ∧ outer.category = .collaborator ∧ outer.isRetryable = false ∧
      outer.message = "applying filter: updating workload: " ++ e.message) ∧
      (conflict.root = .kubernetes (.refused ⟨"Failure", "modified", "Conflict", 409⟩) ∧ conflict.isRetryable = true) ∧
      (timeout.category = .syncTimeout ∧ timeout.isRetryable = true) ∧
      malformed.category = .validation ∧ malformed.isRetryable = false := by
  intro e outer conflict timeout malformed
  have missing : e.isNotFound = true := rfl
  have refused : conflict.root = .kubernetes (.refused ⟨"Failure", "modified", "Conflict", 409⟩) := rfl
  have late : timeout.category = .syncTimeout := rfl
  have invalid : malformed.category = .validation := rfl
  obtain ⟨-, ⟨category, notFound, again⟩, message, -, -, lost, -⟩ :=
    inStages_classified ["applying filter", "updating workload"] e
  obtain ⟨family, final⟩ := lost missing
  obtain ⟨-, -, -, -, -, -, -, -, refusal⟩ := inStages_classified [] conflict
  obtain ⟨-, -, -, -, -, -, -, passing, -⟩ := inStages_classified [] timeout
  obtain ⟨-, -, -, -, -, -, fixed, -, -⟩ := inStages_classified [] malformed
  exact ⟨⟨missing, notFound.trans missing, category.trans family, again.trans final, message⟩,
    ⟨refused, (refusal _ refused).mpr (.inl rfl)⟩, ⟨late, passing late⟩, invalid, fixed (.inl invalid)⟩

end Error

end FilterRollout
