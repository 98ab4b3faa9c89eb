import FilterRollout.Proofs.Program.Exchange

/-! Courses that programs keep to. A course is a list of answered calls, none of which failed. A run follows it if it
makes all of them in their order, or ends at the first one that fails. It does not end in between. -/

namespace FilterRollout

/-- Every call has an answer. -/
theorem Call.nonempty_answer (request : Call) : Nonempty request.Answer := by
  cases request with
  | pullImage reference => exact ⟨(⟨reference, ""⟩ : PulledImage)⟩
  | readImageConfig image => exact ⟨(⟨[]⟩ : ImageConfig)⟩
  | controlPlaneVersion namespaceName => exact ⟨("" : String)⟩
  | readRegistry cache => exact ⟨(⟨.empty, none, none, none⟩ : ConfigMap)⟩
  | listImageEvents cache image => exact ⟨([] : List CacheEvent)⟩
  | readyReplicas cache => exact ⟨(0 : Int)⟩
  | listWorkloads kind namespaceName selector => exact ⟨([] : List Workload)⟩
  | _ => exact ⟨()⟩

/-- A run makes the first exchanges of a course and then the call of the next one, which fails. -/
inductive Breaks : List Exchange → List Exchange → Prop
  | here (request : Call) (e : Error) (answer : request.Answer) (course : List Exchange) :
      Breaks [⟨request, .error e⟩] (⟨request, .ok answer⟩ :: course)
  | later (exchange : Exchange) {run course : List Exchange} (breaks : Breaks run course) :
      Breaks (exchange :: run) (exchange :: course)

/-- A run makes a whole course, unless a call of it fails. -/
inductive Follows (run course : List Exchange) : Prop
  | whole (all : run = course)
  | broken (breaks : Breaks run course)

/-- A course that begins with a check: it is empty if the check fails. -/
def provided {Value : Type} (check : Except Error Value) (course : Value → List Exchange) : List Exchange :=
  match check with
  | .ok value => course value
  | .error _ => []

namespace Breaks

variable {run course : List Exchange}

theorem extend (breaks : Breaks run course) (more : List Exchange) : Breaks run (course ++ more) := by
  induction breaks with
  | here request e answer course => exact .here request e answer _
  | later exchange _ ih => exact .later exchange ih

theorem prepend (breaks : Breaks run course) (before : List Exchange) : Breaks (before ++ run) (before ++ course) := by
  induction before with
  | nil => exact breaks
  | cons exchange rest ih => exact .later exchange ih

/-- A run that fails on a course makes no whole course. -/
theorem append_ne (breaks : Breaks run course) (rest more : List Exchange) : run ++ rest ≠ course ++ more := by
  induction breaks with
  | here request e answer course => exact fun same => by cases (List.cons.inj same).1
  | later exchange _ ih => exact fun same => ih (List.cons.inj same).2

theorem requests_prefix (breaks : Breaks run course) : run.map (·.request) <+: course.map (·.request) := by
  induction breaks with
  | here request e answer course => exact ⟨course.map (·.request), rfl⟩
  | later exchange _ ih => exact List.prefix_cons_iff.mpr (.inr ⟨_, rfl, ih⟩)

end Breaks

namespace Follows

variable {run course : List Exchange}

theorem eq_nil (follows : Follows run []) : run = [] := by
  cases follows with
  | whole all => exact all
  | broken breaks => cases breaks

/-- The first exchange of a run has the first call of the course, and is the first of the course if more follows. -/
theorem of_cons {exchange next : Exchange} (follows : Follows (exchange :: run) (next :: course)) :
    exchange.request = next.request ∧ (run ≠ [] → exchange = next ∧ Follows run course) := by
  cases follows with
  | whole all =>
    obtain ⟨rfl, rfl⟩ := List.cons.inj all
    exact ⟨rfl, fun _ => ⟨rfl, .whole rfl⟩⟩
  | broken breaks =>
    cases breaks with
    | here request e answer course => exact ⟨rfl, fun more => absurd rfl more⟩
    | later exchange breaks => exact ⟨rfl, fun _ => ⟨rfl, .broken breaks⟩⟩

theorem prepend (follows : Follows run course) (before : List Exchange) :
    Follows (before ++ run) (before ++ course) := by
  cases follows with
  | whole all => exact .whole (congrArg (before ++ ·) all)
  | broken breaks => exact .broken (breaks.prepend before)

/-- The calls of a run are the first calls of the course that it follows. -/
theorem requests_prefix (follows : Follows run course) : run.map (·.request) <+: course.map (·.request) := by
  cases follows with
  | whole all => exact all ▸ List.prefix_rfl
  | broken breaks => exact breaks.requests_prefix

end Follows

namespace Program

variable {State Value Result : Type}

/-- A program makes all exchanges of a course if it succeeds, and it fails only at a call of it. -/
structure Keeps (answer : Answerer State) (program : Program Value) (state : State) (course : List Exchange) :
    Prop where
  complete : ∀ {value after}, program.outcome answer state = (.ok value, after) →
    program.exchanges answer state = course
  breaks : ∀ {e after}, program.outcome answer state = (.error e, after) →
    Breaks (program.exchanges answer state) course

namespace Keeps

variable {answer : Answerer State} {program : Program Value} {state : State} {course : List Exchange}

theorem done (value : Value) : Keeps answer (.done (.ok value)) state [] := ⟨fun _ => rfl, nofun⟩

/-- A call keeps to the course on which it is answered, by what it answers unless it fails. -/
theorem perform (request : Call) (answer : Answerer State) (state : State) :
    ∃ answered, Keeps answer (.perform request) state [⟨request, .ok answered⟩] ∧
      ∀ {value after}, (Program.perform request).outcome answer state = (.ok value, after) → value = answered := by
  cases ended : (answer request state).1 with
  | ok answered =>
    refine ⟨answered, ⟨fun _ => exchanges_perform_of ended, fun failure => ?_⟩, fun success => ?_⟩
    · rw [outcome_perform, Prod.ext_iff, ended] at failure
      cases failure.1
    · rw [outcome_perform, Prod.ext_iff, ended] at success
      exact (Except.ok.inj success.1).symm
  | error e =>
    have failed {value : request.Answer} {after : State}
        (success : (Program.perform request).outcome answer state = (.ok value, after)) : False := by
      rw [outcome_perform, Prod.ext_iff, ended] at success
      cases success.1
    obtain ⟨answered⟩ := request.nonempty_answer
    refine ⟨answered, ⟨fun success => (failed success).elim, fun _ => ?_⟩, fun success => (failed success).elim⟩
    rw [exchanges_perform, ended]
    exact .here request e answered []

/-- A call that answers nothing but that it went well. -/
theorem perform_unit (request : Call) (answered : request.Answer) (silent : ∀ other : request.Answer, other = answered)
    (answer : Answerer State) (state : State) : Keeps answer (.perform request) state [⟨request, .ok answered⟩] := by
  obtain ⟨other, keeps, -⟩ := perform request answer state
  rwa [silent other] at keeps

theorem stage (keeps : Keeps answer program state course) (description : String) :
    Keeps answer (program.stage description) state course := by
  constructor
  · intro value after success
    rw [exchanges_stage]
    exact keeps.complete (outcome_stage_ok_iff.mp success)
  · intro e after failure
    rw [exchanges_stage]
    cases ended : program.outcome answer state with
    | mk result last =>
      cases result with
      | ok value =>
        rw [outcome_stage_ok ended] at failure
        cases failure
      | error source => exact keeps.breaks ended

theorem bind {next : Value → Program Result} {rest : List Exchange} (first : Keeps answer program state course)
    (second : ∀ value after, program.outcome answer state = (.ok value, after) →
      Keeps answer (next value) after rest) :
    Keeps answer (program.bind next) state (course ++ rest) := by
  cases ended : program.outcome answer state with
  | mk result middle =>
    cases result with
    | error e =>
      constructor
      · intro value after success
        rw [outcome_bind_error ended] at success
        cases success
      · intro other after _
        rw [exchanges_bind_error ended]
        exact (first.breaks ended).extend rest
    | ok value =>
      have goes := second value middle ended
      constructor
      · intro found after success
        rw [outcome_bind_ok ended] at success
        rw [exchanges_bind_ok ended, first.complete ended, goes.complete success]
      · intro e after failure
        rw [outcome_bind_ok ended] at failure
        rw [exchanges_bind_ok ended, first.complete ended]
        exact (goes.breaks failure).prepend course

/-- A last step that only computes is no part of a course. -/
theorem map (keeps : Keeps answer program state course) (result : Value → Result) :
    Keeps answer (program.bind fun value => .done (.ok (result value))) state course := by
  have goes : Keeps answer (program.bind fun value => .done (.ok (result value))) state (course ++ []) :=
    keeps.bind fun value _ _ => done (result value)
  rwa [List.append_nil] at goes

end Keeps

end Program

end FilterRollout
