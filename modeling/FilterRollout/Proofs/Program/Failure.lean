import FilterRollout.Proofs.Error.Stages
import FilterRollout.Proofs.Program.Exchange

/-! How programs fail. Most of them pass on the error of the first call that fails, wrapped in the stages in which the
call was made, and make no call after it. -/

namespace FilterRollout

namespace Program

variable {State Value Result : Type} {answer : Answerer State}

/-- A program that ends right after the first call that fails, with its error in the stages of the call, and that
reports nothing. -/
inductive Raises (stages : CallName → List String) : Program Value → Prop
  | done (result : Except Error Value) : Raises stages (done result)
  | call {request : Call} {resume : request.Outcome → Program Value}
      (fails : ∀ e, resume (.error e) = Program.done (.error (e.inStages (stages request.name))))
      (later : ∀ answered, Raises stages (resume (.ok answered))) : Raises stages (call request resume)
  | pause (duration : Duration) {next : Program Value} (later : Raises stages next) :
      Raises stages (pause duration next)

namespace Raises

variable {stages : CallName → List String}

theorem perform {request : Call} (outermost : stages request.name = []) : Raises stages (perform request) :=
  .call (fun e => by rw [outermost]; rfl) fun _ => .done _

theorem perform_stage {request : Call} {description : String} (named : stages request.name = [description]) :
    Raises stages ((Program.perform request).stage description) :=
  .call (fun e => by rw [named]; rfl) fun _ => .done _

theorem bind {program : Program Value} {next : Value → Program Result} (first : Raises stages program)
    (second : ∀ value, Raises stages (next value)) : Raises stages (program.bind next) := by
  induction first with
  | done result =>
    cases result with
    | ok value => exact second value
    | error e => exact .done _
  | call fails _ ih => exact .call (fun e => by rw [fails e]; rfl) ih
  | pause duration _ ih => exact .pause duration ih

/-- The first call that fails is the last one, and its error is what the program ends with. -/
theorem ends_of_exchanges {program : Program Value} (raises : Raises stages program) {state : State}
    {earlier later : List Exchange} {request : Call} {e : Error}
    (place : program.exchanges answer state = earlier ++ ⟨request, .error e⟩ :: later) :
    later = [] ∧ (program.outcome answer state).1 = .error (e.inStages (stages request.name)) := by
  induction raises generalizing state earlier with
  | done result => simp at place
  | @call made resume fails _ ih =>
    cases answered : (answer made state).1 with
    | error failure =>
      rw [exchanges_call, answered, fails failure] at place
      cases earlier with
      | nil =>
        obtain ⟨same, rfl⟩ := List.cons.inj place
        cases same
        rw [outcome_call, answered, fails e]
        exact ⟨rfl, rfl⟩
      | cons first rest => simp at place
    | ok value =>
      rw [exchanges_call, answered] at place
      cases earlier with
      | nil =>
        obtain ⟨same, -⟩ := List.cons.inj place
        obtain ⟨rfl, outcome⟩ := Exchange.mk.inj same
        cases outcome
      | cons first rest =>
        obtain ⟨-, behind⟩ := List.cons.inj place
        have ended := ih value behind
        rwa [outcome_call, answered]
  | pause duration _ ih => exact ih place

end Raises

/-- The reports of a run, first to last. -/
def reports (answer : Answerer State) (program : Program Value) (state : State) : List (ObjectMeta × Option Error) :=
  (program.run answer state).trace.reports

@[simp] theorem reports_done (result : Except Error Value) (state : State) :
    (done result).reports answer state = [] := rfl

@[simp] theorem reports_report (workload : ObjectMeta) (error : Option Error) (next : Program Value) (state : State) :
    (report workload error next).reports answer state = (workload, error) :: next.reports answer state := rfl

@[simp] theorem reports_perform (request : Call) (state : State) : (perform request).reports answer state = [] := rfl

@[simp] theorem reports_ofExcept (result : Except Error Value) (state : State) :
    (ofExcept result).reports answer state = [] := rfl

@[simp] theorem reports_stage (description : String) (program : Program Value) (state : State) :
    (program.stage description).reports answer state = program.reports answer state := by
  induction program generalizing state with
  | done result => rfl
  | call request resume ih => exact ih _ _
  | pause duration rest ih => exact ih state
  | report workload error rest ih => exact congrArg (_ :: ·) (ih state)

@[simp] theorem reports_attempt (program : Program Value) (state : State) :
    program.attempt.reports answer state = program.reports answer state := by
  induction program generalizing state with
  | done result => rfl
  | call request resume ih => exact ih _ _
  | pause duration rest ih => exact ih state
  | report workload error rest ih => exact congrArg (_ :: ·) (ih state)

theorem reports_bind (program : Program Value) (next : Value → Program Result) (state : State) :
    (program.bind next).reports answer state = program.reports answer state ++
      match program.outcome answer state with
      | (.ok value, after) => (next value).reports answer after
      | (.error _, _) => [] := by
  induction program generalizing state with
  | done result => cases result <;> rfl
  | call request resume ih => exact ih _ _
  | pause duration rest ih => exact ih state
  | report workload error rest ih => exact congrArg (_ :: ·) (ih state)

theorem reports_bind_ok {program : Program Value} {next : Value → Program Result} {value : Value} {state after : State}
    (success : program.outcome answer state = (.ok value, after)) :
    (program.bind next).reports answer state = program.reports answer state ++ (next value).reports answer after := by
  rw [reports_bind, success]

theorem reports_bind_error {program : Program Value} {next : Value → Program Result} {e : Error} {state after : State}
    (failure : program.outcome answer state = (.error e, after)) :
    (program.bind next).reports answer state = program.reports answer state := by
  rw [reports_bind, failure, List.append_nil]

theorem reports_bind_done (program : Program Value) (result : Value → Except Error Result) (state : State) :
    (program.bind fun value => done (result value)).reports answer state = program.reports answer state := by
  rw [reports_bind]
  split <;> exact List.append_nil _

theorem Raises.reports_eq_nil {stages : CallName → List String} {program : Program Value}
    (raises : Raises stages program) (state : State) : program.reports answer state = [] := by
  induction raises generalizing state with
  | done result => rfl
  | @call made resume fails _ ih =>
    have step : (Program.call made resume).reports answer state =
        (resume (answer made state).1).reports answer (answer made state).2 := rfl
    rw [step]
    cases (answer made state).1 with
    | error e => rw [fails e, reports_done]
    | ok value => exact ih value _
  | pause duration _ ih => exact ih state

end Program

end FilterRollout
