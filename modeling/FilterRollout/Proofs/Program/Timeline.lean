import FilterRollout.Proofs.Program.Exchange

/-! When the calls of a run are made. Calls take no time, so that only pauses lie between two moments. -/

namespace FilterRollout.Program

variable {State Value Result : Type} (answer : Answerer State)

/-- The calls of a run with their answers, each with the nanosecond at which it is made if the run begins `now`. -/
def timeline : Program Value → State → Nat → List (Nat × Exchange)
  | done _, _, _ => []
  | call request resume, state, now =>
    (now, ⟨request, (answer request state).1⟩) ::
      timeline (resume (answer request state).1) (answer request state).2 now
  | pause duration next, state, now => timeline next state (now + duration.nanoseconds)
  | report _ _ next, state, now => timeline next state now

/-- The nanoseconds that a run takes. -/
def elapsed (program : Program Value) (state : State) : Nat := (program.run answer state).trace.elapsed

/-- The timeline is about the very calls of the run. -/
theorem map_snd_timeline (program : Program Value) (state : State) (now : Nat) :
    (program.timeline answer state now).map (·.2) = program.exchanges answer state := by
  induction program generalizing state now with
  | done result => rfl
  | call request resume ih => exact congrArg (_ :: ·) (ih _ _ now)
  | pause duration next ih => exact ih state _
  | report workload error next ih => exact ih state now

/-- A second program begins when the first one has ended; an error leaves no time to it. -/
theorem timeline_bind (program : Program Value) (next : Value → Program Result) (state : State) (now : Nat) :
    (program.bind next).timeline answer state now = program.timeline answer state now ++
      match program.outcome answer state with
      | (.ok value, after) => (next value).timeline answer after (now + program.elapsed answer state)
      | (.error _, _) => [] := by
  induction program generalizing state now with
  | done result => cases result <;> rfl
  | call request resume ih => exact congrArg (_ :: ·) (ih _ _ now)
  | pause duration rest ih =>
    have later := ih state (now + duration.nanoseconds)
    rw [Nat.add_assoc] at later
    exact later
  | report workload error rest ih => exact ih state now

theorem elapsed_bind (program : Program Value) (next : Value → Program Result) (state : State) :
    (program.bind next).elapsed answer state = program.elapsed answer state +
      match program.outcome answer state with
      | (.ok value, after) => (next value).elapsed answer after
      | (.error _, _) => 0 := by
  induction program generalizing state with
  | done result => cases result <;> exact (Nat.zero_add _).symm
  | call request resume ih => exact ih _ _
  | pause duration rest ih =>
    have later := congrArg (duration.nanoseconds + ·) (ih state)
    rw [← Nat.add_assoc] at later
    exact later
  | report workload error rest ih => exact ih state

/-- A program that never pauses. -/
inductive Prompt : Program Value → Prop
  | done (result : Except Error Value) : Prompt (done result)
  | call {request : Call} {resume : request.Outcome → Program Value} (later : ∀ outcome, Prompt (resume outcome)) :
      Prompt (call request resume)

namespace Prompt

theorem perform (request : Call) : Prompt (perform request) := .call fun _ => .done _

theorem bind {program : Program Value} {next : Value → Program Result} (first : Prompt program)
    (second : ∀ value, Prompt (next value)) : Prompt (program.bind next) := by
  induction first with
  | done result =>
    cases result with
    | ok value => exact second value
    | error e => exact .done _
  | call _ ih => exact .call ih

variable {program : Program Value} (prompt : Prompt program) (state : State)

include prompt

theorem elapsed_eq_zero : program.elapsed answer state = 0 := by
  induction prompt generalizing state with
  | done result => rfl
  | call _ ih => exact ih _ _

/-- All its calls are made at once. -/
theorem timeline_eq (now : Nat) :
    program.timeline answer state now = (program.exchanges answer state).map (now, ·) := by
  induction prompt generalizing state with
  | done result => rfl
  | call _ ih => exact congrArg (_ :: ·) (ih _ _)

end Prompt

end FilterRollout.Program
