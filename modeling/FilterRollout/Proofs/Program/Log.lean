import FilterRollout.Proofs.Program.Failure

/-! All that happens in a run, in one list: the calls with their answers, the time that passes, and the reports. The
calls alone and the reports alone are parts of it, in the same order. -/

namespace FilterRollout

inductive Happening
  | exchanged (exchange : Exchange)
  | paused (duration : Duration)
  | reported (workload : ObjectMeta) (error : Option Error)

namespace Happening

def exchange? : Happening → Option Exchange
  | exchanged exchange => some exchange
  | _ => none

def report? : Happening → Option (ObjectMeta × Option Error)
  | reported workload error => some (workload, error)
  | _ => none

end Happening

namespace Program

variable {State Value Result : Type} (answer : Answerer State)

/-- What happens in a run, first to last. -/
def log : Program Value → State → List Happening
  | done _, _ => []
  | call request resume, state =>
    .exchanged ⟨request, (answer request state).1⟩ :: log (resume (answer request state).1) (answer request state).2
  | pause duration next, state => .paused duration :: log next state
  | report workload error next, state => .reported workload error :: log next state

theorem filterMap_exchange?_log (program : Program Value) (state : State) :
    (program.log answer state).filterMap Happening.exchange? = program.exchanges answer state := by
  induction program generalizing state with
  | done result => rfl
  | call request resume ih => exact congrArg (_ :: ·) (ih _ _)
  | pause duration next ih => exact ih state
  | report workload error next ih => exact ih state

theorem filterMap_report?_log (program : Program Value) (state : State) :
    (program.log answer state).filterMap Happening.report? = program.reports answer state := by
  induction program generalizing state with
  | done result => rfl
  | call request resume ih => exact ih _ _
  | pause duration next ih => exact ih state
  | report workload error next ih => exact congrArg (_ :: ·) (ih state)

@[simp] theorem log_attempt (program : Program Value) (state : State) :
    program.attempt.log answer state = program.log answer state := by
  induction program generalizing state with
  | done result => rfl
  | call request resume ih => exact congrArg (_ :: ·) (ih _ _)
  | pause duration next ih => exact congrArg (_ :: ·) (ih state)
  | report workload error next ih => exact congrArg (_ :: ·) (ih state)

/-- What happens in a program comes before all that happens in one after it; an error leaves nothing to the second. -/
theorem log_bind (program : Program Value) (next : Value → Program Result) (state : State) :
    (program.bind next).log answer state = program.log answer state ++
      match program.outcome answer state with
      | (.ok value, after) => (next value).log answer after
      | (.error _, _) => [] := by
  induction program generalizing state with
  | done result => cases result <;> rfl
  | call request resume ih => exact congrArg (_ :: ·) (ih _ _)
  | pause duration rest ih => exact congrArg (_ :: ·) (ih state)
  | report workload error rest ih => exact congrArg (_ :: ·) (ih state)

variable {answer}

theorem log_perform_of {request : Call} {state after : State} {outcome : request.Outcome}
    (answered : answer request state = (outcome, after)) :
    (perform request).log answer state = [.exchanged ⟨request, outcome⟩] := by
  have same : (answer request state).1 = outcome := congrArg Prod.fst answered
  exact same ▸ rfl

theorem log_bind_ok {program : Program Value} {next : Value → Program Result} {value : Value} {state after : State}
    (success : program.outcome answer state = (.ok value, after)) :
    (program.bind next).log answer state = program.log answer state ++ (next value).log answer after := by
  rw [log_bind, success]

theorem log_bind_error {program : Program Value} {next : Value → Program Result} {e : Error} {state after : State}
    (failure : program.outcome answer state = (.error e, after)) :
    (program.bind next).log answer state = program.log answer state := by
  rw [log_bind, failure, List.append_nil]

/-- A last step that only computes adds nothing. -/
theorem log_bind_done (program : Program Value) (result : Value → Except Error Result) (state : State) :
    (program.bind fun value => done (result value)).log answer state = program.log answer state := by
  rw [log_bind]
  rcases program.outcome answer state with ⟨value | value, after⟩ <;> exact List.append_nil _

end Program

end FilterRollout
