import FilterRollout.Rollout.Call

/-! Programs of calls. A program says what it calls and how it goes on after each outcome; it does not say how calls
are answered. Whatever answers them, a cluster in memory, an API or a list of prepared outcomes, runs the same
program. -/

namespace FilterRollout

inductive Program (Value : Type)
  /-- End with a value or an error. -/
  | done (result : Except Error Value)
  /-- Make a call and go on with its outcome. -/
  | call (request : Call) (resume : request.Outcome → Program Value)
  /-- Let time pass. -/
  | pause (duration : Duration) (next : Program Value)
  /-- Report how a workload ended, with the error that it failed with. -/
  | report (workload : ObjectMeta) (error : Option Error) (next : Program Value)

namespace Program

variable {Value Result : Type}

/-- Run one program after another, with the value of the first. An error ends both. -/
def bind (program : Program Value) (next : Value → Program Result) : Program Result :=
  match program with
  | done (.ok value) => next value
  | done (.error e) => done (.error e)
  | call request resume => call request fun outcome => (resume outcome).bind next
  | pause duration rest => pause duration (rest.bind next)
  | report workload error rest => report workload error (rest.bind next)

instance : Monad Program where
  pure value := done (.ok value)
  bind := bind

/-- End with an error. -/
def fail (e : Error) : Program Value := done (.error e)

/-- Make one call. -/
def perform (request : Call) : Program request.Answer := call request done

/-- End with a result that needs no call. -/
def ofExcept (result : Except Error Value) : Program Value := done result

/-- Run a program and go on in any case, with its value or its error. -/
def attempt : Program Value → Program (Except Error Value)
  | done result => done (.ok result)
  | call request resume => call request fun outcome => (resume outcome).attempt
  | pause duration rest => pause duration rest.attempt
  | report workload error rest => report workload error rest.attempt

/-- Name the stage in which a program failed. -/
def stage (description : String) : Program Value → Program Value
  | done result => done (inStage description result)
  | call request resume => call request fun outcome => (resume outcome).stage description
  | pause duration rest => pause duration (rest.stage description)
  | report workload error rest => report workload error (rest.stage description)

@[simp] theorem bind_done_ok (value : Value) (next : Value → Program Result) :
    (done (.ok value)).bind next = next value := rfl

@[simp] theorem bind_done_error (e : Error) (next : Value → Program Result) :
    (done (.error e)).bind next = done (.error e) := rfl

/-- Programs run one after another in either grouping. -/
theorem bind_assoc {Final : Type} (program : Program Value) (next : Value → Program Result)
    (last : Result → Program Final) :
    (program.bind next).bind last = program.bind fun value => (next value).bind last := by
  induction program with
  | done result => cases result <;> rfl
  | call request resume ih => exact congrArg (call request) (funext fun outcome => ih outcome)
  | pause duration rest ih => exact congrArg (pause duration) ih
  | report workload error rest ih => exact congrArg (report workload error) ih

end Program

end FilterRollout
