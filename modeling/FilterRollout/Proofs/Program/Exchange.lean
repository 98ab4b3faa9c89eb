import FilterRollout.Rollout.Run

/-! How programs run, piece by piece. A run is seen in two ways: by its outcome, which is the result with the state that
it leaves, and by its exchanges, which are the calls with what was answered. Both follow the way in which a program is
put together, so that later proofs look at one piece at a time. -/

namespace FilterRollout

/-- A call with what was answered. -/
structure Exchange where
  request : Call
  outcome : request.Outcome

/-- An exchange of two runs in a row is one of the second or one of the first. -/
theorem Exchange.append_cases {first second earlier later : List Exchange} {use : Exchange}
    (split : first ++ second = earlier ++ use :: later) :
    (∃ between, earlier = first ++ between ∧ second = between ++ use :: later) ∨
      ∃ rest, first = earlier ++ use :: rest := by
  rcases List.append_eq_append_iff.mp split with ⟨between, inside, rest⟩ | ⟨between, inside, rest⟩
  · exact .inl ⟨between, inside, rest⟩
  · cases between with
    | nil => exact .inl ⟨[], by simpa using inside.symm, by simpa using rest.symm⟩
    | cons head tail =>
      obtain ⟨rfl, -⟩ := List.cons.inj rest
      exact .inr ⟨tail, inside⟩

namespace Program

variable {State Value Result : Type} (answer : Answerer State)

/-- How a run ends, and the state that it leaves. -/
def outcome (program : Program Value) (state : State) : Except Error Value × State :=
  ((program.run answer state).result, (program.run answer state).state)

/-- The calls of a run with their answers, first to last. -/
def exchanges : Program Value → State → List Exchange
  | done _, _ => []
  | call request resume, state =>
    ⟨request, (answer request state).1⟩ ::
      exchanges (resume (answer request state).1) (answer request state).2
  | pause _ next, state => exchanges next state
  | report _ _ next, state => exchanges next state

/-- The exchanges are about the very calls that the trace of the run records. -/
theorem map_request_exchanges (program : Program Value) (state : State) :
    (program.exchanges answer state).map (·.request) = (program.run answer state).trace.calls := by
  induction program generalizing state with
  | done result => rfl
  | call request resume ih => exact congrArg (request :: ·) (ih _ _)
  | pause duration next ih => exact ih state
  | report workload error next ih => exact ih state

@[simp] theorem bind_eq (program : Program Value) (next : Value → Program Result) :
    program >>= next = program.bind next := rfl

@[simp] theorem pure_eq (value : Value) : (pure value : Program Value) = done (.ok value) := rfl

@[simp] theorem outcome_done (result : Except Error Value) (state : State) :
    (done result).outcome answer state = (result, state) := rfl

@[simp] theorem outcome_call (request : Call) (resume : request.Outcome → Program Value) (state : State) :
    (call request resume).outcome answer state =
      (resume (answer request state).1).outcome answer (answer request state).2 := rfl

@[simp] theorem outcome_pause (duration : Duration) (next : Program Value) (state : State) :
    (pause duration next).outcome answer state = next.outcome answer state := rfl

@[simp] theorem outcome_report (workload : ObjectMeta) (error : Option Error) (next : Program Value) (state : State) :
    (report workload error next).outcome answer state = next.outcome answer state := rfl

@[simp] theorem outcome_perform (request : Call) (state : State) :
    (perform request).outcome answer state = answer request state := rfl

@[simp] theorem outcome_fail (e : Error) (state : State) :
    (fail e : Program Value).outcome answer state = (.error e, state) := rfl

@[simp] theorem outcome_ofExcept (result : Except Error Value) (state : State) :
    (ofExcept result).outcome answer state = (result, state) := rfl

theorem outcome_bind (program : Program Value) (next : Value → Program Result) (state : State) :
    (program.bind next).outcome answer state =
      match program.outcome answer state with
      | (.ok value, after) => (next value).outcome answer after
      | (.error e, after) => (.error e, after) := by
  induction program generalizing state with
  | done result => cases result <;> rfl
  | call request resume ih => exact ih _ _
  | pause duration rest ih => exact ih state
  | report workload error rest ih => exact ih state

theorem outcome_bind_ok {answer : Answerer State} {program : Program Value} {next : Value → Program Result}
    {value : Value} {state after : State} (success : program.outcome answer state = (.ok value, after)) :
    (program.bind next).outcome answer state = (next value).outcome answer after := by
  rw [outcome_bind, success]

theorem outcome_bind_error {answer : Answerer State} {program : Program Value} {next : Value → Program Result}
    {e : Error} {state after : State} (failure : program.outcome answer state = (.error e, after)) :
    (program.bind next).outcome answer state = (.error e, after) := by
  rw [outcome_bind, failure]

/-- A program of two pieces succeeds only if both pieces do, the second from where the first ended. -/
theorem exists_of_bind_ok {answer : Answerer State} {program : Program Value} {next : Value → Program Result}
    {result : Result} {state after : State}
    (success : (program.bind next).outcome answer state = (.ok result, after)) :
    ∃ value middle, program.outcome answer state = (.ok value, middle) ∧
      (next value).outcome answer middle = (.ok result, after) := by
  rw [outcome_bind] at success
  cases first : program.outcome answer state with
  | mk ended middle =>
    rw [first] at success
    cases ended with
    | error e => simp at success
    | ok value => exact ⟨value, middle, rfl, success⟩

theorem outcome_of_isOk {answer : Answerer State} {program : Program Unit} {state : State}
    (success : (program.outcome answer state).1.isOk = true) :
    program.outcome answer state = (.ok (), (program.outcome answer state).2) := by
  cases ended : program.outcome answer state with
  | mk result after =>
    rw [ended] at success
    cases result with
    | error e => cases success
    | ok value => rfl

theorem outcome_stage (description : String) (program : Program Value) (state : State) :
    (program.stage description).outcome answer state =
      (inStage description (program.outcome answer state).1, (program.outcome answer state).2) := by
  induction program generalizing state with
  | done result => rfl
  | call request resume ih => exact ih _ _
  | pause duration rest ih => exact ih state
  | report workload error rest ih => exact ih state

/-- The name of a stage changes errors only. -/
theorem outcome_stage_ok_iff {answer : Answerer State} {description : String} {program : Program Value}
    {state after : State} {value : Value} :
    (program.stage description).outcome answer state = (.ok value, after) ↔
      program.outcome answer state = (.ok value, after) := by
  rw [outcome_stage]
  obtain ⟨result, middle⟩ := program.outcome answer state
  cases result with
  | error e =>
    constructor <;>
      intro success <;>
      cases success
  | ok found => exact Iff.rfl

theorem outcome_stage_ok {answer : Answerer State} {program : Program Value} {state after : State} {value : Value}
    (success : program.outcome answer state = (.ok value, after)) (description : String) :
    (program.stage description).outcome answer state = (.ok value, after) :=
  outcome_stage_ok_iff.mpr success

theorem outcome_stage_error {answer : Answerer State} {program : Program Value} {state after : State} {e : Error}
    (failure : program.outcome answer state = (.error e, after)) (description : String) :
    (program.stage description).outcome answer state = (.error (.context description e), after) := by
  rw [outcome_stage, failure]
  rfl

theorem outcome_attempt (program : Program Value) (state : State) :
    program.attempt.outcome answer state =
      (.ok (program.outcome answer state).1, (program.outcome answer state).2) := by
  induction program generalizing state with
  | done result => rfl
  | call request resume ih => exact ih _ _
  | pause duration rest ih => exact ih state
  | report workload error rest ih => exact ih state

@[simp] theorem exchanges_done (result : Except Error Value) (state : State) :
    (done result).exchanges answer state = [] := rfl

@[simp] theorem exchanges_call (request : Call) (resume : request.Outcome → Program Value) (state : State) :
    (call request resume).exchanges answer state =
      ⟨request, (answer request state).1⟩ ::
        (resume (answer request state).1).exchanges answer (answer request state).2 := rfl

@[simp] theorem exchanges_pause (duration : Duration) (next : Program Value) (state : State) :
    (pause duration next).exchanges answer state = next.exchanges answer state := rfl

@[simp] theorem exchanges_report (workload : ObjectMeta) (error : Option Error) (next : Program Value) (state : State) :
    (report workload error next).exchanges answer state = next.exchanges answer state := rfl

@[simp] theorem exchanges_perform (request : Call) (state : State) :
    (perform request).exchanges answer state = [⟨request, (answer request state).1⟩] := rfl

theorem exchanges_perform_of {answer : Answerer State} {request : Call} {state : State} {outcome : request.Outcome}
    (ended : (answer request state).1 = outcome) : (perform request).exchanges answer state = [⟨request, outcome⟩] :=
  ended ▸ rfl

@[simp] theorem exchanges_ofExcept (result : Except Error Value) (state : State) :
    (ofExcept result).exchanges answer state = [] := rfl

@[simp] theorem exchanges_stage (description : String) (program : Program Value) (state : State) :
    (program.stage description).exchanges answer state = program.exchanges answer state := by
  induction program generalizing state with
  | done result => rfl
  | call request resume ih => exact congrArg (_ :: ·) (ih _ _)
  | pause duration rest ih => exact ih state
  | report workload error rest ih => exact ih state

@[simp] theorem exchanges_attempt (program : Program Value) (state : State) :
    program.attempt.exchanges answer state = program.exchanges answer state := by
  induction program generalizing state with
  | done result => rfl
  | call request resume ih => exact congrArg (_ :: ·) (ih _ _)
  | pause duration rest ih => exact ih state
  | report workload error rest ih => exact ih state

/-- What a program exchanges comes before all that a program after it exchanges; an error leaves nothing to the
second. -/
theorem exchanges_bind (program : Program Value) (next : Value → Program Result) (state : State) :
    (program.bind next).exchanges answer state = program.exchanges answer state ++
      match program.outcome answer state with
      | (.ok value, after) => (next value).exchanges answer after
      | (.error _, _) => [] := by
  induction program generalizing state with
  | done result => cases result <;> rfl
  | call request resume ih => exact congrArg (_ :: ·) (ih _ _)
  | pause duration rest ih => exact ih state
  | report workload error rest ih => exact ih state

theorem exchanges_bind_ok {answer : Answerer State} {program : Program Value} {next : Value → Program Result}
    {value : Value} {state after : State} (success : program.outcome answer state = (.ok value, after)) :
    (program.bind next).exchanges answer state =
      program.exchanges answer state ++ (next value).exchanges answer after := by
  rw [exchanges_bind, success]

theorem exchanges_bind_error {answer : Answerer State} {program : Program Value} {next : Value → Program Result}
    {e : Error} {state after : State} (failure : program.outcome answer state = (.error e, after)) :
    (program.bind next).exchanges answer state = program.exchanges answer state := by
  rw [exchanges_bind, failure, List.append_nil]

/-- A last step that only computes adds no exchange. -/
theorem exchanges_bind_done (program : Program Value) (result : Value → Except Error Result) (state : State) :
    (program.bind fun value => done (result value)).exchanges answer state = program.exchanges answer state := by
  rw [exchanges_bind]
  rcases program.outcome answer state with ⟨value | value, after⟩ <;> exact List.append_nil _

/-- The state that calls leave, made one after another. -/
def after (state : State) (run : List Exchange) : State :=
  run.foldl (fun now exchange => (answer exchange.request now).2) state

theorem after_append (state : State) (earlier later : List Exchange) :
    after answer state (earlier ++ later) = after answer (after answer state earlier) later := List.foldl_append

/-- A run leaves the state that its calls leave. -/
theorem outcome_snd_eq_after (program : Program Value) (state : State) :
    (program.outcome answer state).2 = after answer state (program.exchanges answer state) := by
  induction program generalizing state with
  | done result => rfl
  | call request resume ih => exact ih _ _
  | pause duration next ih => exact ih state
  | report workload error next ih => exact ih state

/-- A call is answered in the state that the calls before it left. -/
theorem outcome_eq_of_exchanges {answer : Answerer State} {program : Program Value} {state : State}
    {earlier later : List Exchange} {use : Exchange}
    (split : program.exchanges answer state = earlier ++ use :: later) :
    use.outcome = (answer use.request (after answer state earlier)).1 := by
  induction program generalizing state earlier with
  | done result => simp at split
  | call request resume ih =>
    cases earlier with
    | nil =>
      obtain ⟨rfl, -⟩ := List.cons.inj split
      rfl
    | cons first rest =>
      obtain ⟨rfl, behind⟩ := List.cons.inj split
      have answered := ih _ behind
      exact answered
  | pause duration next ih => exact ih split
  | report workload error next ih => exact ih split

/-- A program makes no other calls than those of the given names, whatever is answered. -/
inductive CallsOnly (names : List CallName) : Program Value → Prop
  | done (result : Except Error Value) : CallsOnly names (done result)
  | call {request : Call} {resume : request.Outcome → Program Value} (named : request.name ∈ names)
      (later : ∀ outcome, CallsOnly names (resume outcome)) : CallsOnly names (call request resume)
  | pause (duration : Duration) {next : Program Value} (later : CallsOnly names next) :
      CallsOnly names (pause duration next)
  | report (workload : ObjectMeta) (error : Option Error) {next : Program Value} (later : CallsOnly names next) :
      CallsOnly names (report workload error next)

namespace CallsOnly

variable {names : List CallName}

theorem perform {request : Call} (named : request.name ∈ names) : CallsOnly names (perform request) :=
  .call named fun _ => .done _

theorem ofExcept (result : Except Error Value) : CallsOnly names (ofExcept result) := .done result

theorem mono {more : List CallName} {program : Program Value} (only : CallsOnly names program)
    (included : names ⊆ more) : CallsOnly more program := by
  induction only with
  | done result => exact .done result
  | call named _ ih => exact .call (included named) ih
  | pause duration _ ih => exact .pause duration ih
  | report workload error _ ih => exact .report workload error ih

theorem bind {program : Program Value} {next : Value → Program Result} (first : CallsOnly names program)
    (second : ∀ value, CallsOnly names (next value)) : CallsOnly names (program.bind next) := by
  induction first with
  | done result =>
    cases result with
    | ok value => exact second value
    | error e => exact .done _
  | call named _ ih => exact .call named ih
  | pause duration _ ih => exact .pause duration ih
  | report workload error _ ih => exact .report workload error ih

theorem stage {program : Program Value} (description : String) (only : CallsOnly names program) :
    CallsOnly names (program.stage description) := by
  induction only with
  | done result => exact .done _
  | call named _ ih => exact .call named ih
  | pause duration _ ih => exact .pause duration ih
  | report workload error _ ih => exact .report workload error ih

theorem attempt {program : Program Value} (only : CallsOnly names program) :
    CallsOnly names program.attempt := by
  induction only with
  | done result => exact .done _
  | call named _ ih => exact .call named ih
  | pause duration _ ih => exact .pause duration ih
  | report workload error _ ih => exact .report workload error ih

theorem name_mem {answer : Answerer State} {program : Program Value} (only : CallsOnly names program) {state : State}
    {exchange : Exchange} (member : exchange ∈ program.exchanges answer state) : exchange.request.name ∈ names := by
  induction only generalizing state with
  | done result => simp [exchanges] at member
  | call named _ ih =>
    rcases List.mem_cons.mp member with rfl | later
    · exact named
    · exact ih _ later
  | pause duration _ ih => exact ih member
  | report workload error _ ih => exact ih member

theorem exchanges_eq_nil {answer : Answerer State} {program : Program Value} (only : CallsOnly [] program)
    (state : State) : program.exchanges answer state = [] :=
  List.eq_nil_iff_forall_not_mem.mpr fun _ member => List.not_mem_nil (only.name_mem member)

/-- What none of the named calls changes stays as it is for a whole run. -/
theorem preserves {answer : Answerer State} {program : Program Value} (only : CallsOnly names program) {Kept : Type}
    {kept : State → Kept}
    (step : ∀ request state, request.name ∈ names → kept (answer request state).2 = kept state) (state : State) :
    kept (program.outcome answer state).2 = kept state := by
  induction only generalizing state with
  | done result => rfl
  | call named _ ih => exact (ih _ _).trans (step _ _ named)
  | pause duration _ ih => exact ih state
  | report workload error _ ih => exact ih state

end CallsOnly

end Program

end FilterRollout
