import FilterRollout.Rollout.Program

/-! Running programs against something that answers calls, with a record of what happened. Calls take no time; only
pauses do. -/

namespace FilterRollout

/-- Something with a state that answers every call. -/
abbrev Answerer (State : Type) := (request : Call) → State → request.Outcome × State

/-- What happened in a run. -/
structure Trace where
  /-- The calls, first to last. -/
  calls : List Call
  /-- The reports on workloads, first to last. -/
  reports : List (ObjectMeta × Option Error)
  /-- The nanoseconds that passed. -/
  elapsed : Nat

namespace Trace

def empty : Trace := ⟨[], [], 0⟩

/-- What happened, if a call was made before it. -/
def afterCall (request : Call) (trace : Trace) : Trace := { trace with calls := request :: trace.calls }

/-- What happened, if a report was made before it. -/
def afterReport (workload : ObjectMeta) (error : Option Error) (trace : Trace) : Trace :=
  { trace with reports := (workload, error) :: trace.reports }

/-- What happened, if some time passed before it. -/
def afterPause (duration : Duration) (trace : Trace) : Trace :=
  { trace with elapsed := duration.nanoseconds + trace.elapsed }

end Trace

/-- How a run ended, with the state it left and what happened. -/
structure Ending (Value State : Type) where
  result : Except Error Value
  state : State
  trace : Trace

/-- The ending with what happened before put in front of its trace. -/
def Ending.mapTrace {Value State : Type} (before : Trace → Trace) (ending : Ending Value State) :
    Ending Value State :=
  { ending with trace := before ending.trace }

/-- Run a program to its end from a state. -/
def Program.run {Value State : Type} (answer : Answerer State) : Program Value → State → Ending Value State
  | done result, state => ⟨result, state, .empty⟩
  | call request resume, state =>
    let (outcome, after) := answer request state
    ((resume outcome).run answer after).mapTrace (.afterCall request)
  | pause duration next, state => (next.run answer state).mapTrace (.afterPause duration)
  | report workload error next, state => (next.run answer state).mapTrace (.afterReport workload error)

end FilterRollout
