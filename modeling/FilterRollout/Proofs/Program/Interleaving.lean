import FilterRollout.Proofs.Program.Exchange
import Mathlib.Logic.Function.Iterate

/-! Programs that take turns at one state. A turn is one call, so that other programs come in between any two calls of
a program. Which program has the next turn is up to nobody: what holds after every list of turns holds in every
interleaving. -/

namespace FilterRollout

namespace Program

variable {State Value : Type}

/-- One turn of a program: a call, a pause or a report. A program that has ended stays as it is. -/
def turn (answer : Answerer State) : Program Value → State → Program Value × State
  | done result, state => (done result, state)
  | call request resume, state => (resume (answer request state).1, (answer request state).2)
  | pause _ next, state => (next, state)
  | report _ _ next, state => (next, state)

/-- A program that has all the turns comes to its end, with the outcome of its run. -/
theorem exists_turns_eq_outcome (answer : Answerer State) (program : Program Value) (state : State) :
    ∃ turns : Nat, (fun now => turn answer now.1 now.2)^[turns] (program, state) =
      (done (program.outcome answer state).1, (program.outcome answer state).2) := by
  induction program generalizing state with
  | done result => exact ⟨0, rfl⟩
  | call request resume ih =>
    obtain ⟨turns, ended⟩ := ih (answer request state).1 (answer request state).2
    exact ⟨turns + 1, ended⟩
  | pause duration next ih =>
    obtain ⟨turns, ended⟩ := ih state
    exact ⟨turns + 1, ended⟩
  | report workload error next ih =>
    obtain ⟨turns, ended⟩ := ih state
    exact ⟨turns + 1, ended⟩

end Program

/-- Programs side by side, each as far as it has come, and the state that they share. -/
structure Pool (ι Value State : Type) where
  programs : ι → Program Value
  state : State

namespace Pool

variable {ι Value State : Type} [DecidableEq ι]

/-- One of the programs has its turn. -/
def turn (answer : Answerer State) (pool : Pool ι Value State) (who : ι) : Pool ι Value State where
  programs := Function.update pool.programs who ((pool.programs who).turn answer pool.state).1
  state := ((pool.programs who).turn answer pool.state).2

/-- The programs have turns in the given order. -/
def run (answer : Answerer State) (pool : Pool ι Value State) (turns : List ι) : Pool ι Value State :=
  turns.foldl (turn answer) pool

theorem run_append (answer : Answerer State) (pool : Pool ι Value State) (earlier later : List ι) :
    pool.run answer (earlier ++ later) = (pool.run answer earlier).run answer later := List.foldl_append

/-- What holds of the state and of each program holds after any turns, if a turn keeps it for the program that has it
and no turn takes it from the others. -/
theorem run_keeps {answer : Answerer State} (Fits : ι → Program Value → State → Prop) (Grows : State → State → Prop)
    (refl : ∀ state, Grows state state)
    (trans : ∀ {first middle last}, Grows first middle → Grows middle last → Grows first last)
    (own : ∀ {who program state}, Fits who program state →
      Fits who (program.turn answer state).1 (program.turn answer state).2 ∧
        Grows state (program.turn answer state).2)
    (others : ∀ {who program before after}, Fits who program before → Grows before after → Fits who program after)
    {pool : Pool ι Value State} (fits : ∀ who, Fits who (pool.programs who) pool.state) (turns : List ι) :
    (∀ who, Fits who ((pool.run answer turns).programs who) (pool.run answer turns).state) ∧
      Grows pool.state (pool.run answer turns).state := by
  induction turns generalizing pool with
  | nil => exact ⟨fits, refl _⟩
  | cons next rest ih =>
    obtain ⟨goes, grows⟩ := own (fits next)
    have after : ∀ who, Fits who ((pool.turn answer next).programs who) (pool.turn answer next).state := by
      intro who
      by_cases same : who = next
      · subst same
        simpa [turn] using goes
      · simpa [turn, same] using others (fits who) grows
    obtain ⟨ends, later⟩ := ih after
    exact ⟨ends, trans grows later⟩

end Pool

end FilterRollout
