import FilterRollout.Proofs.Cluster.Revisions
import FilterRollout.Proofs.Cluster.Stores
import Mathlib.Logic.Relation

/-! Workloads that other clients write as well, at any time. Whoever answers the calls of a program also lets the others
have their turns, so that a statement about all answerers that share their workloads is one about all interleavings with
foreign writes. -/

namespace FilterRollout

open Program Versioned

namespace Revisions

variable {Object : Type} [Versioned Object]

/-- Others write an object, any number of times. They may also delete and create it. -/
def Drifts : Revisions Object → Revisions Object → Prop :=
  Relation.ReflTransGen fun before after => ∃ content, before.Replaced content after

theorem Replaced.drifts {before after : Revisions Object} {content : Option Object}
    (replaced : before.Replaced content after) : before.Drifts after := .single ⟨content, replaced⟩

theorem Held.drifts {before after : Revisions Object} {object : Object} (held : before.Held object)
    (drifts : before.Drifts after) : after.Held object := by
  induction drifts with
  | refl => exact held
  | tail _ write ih =>
    obtain ⟨content, replaced⟩ := write
    exact ih.replaced replaced

end Revisions

/-- The workloads of a store by their addresses, each with its versions. -/
abbrev Stock : Type := WorkloadKind × Option String × String → Revisions Workload

/-- What a call does to a stock by itself: a list has current workloads only, and an update is accepted if it names the
current version of its workload. Nothing else is changed. -/
inductive Stock.Serves (before : Stock) : Exchange → Stock → Prop
  | listed {kind : WorkloadKind} {namespaceName selector : String} {workloads : List Workload}
      (current : ∀ workload ∈ workloads, (before workload.address).current = some workload) :
      Serves before ⟨.listWorkloads kind namespaceName selector, .ok workloads⟩ before
  | stored {updated : Workload} {after : Stock}
      (accepts : (before updated.address).Accepts updated (after updated.address))
      (others : ∀ address, address ≠ updated.address → after address = before address) :
      Serves before ⟨.updateWorkload updated, .ok ()⟩ after
  | refused (request : Call) (e : Error) : Serves before ⟨request, .error e⟩ before
  | other {request : Call} (answered : request.Answer) (notList : request.name ≠ .listWorkloads)
      (notUpdate : request.name ≠ .updateWorkload) : Serves before ⟨request, .ok answered⟩ before

/-- An answerer whose workloads others write as well, between any two calls. -/
def Shares {State : Type} (answer : Answerer State) (stock : State → Stock) : Prop :=
  ∀ request state, ∃ served, (stock state).Serves ⟨request, (answer request state).1⟩ served ∧
    ∀ address, (served address).Drifts (stock (answer request state).2 address)

namespace Shares

variable {State : Type} {answer : Answerer State} {stock : State → Stock}

theorem current_of_listed (shares : Shares answer stock) {state : State} {kind : WorkloadKind}
    {namespaceName selector : String} {workloads : List Workload}
    (listed : (answer (.listWorkloads kind namespaceName selector) state).1 = .ok workloads) :
    ∀ workload ∈ workloads, (stock state workload.address).current = some workload := by
  obtain ⟨served, serves, -⟩ := shares (.listWorkloads kind namespaceName selector) state
  rw [listed] at serves
  cases serves with
  | listed current => exact current
  | other _ notList _ => exact absurd rfl notList

theorem accepts_of_updated (shares : Shares answer stock) {state : State} {updated : Workload}
    (accepted : (answer (.updateWorkload updated) state).1 = .ok ()) :
    ∃ served, (stock state updated.address).Accepts updated served ∧
      served.Drifts (stock (answer (.updateWorkload updated) state).2 updated.address) := by
  obtain ⟨served, serves, drifts⟩ := shares (.updateWorkload updated) state
  rw [accepted] at serves
  cases serves with
  | stored accepts others => exact ⟨_, accepts, drifts _⟩
  | other _ _ notUpdate => exact absurd rfl notUpdate

/-- Only others change a stock at a call that fails. -/
theorem drifts_of_refused (shares : Shares answer stock) {request : Call} {state : State} {e : Error}
    (refused : (answer request state).1 = .error e) (address : WorkloadKind × Option String × String) :
    (stock state address).Drifts (stock (answer request state).2 address) := by
  obtain ⟨served, serves, drifts⟩ := shares request state
  rw [refused] at serves
  cases serves with
  | refused => exact drifts address

theorem held_answer (shares : Shares answer stock) {address : WorkloadKind × Option String × String}
    {workload : Workload} {state : State} (held : (stock state address).Held workload) (request : Call) :
    (stock (answer request state).2 address).Held workload := by
  obtain ⟨served, serves, drifts⟩ := shares request state
  refine Revisions.Held.drifts ?_ (drifts address)
  generalize (answer request state).1 = outcome at serves
  cases serves with
  | listed current => exact held
  | @stored updated _ accepts others =>
    by_cases same : address = updated.address
    · subst same
      obtain ⟨resourceVersion, replaced⟩ := accepts.stored
      exact held.replaced replaced
    · rw [others address same]
      exact held
  | refused => exact held
  | other => exact held

/-- A workload that was read stays one that was read, whatever is called later. -/
theorem held_after (shares : Shares answer stock) {address : WorkloadKind × Option String × String}
    {workload : Workload} {state : State} (held : (stock state address).Held workload) (run : List Exchange) :
    (stock (after answer state run) address).Held workload := by
  induction run generalizing state with
  | nil => exact held
  | cons exchange rest ih => exact ih (shares.held_answer held exchange.request)

end Shares

/-- A store of workloads with another client that writes after each call, what it has in hand for that call if
anything. All other calls are answered without regard to what was called before. -/
structure Depot where
  stock : Stock
  addresses : List (WorkloadKind × Option String × String)
  inHand : List (Option Workload)
  registry : ConfigMap

namespace Depot

/-- The number of the next version of a workload. -/
def nextVersion (depot : Depot) (workload : Workload) : String :=
  toString ((depot.stock workload.address).versions.length + 1)

def withRevisions (depot : Depot) (workload : Workload) (revisions : Revisions Workload) : Depot :=
  { depot with stock := Function.update depot.stock workload.address revisions }

/-- The other client writes what it has in hand. -/
def drift (depot : Depot) : Depot :=
  match depot.inHand with
  | [] => depot
  | none :: rest => { depot with inHand := rest }
  | some workload :: rest =>
    match (depot.stock workload.address).replace? (depot.nextVersion workload) workload with
    | some after => { depot.withRevisions workload after with inHand := rest }
    | none => { depot with inHand := rest }

def serve (depot : Depot) : (request : Call) → request.Outcome × Depot
  | .pullImage reference => (.ok ⟨reference, "sha256:ab"⟩, depot)
  | .readImageConfig _ => (.ok ⟨[]⟩, depot)
  | .controlPlaneVersion _ => (.ok "1.8.0", depot)
  | .readRegistry _ => (.ok depot.registry, depot)
  | .writeRegistry _ => (.ok (), depot)
  | .listImageEvents .. => (.ok [], depot)
  | .readyReplicas _ => (.ok (0 : Int), depot)
  | .deleteEvent .. => (.ok (), depot)
  | .listWorkloads .. =>
    (.ok (depot.addresses.filterMap fun address => (depot.stock address).current.filter (·.address = address)), depot)
  | .updateWorkload updated =>
    match (depot.stock updated.address).put? (depot.nextVersion updated) updated with
    | some after => (.ok (), depot.withRevisions updated after)
    | none => (.error (.kubernetes .conflict), depot)
  | .ensureFilter _ => (.ok (), depot)
  | .deleteFilter .. => (.ok (), depot)

def answer : Answerer Depot := fun request depot => ((depot.serve request).1, (depot.serve request).2.drift)

theorem drifts_drift (depot : Depot) (address : WorkloadKind × Option String × String) :
    (depot.stock address).Drifts (depot.drift.stock address) := by
  unfold drift
  split
  · exact .refl
  · exact .refl
  · rename_i workload rest _
    split
    · rename_i after written
      by_cases same : address = workload.address
      · subst same
        simpa [withRevisions] using (Revisions.replaced_of_replace? written).drifts
      · simp only [withRevisions, Function.update_of_ne same]
        exact .refl
    · exact .refl

theorem serves_serve (depot : Depot) (request : Call) :
    depot.stock.Serves ⟨request, (depot.serve request).1⟩ (depot.serve request).2.stock := by
  cases request with
  | listWorkloads kind namespaceName selector =>
    refine .listed fun workload member => ?_
    obtain ⟨address, -, found⟩ := List.mem_filterMap.mp member
    obtain ⟨current, placed⟩ := Option.filter_eq_some_iff.mp found
    rwa [of_decide_eq_true placed]
  | updateWorkload updated =>
    simp only [serve]
    split
    · rename_i after stored
      refine .stored ?_ fun address other => Function.update_of_ne other _ _
      simpa [withRevisions] using Revisions.accepts_of_put? stored
    · exact .refused _ _
  | _ => exact .other _ (by simp [Call.name]) (by simp [Call.name])

theorem shares : Shares answer stock :=
  fun request depot => ⟨_, depot.serves_serve request, fun address => drifts_drift _ address⟩

end Depot

end FilterRollout
