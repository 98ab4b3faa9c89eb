import FilterRollout.Cluster.World
import FilterRollout.Proofs.Program.Log
import FilterRollout.Proofs.Rollout.Stages
import Mathlib.Data.List.Range

/-! How an enumeration goes through its workloads: one after another in the order in which they were listed, up to the
first that fails. A mutation may make calls, and so may what is done with the outcomes; whatever answers them may
remember all that happened before. Main statement: `mutateSelected_sequential`. -/

namespace FilterRollout.Enumeration

open Program

/-- An observer that always lets the enumeration go on. What it does besides is its own affair. -/
def Unfailing (observe : Observer) : Prop :=
  ∀ metadata error {State : Type} (answer : Answerer State) (state : State),
    ∃ after, (observe metadata error).outcome answer state = (.ok (), after)

theorem unfailing_reporting : Unfailing reporting := fun _ _ _ _ state => ⟨state, rfl⟩

/-- The error of an outcome, as observers are told it. -/
def failure? : Except Error Unit → Option Error
  | .error e => some e
  | .ok () => none

variable {State : Type} (answer : Answerer State) (mutate : Mutation) (observe : Observer)

/-- How one workload is gone through. Its mutation is run on its own metadata and pod template. If that succeeds, the
workload is stored as it was listed, with nothing but the pod template replaced. Then the outcome is observed. Given are
what happens, the error unless all went well, and the state that is left. -/
inductive Visit (workload : Workload) (before : State) : List Happening → Option Error → State → Prop
  | refused {e : Error} {middle after : State}
      (mutated : (mutate workload.metadata workload.template).outcome answer before = (.error e, middle))
      (observed : (observe workload.metadata (some e)).outcome answer middle = (.ok (), after)) :
      Visit workload before
        ((mutate workload.metadata workload.template).log answer before ++
          (observe workload.metadata (some e)).log answer middle)
        (some e) after
  | stored {template : PodTemplate} {updated : Workload} {outcome : Except Error Unit} {middle last after : State}
      (mutated : (mutate workload.metadata workload.template).outcome answer before = (.ok template, middle))
      (replaced : updated = { workload with spec := some { workload.spec.getD (.empty workload.kind) with template } })
      (answered : answer (.updateWorkload updated) middle = (outcome, last))
      (observed : (observe workload.metadata (failure? outcome)).outcome answer last = (.ok (), after)) :
      Visit workload before
        ((mutate workload.metadata workload.template).log answer before ++
          .exchanged ⟨.updateWorkload updated, outcome⟩ ::
            (observe workload.metadata (failure? outcome)).log answer last)
        (failure? outcome) after

/-- An enumeration goes through the first `count` of its workloads. Numbered from zero, the visits begin in `states`,
`logs` are what happens in them, and `errors` how they fail. -/
structure GoesThrough (workloads : List Workload) (start : State) (log : List Happening)
    (result : Except Error (List ObjectMeta)) (last : State) (count : Nat) (states : Nat → State)
    (logs : Nat → List Happening) (errors : Nat → Option Error) : Prop where
  begins : states 0 = start
  inside : count ≤ workloads.length
  visits : ∀ number workload, number < count → workloads[number]? = some workload →
    Visit answer mutate observe workload (states number) (logs number) (errors number) (states (number + 1))
  log_eq : log = (List.range count).flatMap logs
  last_eq : last = states count
  /-- Only the last visit may fail. -/
  unfailed : ∀ number, number + 1 < count → errors number = none
  ends : (count = workloads.length ∧ (∀ number < count, errors number = none) ∧
      result = .ok (workloads.map (·.metadata))) ∨
    ∃ number e, count = number + 1 ∧ errors number = some e ∧ result = .error e

/-- How an enumeration of listed workloads goes: the listing fails and nothing else happens, or the workloads that it
gives are gone through. -/
inductive Sequential (kind : WorkloadKind) (namespaceName selector : String) (state : State) :
    List Happening → Except Error (List ObjectMeta) → State → Prop
  | unlisted {e : Error} {after : State}
      (failed : answer (.listWorkloads kind namespaceName selector) state = (.error e, after)) :
      Sequential kind namespaceName selector state
        [.exchanged ⟨.listWorkloads kind namespaceName selector, .error e⟩] (.error e) after
  | listed {workloads : List Workload} {start last : State} {log : List Happening}
      {result : Except Error (List ObjectMeta)}
      (found : answer (.listWorkloads kind namespaceName selector) state = (.ok workloads, start))
      (goes : ∃ count states logs errors,
        GoesThrough answer mutate observe workloads start log result last count states logs errors) :
      Sequential kind namespaceName selector state
        (.exchanged ⟨.listWorkloads kind namespaceName selector, .ok workloads⟩ :: log) result last

variable {answer mutate observe}

/-- Every workload can be visited, and its visit is the change and the storing, followed by the observation. -/
theorem exists_visit (answer : Answerer State) (mutate : Mutation) (unfailing : Unfailing observe)
    (workload : Workload) (before : State) :
    ∃ log outcome last after, Visit answer mutate observe workload before log (failure? outcome) after ∧
      (mutateOne mutate workload).outcome answer before = (outcome, last) ∧
      (observe workload.metadata (failure? outcome)).outcome answer last = (.ok (), after) ∧
      log = (mutateOne mutate workload).log answer before ++
        (observe workload.metadata (failure? outcome)).log answer last := by
  cases mutated : (mutate workload.metadata workload.template).outcome answer before with
  | mk ended middle =>
    cases ended with
    | error e =>
      obtain ⟨after, observed⟩ := unfailing workload.metadata (some e) answer middle
      refine ⟨_, .error e, middle, after, .refused mutated observed, mutateOne_of_error mutated, observed, ?_⟩
      exact congrArg (· ++ _) (log_bind_error mutated).symm
    | ok template =>
      cases answered : answer (.updateWorkload (workload.withTemplate template)) middle with
      | mk outcome last =>
        obtain ⟨after, observed⟩ := unfailing workload.metadata (failure? outcome) answer last
        have whole : (mutateOne mutate workload).log answer before =
            (mutate workload.metadata workload.template).log answer before ++
              [.exchanged ⟨.updateWorkload (workload.withTemplate template), outcome⟩] :=
          (log_bind_ok mutated).trans (congrArg _ (log_perform_of answered))
        refine ⟨_, outcome, last, after, .stored mutated rfl answered observed,
          (mutateOne_of_ok mutated).trans answered, observed, ?_⟩
        rw [whole, List.append_assoc]
        rfl

section

variable {workload : Workload} {before last after : State}

theorem mutateEach_cons_refused {e : Error} (rest : List Workload)
    (ended : (mutateOne mutate workload).outcome answer before = (.error e, last))
    (observed : (observe workload.metadata (some e)).outcome answer last = (.ok (), after)) :
    (mutateEach mutate observe (workload :: rest)).outcome answer before = (.error e, after) ∧
      (mutateEach mutate observe (workload :: rest)).log answer before =
        (mutateOne mutate workload).log answer before ++ (observe workload.metadata (some e)).log answer last := by
  have attempted : (mutateOne mutate workload).attempt.outcome answer before = (.ok (.error e), last) := by
    rw [outcome_attempt, ended]
  rw [mutateEach_cons, outcome_bind_ok attempted, log_bind_ok attempted, outcome_bind_ok observed,
    log_bind_ok observed, log_attempt]
  constructor
  · rfl
  · exact congrArg _ (List.append_nil _)

theorem mutateEach_cons_stored (rest : List Workload)
    (ended : (mutateOne mutate workload).outcome answer before = (.ok (), last))
    (observed : (observe workload.metadata none).outcome answer last = (.ok (), after)) :
    (mutateEach mutate observe (workload :: rest)).outcome answer before =
        ((mutateEach mutate observe rest).bind fun others => done (.ok (workload.metadata :: others))).outcome
          answer after ∧
      (mutateEach mutate observe (workload :: rest)).log answer before =
        ((mutateOne mutate workload).log answer before ++ (observe workload.metadata none).log answer last) ++
          (mutateEach mutate observe rest).log answer after := by
  have attempted : (mutateOne mutate workload).attempt.outcome answer before = (.ok (.ok ()), last) := by
    rw [outcome_attempt, ended]
  rw [mutateEach_cons, outcome_bind_ok attempted, log_bind_ok attempted, outcome_bind_ok observed,
    log_bind_ok observed, log_attempt, List.append_assoc]
  constructor
  · rfl
  · exact congrArg (_ ++ ·) (congrArg (_ ++ ·) (log_bind_done _ _ _))

end

/-- Numbered things with one more in front. -/
def inFront {Thing : Type} (first : Thing) (others : Nat → Thing) : Nat → Thing
  | 0 => first
  | number + 1 => others number

/-- A visit that fails is the last one. -/
theorem GoesThrough.stop {workload : Workload} {before after : State} {log : List Happening} {e : Error}
    (visit : Visit answer mutate observe workload before log (some e) after) (rest : List Workload) :
    GoesThrough answer mutate observe (workload :: rest) before log (.error e) after 1
      (inFront before fun _ => after) (fun _ => log) (fun _ => some e) where
  begins := rfl
  inside := Nat.le_add_left 1 rest.length
  visits := by
    intro number other below found
    obtain rfl := Nat.lt_one_iff.mp below
    obtain rfl := Option.some.inj found
    exact visit
  log_eq := by simp
  last_eq := rfl
  unfailed := by
    intro number below
    omega
  ends := .inr ⟨0, e, rfl, rfl, rfl⟩

/-- A visit that goes well is followed by those of the other workloads. -/
theorem GoesThrough.go {workload : Workload} {rest : List Workload} {before after last : State}
    {first log : List Happening} {result : Except Error (List ObjectMeta)} {count : Nat} {states : Nat → State}
    {logs : Nat → List Happening} {errors : Nat → Option Error}
    (visit : Visit answer mutate observe workload before first none after)
    (goes : GoesThrough answer mutate observe rest after log result last count states logs errors) :
    GoesThrough answer mutate observe (workload :: rest) before (first ++ log)
      (result.map (workload.metadata :: ·)) last (count + 1) (inFront before states) (inFront first logs)
      (inFront none errors) where
  begins := rfl
  inside := Nat.succ_le_succ goes.inside
  visits := by
    intro number other below found
    cases number with
    | zero =>
      obtain rfl := Option.some.inj found
      have here := visit
      rw [← goes.begins] at here
      exact here
    | succ number => exact goes.visits number other (Nat.lt_of_succ_lt_succ below) found
  log_eq := by
    rw [goes.log_eq, List.range_succ_eq_map, List.flatMap_cons, List.flatMap_map]
    rfl
  last_eq := goes.last_eq
  unfailed := by
    intro number below
    cases number with
    | zero => rfl
    | succ number => exact goes.unfailed number (Nat.lt_of_succ_lt_succ below)
  ends := by
    rcases goes.ends with ⟨all, sound, ended⟩ | ⟨number, e, here, failed, ended⟩
    · refine .inl ⟨congrArg (· + 1) all, ?_, by rw [ended]; rfl⟩
      intro number below
      cases number with
      | zero => rfl
      | succ number => exact sound number (Nat.lt_of_succ_lt_succ below)
    · exact .inr ⟨number + 1, e, congrArg (· + 1) here, failed, by rw [ended]; rfl⟩

/-- Going through workloads that were listed, from any state. -/
theorem mutateEach_goesThrough (unfailing : Unfailing observe) (workloads : List Workload) (start : State) :
    ∃ count states logs errors, GoesThrough answer mutate observe workloads start
      ((mutateEach mutate observe workloads).log answer start)
      ((mutateEach mutate observe workloads).outcome answer start).1
      ((mutateEach mutate observe workloads).outcome answer start).2 count states logs errors := by
  induction workloads generalizing start with
  | nil =>
    refine ⟨0, fun _ => start, fun _ => [], fun _ => none, ?_⟩
    exact ⟨rfl, Nat.le_refl 0, fun _ _ below => absurd below (Nat.not_lt_zero _), rfl, rfl, fun _ _ => rfl,
      .inl ⟨rfl, fun _ _ => rfl, rfl⟩⟩
  | cons workload rest ih =>
    obtain ⟨log, outcome, last, after, visit, ended, observed, split⟩ :=
      exists_visit answer mutate unfailing workload start
    cases outcome with
    | error e =>
      obtain ⟨whole, calls⟩ := mutateEach_cons_refused rest ended observed
      rw [whole, calls.trans split.symm]
      exact ⟨_, _, _, _, .stop visit rest⟩
    | ok value =>
      obtain ⟨whole, calls⟩ := mutateEach_cons_stored rest ended observed
      obtain ⟨count, states, logs, errors, goes⟩ := ih after
      rw [whole, calls.trans (congrArg (· ++ _) split.symm), outcome_bind]
      cases others : (mutateEach mutate observe rest).outcome answer after with
      | mk result final =>
        rw [others] at goes
        have more := goes.go visit
        cases result with
        | error e => exact ⟨_, _, _, _, more⟩
        | ok metadata => exact ⟨_, _, _, _, more⟩

/-- An enumeration lists the workloads, and goes through them one after another up to the first that fails, whatever the
mutation and the observer do and whatever is answered. -/
theorem mutateSelected_sequential (mutate : Mutation) (unfailing : Unfailing observe) (kind : WorkloadKind)
    (namespaceName : String) (labels : SortedMap String) (answer : Answerer State) (state : State) :
    let enumeration := mutateSelected kind namespaceName labels mutate observe
    let ending := enumeration.run answer state
    let log := enumeration.log answer state
    Sequential answer mutate observe kind namespaceName (LabelSelector.ofLabels labels) state log ending.result
        ending.state ∧
      (log.filterMap Happening.exchange?).map (·.request) = ending.trace.calls ∧
      log.filterMap Happening.report? = ending.trace.reports := by
  intro enumeration ending log
  refine ⟨?_, ?_, filterMap_report?_log answer enumeration state⟩
  · let listing : Call := .listWorkloads kind namespaceName (LabelSelector.ofLabels labels)
    cases listed : (perform listing).outcome answer state with
    | mk outcome start =>
      cases outcome with
      | error e =>
        have ended : enumeration.outcome answer state = (.error e, start) := outcome_bind_error listed
        have happened : log = [.exchanged ⟨listing, .error e⟩] :=
          (log_bind_error listed).trans (log_perform_of listed)
        rw [happened, show ending.result = .error e from congrArg Prod.fst ended,
          show ending.state = start from congrArg Prod.snd ended]
        exact .unlisted listed
      | ok workloads =>
        have ended : enumeration.outcome answer state = (mutateEach mutate observe workloads).outcome answer start :=
          outcome_bind_ok listed
        have happened : log = .exchanged ⟨listing, .ok workloads⟩ ::
            (mutateEach mutate observe workloads).log answer start :=
          (log_bind_ok listed).trans (congrArg (· ++ _) (log_perform_of listed))
        rw [happened, show ending.result = _ from congrArg Prod.fst ended,
          show ending.state = _ from congrArg Prod.snd ended]
        exact .listed listed (mutateEach_goesThrough unfailing workloads start)
  · rw [filterMap_exchange?_log]
    exact map_request_exchanges answer enumeration state

/-- Note in a pod template how many replicas of the cache are ready by now. -/
def noteReadiness : Mutation := fun _ template => do
  let ready : Int ← perform (.readyReplicas Settings.default.cache)
  return template.annotate "ready" (toString ready)

/-- Three Deployments, the first one without a spec, in a cluster whose replicas become ready one by one. The second
update of a workload fails. -/
def conflicted : World where
  version := "1.8.0"
  digest := "sha256:ab"
  abiVersions := []
  registry := none
  events := []
  ready := [1, 2, 3]
  workloads := [
    ⟨.deployment, { ObjectMeta.empty with name := some "api", namespaceName := some "default" }, none, none⟩,
    ⟨.deployment, { ObjectMeta.empty with name := some "web", namespaceName := some "default" },
      some { WorkloadSpec.empty .deployment with template := PodTemplate.empty.annotate "team" "front" }, none⟩,
    ⟨.deployment, { ObjectMeta.empty with name := some "store", namespaceName := some "default" }, none, none⟩]
  filters := .empty
  faults := [⟨.updateWorkload, 2, .validation "conflict" none⟩]
  counted := []

/-- There the first Deployment is given a spec, the second one fails with what its update answers, and the third one is
left alone. -/
theorem mutateSelected_sequential_conflicted :
    let enumeration := mutateSelected .deployment "default" .empty noteReadiness reporting
    let ending := enumeration.run World.answer conflicted
    Unfailing reporting ∧
      Sequential World.answer noteReadiness reporting .deployment "default" (LabelSelector.ofLabels .empty) conflicted
        (enumeration.log World.answer conflicted) ending.result ending.state ∧
      ending.result = .error (.validation "conflict" none) ∧
      ending.trace.calls.map (·.name) =
        [.listWorkloads, .readyReplicas, .updateWorkload, .readyReplicas, .updateWorkload] ∧
      ending.trace.reports.map (fun report => (report.1.name, report.2)) =
        [(some "api", none), (some "web", some (.validation "conflict" none))] ∧
      ending.state.workloads.map (·.template.annotations) =
        [.ofList [("ready", "1")], .ofList [("team", "front")], .empty] := by
  intro enumeration ending
  have sequential := mutateSelected_sequential noteReadiness unfailing_reporting .deployment "default" .empty
    World.answer conflicted
  exact ⟨unfailing_reporting, sequential.1, by decide +kernel⟩

end FilterRollout.Enumeration
