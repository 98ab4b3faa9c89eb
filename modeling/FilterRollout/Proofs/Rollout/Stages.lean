import FilterRollout.Proofs.Program.Exchange
import FilterRollout.Rollout.Basic

/-! The stages of a rollout: what comes before the cache, the cache itself, and the workloads. Each stage has calls of its
own, which no other stage makes. -/

namespace FilterRollout

open Program

namespace CacheSync

/-- What follows a new registration: the wait, and clearing the reports away in any case. -/
def settle (cache : CacheLocation) (image : String) (timeout interval : Duration) : Program Unit := do
  let waited ← ((awaitAcknowledgment cache image timeout interval).stage
    "waiting for cache to publish event for image").attempt
  let cleaned ← ((cleanup cache image).stage "cleaning up cache events for image").attempt
  match waited with
  | .error e => fail e
  | .ok () => ofExcept cleaned

theorem sync_eq (cache : CacheLocation) (image : String) (timeout interval : Duration) :
    sync cache image timeout interval = (publish cache image).bind fun isNew =>
      if isNew then settle cache image timeout interval else done (.ok ()) := rfl

theorem settle_eq (cache : CacheLocation) (image : String) (timeout interval : Duration) :
    settle cache image timeout interval =
      ((awaitAcknowledgment cache image timeout interval).stage
        "waiting for cache to publish event for image").attempt.bind fun waited =>
      ((cleanup cache image).stage "cleaning up cache events for image").attempt.bind fun cleaned =>
        match waited with
        | .error e => fail e
        | .ok () => ofExcept cleaned := rfl

theorem publish_eq (cache : CacheLocation) (image : String) :
    publish cache image = (perform (.readRegistry cache)).bind fun registry =>
      match Registry.register? registry image with
      | none => done (.ok false)
      | some updated => (perform (.writeRegistry updated)).bind fun _ => done (.ok true) := rfl

/-- How a publication goes: the registry cannot be read, or it lists the image already, or it is written with the image
on its list. -/
theorem publish_inversion {State : Type} (answer : Answerer State) (cache : CacheLocation) (image : String)
    (state : State) :
    let ended := (publish cache image).outcome answer state
    let calls := (publish cache image).exchanges answer state
    (∃ e middle, answer (.readRegistry cache) state = (.error e, middle) ∧ ended = (.error e, middle) ∧
      calls = [⟨.readRegistry cache, .error e⟩]) ∨
    (∃ (registry : ConfigMap) (middle : State), answer (.readRegistry cache) state = (.ok registry, middle) ∧
      Registry.register? registry image = none ∧ ended = (.ok false, middle) ∧
      calls = [⟨.readRegistry cache, .ok registry⟩]) ∨
    ∃ (registry updated : ConfigMap) (written : Except Error Unit) (middle after : State),
      answer (.readRegistry cache) state = (.ok registry, middle) ∧
      Registry.register? registry image = some updated ∧
      answer (.writeRegistry updated) middle = (written, after) ∧ ended = (written.map fun _ => true, after) ∧
      calls = [⟨.readRegistry cache, .ok registry⟩, ⟨.writeRegistry updated, written⟩] := by
  intro ended calls
  let reading : Program ConfigMap := perform (.readRegistry cache)
  cases read : reading.outcome answer state with
  | mk found middle =>
    have first : reading.exchanges answer state = [⟨.readRegistry cache, found⟩] :=
      exchanges_perform_of (congrArg Prod.fst read)
    cases found with
    | error e => exact .inl ⟨e, middle, read, outcome_bind_error read, (exchanges_bind_error read).trans first⟩
    | ok registry =>
      have outcome : ended = _ := outcome_bind_ok read
      have exchanges : calls = _ := (exchanges_bind_ok read).trans (congrArg (· ++ _) first)
      cases registered : Registry.register? registry image with
      | none =>
        rw [registered] at outcome exchanges
        exact .inr (.inl ⟨registry, middle, read, registered, outcome, exchanges⟩)
      | some updated =>
        rw [registered] at outcome exchanges
        let writing : Program Unit := perform (.writeRegistry updated)
        cases answered : writing.outcome answer middle with
        | mk written after =>
          have second : writing.exchanges answer middle = [⟨.writeRegistry updated, written⟩] :=
            exchanges_perform_of (congrArg Prod.fst answered)
          refine .inr (.inr ⟨registry, updated, written, middle, after, read, registered, answered, ?_, ?_⟩)
          · cases written with
            | error e => exact outcome.trans (outcome_bind_error answered)
            | ok value => exact outcome.trans (outcome_bind_ok answered)
          · exact exchanges.trans (congrArg (_ :: ·) ((exchanges_bind_done answer writing _ middle).trans second))

theorem publish_callsOnly (cache : CacheLocation) (image : String) :
    CallsOnly [.readRegistry, .writeRegistry] (publish cache image) := by
  rw [publish_eq]
  refine .bind (.perform (by simp [Call.name])) fun registry => ?_
  split
  · exact .done _
  · exact .bind (.perform (by simp [Call.name])) fun _ => .done _

theorem poll_callsOnly (cache : CacheLocation) (image : String) :
    CallsOnly [.listImageEvents, .readyReplicas] (poll cache image) :=
  .bind (.perform (by simp [Call.name])) fun _ => .bind (.perform (by simp [Call.name])) fun _ => .done _

theorem pollUpTo_callsOnly (cache : CacheLocation) (image : String) (timeout step rest : Duration) (more : Nat) :
    CallsOnly [.listImageEvents, .readyReplicas] (pollUpTo cache image timeout step rest more) := by
  induction more with
  | zero =>
    refine .bind (poll_callsOnly cache image) fun seen => ?_
    cases seen with
    | none => exact .done _
    | some mismatch => exact .pause rest (.done _)
  | succ more ih =>
    refine .bind (poll_callsOnly cache image) fun seen => ?_
    cases seen with
    | none => exact .done _
    | some mismatch => exact .pause step ih

theorem awaitAcknowledgment_callsOnly (cache : CacheLocation) (image : String) (timeout interval : Duration) :
    CallsOnly [.listImageEvents, .readyReplicas] (awaitAcknowledgment cache image timeout interval) := by
  unfold awaitAcknowledgment
  split
  · exact .done _
  · exact pollUpTo_callsOnly ..

theorem deleteEvents_callsOnly (events : List CacheEvent) : CallsOnly [.deleteEvent] (deleteEvents events) := by
  induction events with
  | nil => exact .done _
  | cons event rest ih => exact .bind (.perform (by simp [Call.name])) fun _ => ih

theorem cleanup_callsOnly (cache : CacheLocation) (image : String) :
    CallsOnly [.listImageEvents, .deleteEvent] (cleanup cache image) :=
  .bind (.perform (by simp [Call.name])) fun events => (deleteEvents_callsOnly events).mono (by simp)

theorem settle_callsOnly (cache : CacheLocation) (image : String) (timeout interval : Duration) :
    CallsOnly [.listImageEvents, .readyReplicas, .deleteEvent] (settle cache image timeout interval) := by
  have waits := (awaitAcknowledgment_callsOnly cache image timeout interval).mono
    (show [.listImageEvents, .readyReplicas] ⊆ [CallName.listImageEvents, .readyReplicas, .deleteEvent] by simp)
  have clears := (cleanup_callsOnly cache image).mono
    (show [.listImageEvents, .deleteEvent] ⊆ [CallName.listImageEvents, .readyReplicas, .deleteEvent] by simp)
  refine .bind (waits.stage _).attempt fun waited => .bind (clears.stage _).attempt fun cleaned => ?_
  cases waited with
  | error e => exact .done _
  | ok value => exact .done _

theorem sync_callsOnly (cache : CacheLocation) (image : String) (timeout interval : Duration) :
    CallsOnly [.readRegistry, .writeRegistry, .listImageEvents, .readyReplicas, .deleteEvent]
      (sync cache image timeout interval) := by
  refine .bind ((publish_callsOnly cache image).mono (by simp)) fun isNew => ?_
  cases isNew with
  | false => exact .done _
  | true => exact (settle_callsOnly cache image timeout interval).mono (by simp)

end CacheSync

namespace Enumeration

theorem mutateEach_callsOnly {names : List CallName} {mutate : Mutation} {observe : Observer}
    (updates : .updateWorkload ∈ names) (mutates : ∀ metadata template, CallsOnly names (mutate metadata template))
    (observes : ∀ metadata error, CallsOnly names (observe metadata error)) (workloads : List Workload) :
    CallsOnly names (mutateEach mutate observe workloads) := by
  induction workloads with
  | nil => exact .done _
  | cons workload rest ih =>
    refine .bind (CallsOnly.attempt ?_) fun outcome => .bind (observes _ _) fun _ =>
      .bind (.ofExcept _) fun _ => .bind ih fun _ => .done _
    exact .bind (mutates _ _) fun _ => .perform updates

theorem mutateSelected_callsOnly {names : List CallName} {mutate : Mutation} {observe : Observer}
    (lists : .listWorkloads ∈ names) (updates : .updateWorkload ∈ names)
    (mutates : ∀ metadata template, CallsOnly names (mutate metadata template))
    (observes : ∀ metadata error, CallsOnly names (observe metadata error))
    (kind : WorkloadKind) (namespaceName : String) (labels : SortedMap String) :
    CallsOnly names (mutateSelected kind namespaceName labels mutate observe) :=
  .bind (.perform lists) fun workloads => mutateEach_callsOnly updates mutates observes workloads

/-- An observer that makes no calls and does not fail. -/
def Watches (observe : Observer) : Prop :=
  ∀ metadata error, CallsOnly [] (observe metadata error) ∧
    ∀ {State : Type} (answer : Answerer State) (state : State),
      (observe metadata error).outcome answer state = (.ok (), state)

theorem watches_reporting : Watches reporting :=
  fun metadata error => ⟨.report metadata error (.done _), fun _ _ => rfl⟩

theorem watches_silent : Watches silent := fun _ _ => ⟨.done _, fun _ _ => rfl⟩

variable {State : Type} {answer : Answerer State} {mutate : Mutation} {observe : Observer}

theorem mutateEach_cons (mutate : Mutation) (observe : Observer) (workload : Workload) (rest : List Workload) :
    mutateEach mutate observe (workload :: rest) = (mutateOne mutate workload).attempt.bind fun outcome =>
      (observe workload.metadata (match outcome with | .error e => some e | .ok () => none)).bind fun _ =>
        (ofExcept outcome).bind fun _ =>
          (mutateEach mutate observe rest).bind fun others => done (.ok (workload.metadata :: others)) := rfl

theorem mutateEach_cons_error (watches : Watches observe) (rest : List Workload) {workload : Workload}
    {state after : State} {e : Error}
    (failed : (mutateOne mutate workload).outcome answer state = (.error e, after)) :
    (mutateEach mutate observe (workload :: rest)).outcome answer state = (.error e, after) ∧
      (mutateEach mutate observe (workload :: rest)).exchanges answer state =
        (mutateOne mutate workload).exchanges answer state := by
  have attempted : (mutateOne mutate workload).attempt.outcome answer state = (.ok (.error e), after) := by
    rw [outcome_attempt, failed]
  obtain ⟨silent, watched⟩ := watches workload.metadata (some e)
  rw [mutateEach_cons, outcome_bind_ok attempted, exchanges_bind_ok attempted, outcome_bind_ok (watched answer after),
    exchanges_bind_ok (watched answer after), exchanges_attempt, silent.exchanges_eq_nil]
  exact ⟨rfl, List.append_nil _⟩

theorem mutateEach_cons_ok (watches : Watches observe) (rest : List Workload) {workload : Workload}
    {state middle : State} (stored : (mutateOne mutate workload).outcome answer state = (.ok (), middle)) :
    (mutateEach mutate observe (workload :: rest)).outcome answer state =
        ((mutateEach mutate observe rest).bind fun others => done (.ok (workload.metadata :: others))).outcome
          answer middle ∧
      (mutateEach mutate observe (workload :: rest)).exchanges answer state =
        (mutateOne mutate workload).exchanges answer state ++
          (mutateEach mutate observe rest).exchanges answer middle := by
  have attempted : (mutateOne mutate workload).attempt.outcome answer state = (.ok (.ok ()), middle) := by
    rw [outcome_attempt, stored]
  obtain ⟨silent, watched⟩ := watches workload.metadata none
  rw [mutateEach_cons, outcome_bind_ok attempted, exchanges_bind_ok attempted, outcome_bind_ok (watched answer middle),
    exchanges_bind_ok (watched answer middle), exchanges_attempt, silent.exchanges_eq_nil]
  exact ⟨rfl, congrArg _ (exchanges_bind_done _ _ _ _)⟩

theorem mutateOne_of_error {workload : Workload} {state middle : State} {e : Error}
    (failed : (mutate workload.metadata workload.template).outcome answer state = (.error e, middle)) :
    (mutateOne mutate workload).outcome answer state = (.error e, middle) := outcome_bind_error failed

theorem mutateOne_of_ok {workload : Workload} {state middle : State} {template : PodTemplate}
    (mutated : (mutate workload.metadata workload.template).outcome answer state = (.ok template, middle)) :
    (mutateOne mutate workload).outcome answer state =
      answer (.updateWorkload (workload.withTemplate template)) middle := outcome_bind_ok mutated

/-- An enumeration lists the workloads first. -/
theorem mutateSelected_listing (mutate : Mutation) (observe : Observer) (kind : WorkloadKind) (namespaceName : String)
    (labels : SortedMap String) (answer : Answerer State) (state : State) :
    let listing : Call := .listWorkloads kind namespaceName (LabelSelector.ofLabels labels)
    let enumeration := mutateSelected kind namespaceName labels mutate observe
    (∃ e after, (perform listing).outcome answer state = (.error e, after) ∧
        enumeration.exchanges answer state = [⟨listing, .error e⟩]) ∨
      ∃ (workloads : List Workload) (middle : State), (perform listing).outcome answer state = (.ok workloads, middle) ∧
        enumeration.exchanges answer state =
          ⟨listing, .ok workloads⟩ :: (mutateEach mutate observe workloads).exchanges answer middle := by
  intro listing enumeration
  cases listed : (perform listing).outcome answer state with
  | mk result middle =>
    have first : (perform listing).exchanges answer state = [⟨listing, result⟩] :=
      exchanges_perform_of (congrArg Prod.fst listed)
    cases result with
    | error e => exact .inl ⟨e, middle, rfl, (exchanges_bind_error listed).trans first⟩
    | ok workloads => exact .inr ⟨workloads, middle, rfl, (exchanges_bind_ok listed).trans (first ▸ rfl)⟩

/-- An enumeration that succeeds gives the metadata of all workloads that were listed. -/
theorem mutateEach_value (watches : Watches observe) {workloads : List Workload} {state after : State}
    {changed : List ObjectMeta}
    (success : (mutateEach mutate observe workloads).outcome answer state = (.ok changed, after)) :
    changed = workloads.map (·.metadata) := by
  induction workloads generalizing state changed after with
  | nil => exact (Except.ok.inj (Prod.mk.inj success).1).symm
  | cons workload rest ih =>
    cases ended : (mutateOne mutate workload).outcome answer state with
    | mk result middle =>
      cases result with
      | error e =>
        rw [(mutateEach_cons_error watches rest ended).1] at success
        cases success
      | ok value =>
        rw [(mutateEach_cons_ok watches rest ended).1] at success
        obtain ⟨others, last, later, verdict⟩ := exists_of_bind_ok success
        rw [← Except.ok.inj (Prod.mk.inj verdict).1, ih later]
        rfl

/-- What neither the mutations nor the updates of workloads change stays as it is, wherever an enumeration ends. -/
theorem mutateEach_preserves (watches : Watches observe) {Kept : Type} {kept : State → Kept} {workloads : List Workload}
    (mutates : ∀ workload ∈ workloads, ∀ state,
      kept ((mutate workload.metadata workload.template).outcome answer state).2 = kept state)
    (updates : ∀ workload state, kept (answer (.updateWorkload workload) state).2 = kept state) (state : State) :
    kept ((mutateEach mutate observe workloads).outcome answer state).2 = kept state := by
  induction workloads generalizing state with
  | nil => rfl
  | cons workload rest ih =>
    have one : kept ((mutateOne mutate workload).outcome answer state).2 = kept state := by
      have same := mutates workload List.mem_cons_self state
      cases mutated : (mutate workload.metadata workload.template).outcome answer state with
      | mk result middle =>
        rw [mutated] at same
        cases result with
        | error e =>
          rw [mutateOne_of_error mutated]
          exact same
        | ok template =>
          rw [mutateOne_of_ok mutated]
          exact (updates _ middle).trans same
    have others := ih fun other member => mutates other (List.mem_cons_of_mem _ member)
    cases ended : (mutateOne mutate workload).outcome answer state with
    | mk result middle =>
      rw [ended] at one
      cases result with
      | error e =>
        rw [(mutateEach_cons_error watches rest ended).1]
        exact one
      | ok value =>
        have later := (others middle).trans one
        rw [(mutateEach_cons_ok watches rest ended).1]
        cases ends : (mutateEach mutate observe rest).outcome answer middle with
        | mk result after =>
          rw [ends] at later
          cases result with
          | error e =>
            rw [outcome_bind_error ends]
            exact later
          | ok changed =>
            rw [outcome_bind_ok ends]
            exact later

end Enumeration

namespace Rollout

/-- What a rollout finds out before it touches the cache: the version of the control plane and the path of the
binary. -/
def prepare (rollout : Rollout) (filter : FilterSpec) : Program (String × String) := do
  ofExcept filter.validate
  let image ← (perform (.pullImage filter.image)).stage "pulling filter image"
  let config ← (perform (.readImageConfig image)).stage "fetching filter image config"
  let version ← controlPlaneVersion rollout.settings
  ofExcept (checkAbi rollout.settings rollout.support filter.image config.abiVersions version)
  let path ← ofExcept (cachedBinaryPath image.digest)
  return (version, path)

/-- What a rollout does to the workloads once the cache has the image. -/
def deploy (rollout : Rollout) (filter : FilterSpec) (version path : String) : Program Unit := do
  let target := rollout.settings.target
  let _ ← (Enumeration.mutateSelected target.kind target.namespaceName target.labels
    (rollout.applyToWorkload filter path (.ofVersion version)) Enumeration.reporting).stage
      "applying filter to workload"
  return ()

theorem apply_eq (rollout : Rollout) (filter : FilterSpec) :
    rollout.apply filter = (rollout.prepare filter).bind fun found =>
      ((syncCache rollout.settings filter.image).stage "adding image to cache").bind fun _ =>
        rollout.deploy filter found.1 found.2 := by
  simp [apply, prepare, deploy, bind_assoc]

theorem prepare_callsOnly (rollout : Rollout) (filter : FilterSpec) :
    CallsOnly [.pullImage, .readImageConfig, .controlPlaneVersion] (rollout.prepare filter) :=
  .bind (.ofExcept _) fun _ => .bind (.stage _ (.perform (by simp [Call.name]))) fun _ =>
    .bind (.stage _ (.perform (by simp [Call.name]))) fun _ =>
      .bind (.stage _ (.perform (by simp [Call.name]))) fun _ =>
        .bind (.ofExcept _) fun _ => .bind (.ofExcept _) fun _ => .done _

theorem applyToWorkload_callsOnly (rollout : Rollout) (filter : FilterSpec) (path : String) (schema : ConfigSchema)
    (metadata : ObjectMeta) (template : PodTemplate) :
    CallsOnly [.ensureFilter] (rollout.applyToWorkload filter path schema metadata template) :=
  .bind (.ofExcept _) fun _ => .bind (.ofExcept _) fun _ => .bind (.perform (by simp [Call.name])) fun _ => .done _

theorem deploy_callsOnly (rollout : Rollout) (filter : FilterSpec) (version path : String) :
    CallsOnly [.listWorkloads, .ensureFilter, .updateWorkload] (rollout.deploy filter version path) := by
  refine .bind (.stage _ (Enumeration.mutateSelected_callsOnly (by simp) (by simp) ?_ ?_ ..)) fun _ => .done _
  · intro metadata template
    exact (applyToWorkload_callsOnly ..).mono (by simp)
  · exact fun metadata error => .report _ _ (.done _)

end Rollout

end FilterRollout
