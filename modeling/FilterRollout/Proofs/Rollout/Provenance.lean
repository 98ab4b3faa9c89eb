import FilterRollout.Proofs.Cache.Failure
import FilterRollout.Proofs.Rollout.Order
import FilterRollout.Proofs.Rollout.Withdrawal

/-! Where the error of a rollout comes from. The first call that fails ends the rollout with its error in the stages of
the call, unless it is one that clears reports away after a wait that failed. Main statement: `Rollout.apply_fails`. -/

namespace FilterRollout

open Program

variable {State : Type} {answer : Answerer State} {state : State} {earlier later : List Exchange} {request : Call}
  {e : Error}

namespace Enumeration

/-- A mutation that stores no workload and reports none, and that fails like its calls. -/
structure Plain (mutate : Mutation) : Prop where
  calls : ∀ metadata template, CallsOnly [.ensureFilter] (mutate metadata template)
  raises : ∀ metadata template, Raises (fun _ => []) (mutate metadata template)

variable {mutate : Mutation} {workload : Workload} {workloads : List Workload}

theorem Plain.mutateOne_raises (plain : Plain mutate) (workload : Workload) :
    Raises (fun _ => []) (mutateOne mutate workload) :=
  .bind (plain.raises workload.metadata workload.template) fun _ => .perform rfl

/-- The update of a workload is the last call for it. -/
theorem Plain.mutateOne_calls (plain : Plain mutate) (workload : Workload) (answer : Answerer State) (state : State) :
    ∃ front last, (mutateOne mutate workload).exchanges answer state = front ++ last ∧
      callsOf .updateWorkload front = 0 ∧
      (last = [] ∧ ((mutateOne mutate workload).outcome answer state).1 ≠ .ok () ∨
        ∃ use, last = [use] ∧ use.request.name = .updateWorkload) := by
  let mutation := mutate workload.metadata workload.template
  have unstored : callsOf .updateWorkload (mutation.exchanges answer state) = 0 :=
    callsOf_exchanges_eq_zero (plain.calls workload.metadata workload.template) (by simp) state
  cases mutated : mutation.outcome answer state with
  | mk result middle =>
    cases result with
    | error e =>
      refine ⟨_, [], (exchanges_bind_error mutated).trans (List.append_nil _).symm, unstored, .inl ⟨rfl, ?_⟩⟩
      simp [mutateOne_of_error mutated]
    | ok template =>
      let update : Call := .updateWorkload (workload.withTemplate template)
      exact ⟨_, _, exchanges_bind_ok mutated, unstored, .inr ⟨⟨update, (answer update middle).1⟩, rfl, rfl⟩⟩

theorem Plain.callsOf_mutateOne (plain : Plain mutate)
    (stored : ((mutateOne mutate workload).outcome answer state).1 = .ok ()) :
    callsOf .updateWorkload ((mutateOne mutate workload).exchanges answer state) = 1 := by
  obtain ⟨front, last, calls, unstored, ⟨-, failed⟩ | ⟨use, rfl, named⟩⟩ :=
    plain.mutateOne_calls workload answer state
  · exact absurd stored failed
  · simp [calls, unstored, named]

theorem Plain.callsOf_before (plain : Plain mutate) {use : Exchange}
    (place : (mutateOne mutate workload).exchanges answer state = earlier ++ use :: later) :
    callsOf .updateWorkload earlier = 0 := by
  obtain ⟨front, last, calls, unstored, ends⟩ := plain.mutateOne_calls workload answer state
  rcases Exchange.append_cases (calls.symm.trans place) with ⟨between, rfl, behind⟩ | ⟨rest, rfl⟩
  · have none : between = [] := by
      rcases ends with ⟨rfl, -⟩ | ⟨update, rfl, -⟩
      · simp at behind
      · cases between with
        | nil => rfl
        | cons first more => simp at behind
    rw [none, List.append_nil, unstored]
  · rw [callsOf_append] at unstored
    exact (Nat.add_eq_zero_iff.mp unstored).1

theorem Plain.reports_cons (plain : Plain mutate) (workload : Workload) (rest : List Workload) (state : State) :
    (mutateEach mutate reporting (workload :: rest)).reports answer state =
      match (mutateOne mutate workload).outcome answer state with
      | (.ok (), middle) => (workload.metadata, none) :: (mutateEach mutate reporting rest).reports answer middle
      | (.error e, _) => [(workload.metadata, some e)] := by
  have attempted := outcome_attempt answer (mutateOne mutate workload) state
  rw [mutateEach_cons, reports_bind_ok attempted, reports_attempt, (plain.mutateOne_raises workload).reports_eq_nil]
  cases (mutateOne mutate workload).outcome answer state with
  | mk result middle =>
    cases result with
    | error e => rfl
    | ok value =>
      change (workload.metadata, none) :: ((mutateEach mutate reporting rest).bind fun others =>
        done (.ok (workload.metadata :: others))).reports answer middle = _
      rw [reports_bind_done]

/-- An error that is reported ends the enumeration. -/
theorem Plain.ends_of_reported (plain : Plain mutate) {metadata : ObjectMeta}
    (reported : (metadata, some e) ∈ (mutateEach mutate reporting workloads).reports answer state) :
    ((mutateEach mutate reporting workloads).outcome answer state).1 = .error e := by
  induction workloads generalizing state with
  | nil => simp [mutateEach] at reported
  | cons workload rest ih =>
    rw [plain.reports_cons] at reported
    cases ended : (mutateOne mutate workload).outcome answer state with
    | mk result middle =>
      rw [ended] at reported
      cases result with
      | error other =>
        obtain ⟨-, same⟩ := Prod.mk.inj (List.mem_singleton.mp reported)
        rw [(mutateEach_cons_error watches_reporting rest ended).1, Option.some.inj same]
      | ok value =>
        rcases List.mem_cons.mp reported with here | later
        · cases here
        · rw [(mutateEach_cons_ok watches_reporting rest ended).1, outcome_bind_error (Prod.ext (ih later) rfl)]

/-- The reports of an enumeration that so many workloads went through, and that one more ended with an error. -/
def Reports (workloads : List Workload) (stored : Nat) (e : Error) (reports : List (ObjectMeta × Option Error)) :
    Prop :=
  ∃ workload, workloads[stored]? = some workload ∧
    reports = ((workloads.take stored).map fun stored => (stored.metadata, none)) ++ [(workload.metadata, some e)]

/-- A call that fails for a workload ends the enumeration. -/
theorem Plain.mutateEach_fails (plain : Plain mutate)
    (place : (mutateEach mutate reporting workloads).exchanges answer state = earlier ++ ⟨request, .error e⟩ :: later) :
    ((mutateEach mutate reporting workloads).outcome answer state).1 = .error e ∧
      Reports workloads (callsOf .updateWorkload earlier) e
        ((mutateEach mutate reporting workloads).reports answer state) := by
  induction workloads generalizing state earlier with
  | nil => simp [mutateEach] at place
  | cons workload rest ih =>
    have reported : (mutateEach mutate reporting (workload :: rest)).reports answer state = _ :=
      plain.reports_cons workload rest state
    cases ended : (mutateOne mutate workload).outcome answer state with
    | mk result middle =>
      rw [ended] at reported
      cases result with
      | error other =>
        obtain ⟨failed, calls⟩ := mutateEach_cons_error watches_reporting rest ended
        rw [calls] at place
        have raised := ((plain.mutateOne_raises workload).ends_of_exchanges place).2
        rw [ended] at raised
        obtain rfl : other = e := Except.error.inj raised
        rw [failed, reported, plain.callsOf_before place]
        exact ⟨rfl, workload, rfl, rfl⟩
      | ok value =>
        obtain ⟨goes, calls⟩ := mutateEach_cons_ok watches_reporting rest ended
        rw [calls] at place
        rcases Exchange.append_cases place with ⟨between, rfl, behind⟩ | ⟨others, inside⟩
        · obtain ⟨failed, last, here, reports⟩ := ih behind
          have counted := plain.callsOf_mutateOne (congrArg Prod.fst ended)
          rw [goes, outcome_bind_error (Prod.ext failed rfl), reported, callsOf_append, counted, Nat.add_comm]
          refine ⟨rfl, last, here, ?_⟩
          simp [reports]
        · have raised := ((plain.mutateOne_raises workload).ends_of_exchanges inside).2
          rw [ended] at raised
          cases raised

end Enumeration

namespace Rollout

/-- The stages in which a rollout makes its calls. -/
inductive Stage
  | pulling
  | fetching
  | asking
  | publishing
  | waiting
  | clearing
  | applying
  deriving DecidableEq

/-- What an error of a stage is wrapped in, outermost first. -/
def Stage.texts : Stage → List String
  | pulling => ["pulling filter image"]
  | fetching => ["fetching filter image config"]
  | asking => ["getting istio version"]
  | publishing => ["adding image to cache"]
  | waiting => ["adding image to cache", "waiting for cache to publish event for image"]
  | clearing => ["adding image to cache", "cleaning up cache events for image"]
  | applying => ["applying filter to workload"]

variable (rollout : Rollout) (filter : FilterSpec)

/-- Whether the wait of a rollout has failed in a run without a complete poll. -/
def GaveUp (run : List Exchange) : Prop :=
  CacheSync.GaveUp rollout.settings.cache filter.image rollout.settings.cacheTimeout rollout.settings.pollInterval run

instance (run : List Exchange) : Decidable (rollout.GaveUp filter run) :=
  inferInstanceAs (Decidable (CacheSync.GaveUp ..))

/-- The stage in which a call is made after a run. Reports are listed by polls, as long as the cache may be polled, and
after that to be cleared away. -/
def stageOf (run : List Exchange) : CallName → Stage
  | .pullImage => .pulling
  | .readImageConfig => .fetching
  | .controlPlaneVersion => .asking
  | .readRegistry | .writeRegistry => .publishing
  | .listImageEvents =>
    if CacheSync.StillWaits rollout.settings.cache filter.image rollout.settings.cacheTimeout
        rollout.settings.pollInterval run then .waiting
    else .clearing
  | .readyReplicas => .waiting
  | .deleteEvent => .clearing
  | .listWorkloads | .updateWorkload | .ensureFilter | .deleteFilter => .applying

/-- How the first call that fails after a run ends a rollout: with its error in the stages of the call, unless the wait
has failed before. -/
inductive Provenance (run : List Exchange) (request : Call) (e : Error) : Except Error Unit → Prop
  | raised (counts : rollout.stageOf filter run request.name = .clearing → ¬ rollout.GaveUp filter run) :
      Provenance run request e (.error (e.inStages (rollout.stageOf filter run request.name).texts))
  | gaveUp (clearing : rollout.stageOf filter run request.name = .clearing) (failed : rollout.GaveUp filter run)
      (mismatch : String) :
      Provenance run request e
        (.error ((Error.syncTimeout filter.image rollout.settings.cacheTimeout mismatch).inStages Stage.waiting.texts))

variable {rollout filter}

theorem Provenance.of_stage {run : List Exchange} {stage : Stage} {result : Except Error Unit}
    (named : rollout.stageOf filter run request.name = stage) (counts : stage ≠ .clearing)
    (ended : result = .error (e.inStages stage.texts)) : rollout.Provenance filter run request e result := by
  rw [ended, ← named]
  exact .raised fun clearing => absurd (named.symm.trans clearing) counts

variable (rollout filter)

theorem prepare_raises (run : List Exchange) :
    Raises (fun name => (rollout.stageOf filter run name).texts) (rollout.prepare filter) := by
  rw [prepare_eq]
  exact .bind (.done _) fun _ => .bind (.perform_stage rfl) fun _ => .bind (.perform_stage rfl) fun _ =>
    .bind (.perform_stage rfl) fun _ => .done _

theorem plain_applyToWorkload (path : String) (schema : ConfigSchema) :
    Enumeration.Plain (rollout.applyToWorkload filter path schema) where
  calls := rollout.applyToWorkload_callsOnly filter path schema
  raises metadata template := by
    rw [applyToWorkload_eq]
    exact .bind (.done _) fun _ => .bind (.done _) fun _ => .bind (.perform rfl) fun _ => .done _

variable {rollout filter}

theorem stageOf_polling {run : List Exchange} {name : CallName} (named : name ∈ [.listImageEvents, .readyReplicas])
    (still : CacheSync.StillWaits rollout.settings.cache filter.image rollout.settings.cacheTimeout
      rollout.settings.pollInterval run) : rollout.stageOf filter run name = .waiting := by
  rcases List.mem_cons.mp named with rfl | counts
  · exact if_pos still
  · rw [List.mem_singleton.mp counts]
    rfl

theorem stageOf_clearing {run : List Exchange} {name : CallName} (named : name ∈ [.listImageEvents, .deleteEvent])
    (past : ¬ CacheSync.StillWaits rollout.settings.cache filter.image rollout.settings.cacheTimeout
      rollout.settings.pollInterval run) : rollout.stageOf filter run name = .clearing := by
  rcases List.mem_cons.mp named with rfl | deletes
  · exact if_neg past
  · rw [List.mem_singleton.mp deletes]
    rfl

/-- The first call that fails on the way of the image into the cache. -/
theorem syncCache_fails {before : List Exchange}
    (elsewhere : ∀ exchange ∈ before, exchange.request.name ∉ [CallName.listImageEvents, .readyReplicas])
    (place : ((syncCache rollout.settings filter.image).stage "adding image to cache").exchanges answer state =
      earlier ++ ⟨request, .error e⟩ :: later)
    (sound : ∀ exchange ∈ earlier, exchange.outcome.isOk = true) :
    rollout.Provenance filter (before ++ earlier) request e
      (((syncCache rollout.settings filter.image).stage "adding image to cache").outcome answer state).1 := by
  rw [exchanges_stage] at place
  rw [outcome_stage]
  rcases CacheSync.sync_fails place sound with ⟨named, ended⟩ | unsettled
  · have publishing : rollout.stageOf filter (before ++ earlier) request.name = .publishing := by
      rcases List.mem_cons.mp named with read | written
      · rw [read]
        rfl
      · rw [List.mem_singleton.mp written]
        rfl
    exact .of_stage publishing (by decide) (congrArg (inStage "adding image to cache") ended)
  · have settled : CacheSync.Unsettled _ _ _ _ (before ++ earlier) request e
        ((syncCache rollout.settings filter.image).outcome answer state).1 := unsettled.prepend elsewhere
    generalize ((syncCache rollout.settings filter.image).outcome answer state).1 = result at settled ⊢
    cases settled with
    | polling named still => exact .of_stage (stageOf_polling named still) (by decide) rfl
    | clearing named past passed =>
      have raised : rollout.Provenance filter (before ++ earlier) request e _ := .raised fun _ => passed
      rwa [stageOf_clearing named past] at raised
    | gaveUp named failed mismatch => exact .gaveUp (stageOf_clearing named failed.not_stillWaits) failed mismatch

variable (rollout filter) in
/-- Going through the workloads of a rollout. -/
def deployEach (version path : String) : Program (List ObjectMeta) :=
  Enumeration.mutateSelected rollout.settings.target.kind rollout.settings.target.namespaceName
    rollout.settings.target.labels (rollout.applyToWorkload filter path (.ofVersion version)) Enumeration.reporting

variable (rollout filter) in
/-- The call that lists the workloads of a rollout. -/
def listing : Call :=
  .listWorkloads rollout.settings.target.kind rollout.settings.target.namespaceName
    (LabelSelector.ofLabels rollout.settings.target.labels)

theorem deploy_eq_stage (version path : String) : rollout.deploy filter version path =
    ((rollout.deployEach filter version path).stage "applying filter to workload").bind fun _ => done (.ok ()) := rfl

theorem deploy_of_deployEach {version path : String}
    (failed : ((rollout.deployEach filter version path).outcome answer state).1 = .error e) :
    ((rollout.deploy filter version path).outcome answer state).1 = .error (e.inStages Stage.applying.texts) := by
  rw [deploy_eq_stage, outcome_bind_error (outcome_stage_error (Prod.ext failed rfl) _)]
  rfl

theorem deploy_reports (version path : String) (state : State) :
    (rollout.deploy filter version path).reports answer state =
      (rollout.deployEach filter version path).reports answer state := by
  rw [deploy_eq_stage, reports_bind_done, reports_stage]

theorem deployEach_listing (version path : String) (answer : Answerer State) (state : State) :
    let each := Enumeration.mutateEach (rollout.applyToWorkload filter path (.ofVersion version)) Enumeration.reporting
    (∃ e after, (rollout.deployEach filter version path).outcome answer state = (.error e, after) ∧
        (rollout.deployEach filter version path).exchanges answer state = [⟨rollout.listing, .error e⟩] ∧
        (rollout.deployEach filter version path).reports answer state = []) ∨
      ∃ (workloads : List Workload) (middle : State),
        (rollout.deployEach filter version path).outcome answer state = (each workloads).outcome answer middle ∧
        (rollout.deployEach filter version path).exchanges answer state =
          ⟨rollout.listing, .ok workloads⟩ :: (each workloads).exchanges answer middle ∧
        (rollout.deployEach filter version path).reports answer state = (each workloads).reports answer middle := by
  intro each
  rcases Enumeration.mutateSelected_listing (rollout.applyToWorkload filter path (.ofVersion version))
    Enumeration.reporting rollout.settings.target.kind rollout.settings.target.namespaceName
    rollout.settings.target.labels answer state with ⟨e, after, failed, calls⟩ | ⟨workloads, middle, listed, calls⟩
  · exact .inl ⟨e, after, outcome_bind_error failed, calls, reports_bind_error failed⟩
  · exact .inr ⟨workloads, middle, outcome_bind_ok listed, calls, reports_bind_ok listed⟩

/-- A call that fails where the workloads are gone through ends that. -/
theorem deploy_fails {version path : String}
    (place : (rollout.deploy filter version path).exchanges answer state = earlier ++ ⟨request, .error e⟩ :: later) :
    let reports := (rollout.deploy filter version path).reports answer state
    ((rollout.deploy filter version path).outcome answer state).1 = .error (e.inStages Stage.applying.texts) ∧
      (request.deploys = false ∧ reports = [] ∨ request.deploys = true ∧ ∃ workloads : List Workload,
        ⟨rollout.listing, .ok workloads⟩ ∈ earlier ∧
          Enumeration.Reports workloads (callsOf .updateWorkload earlier) e reports) := by
  intro reports
  let mutate := rollout.applyToWorkload filter path (.ofVersion version)
  have plain : Enumeration.Plain mutate := rollout.plain_applyToWorkload filter path (.ofVersion version)
  have same : reports = (rollout.deployEach filter version path).reports answer state :=
    deploy_reports version path state
  rw [deploy_eq_stage, exchanges_bind_done, exchanges_stage] at place
  rcases deployEach_listing version path answer state with
    ⟨other, after, failed, calls, silent⟩ | ⟨workloads, middle, goes, calls, reported⟩
  · rw [calls] at place
    cases earlier with
    | nil =>
      obtain ⟨one, -⟩ := List.cons.inj place
      cases one
      exact ⟨deploy_of_deployEach (congrArg Prod.fst failed), .inl ⟨rfl, same.trans silent⟩⟩
    | cons first rest => simp at place
  · rw [calls] at place
    cases earlier with
    | nil =>
      obtain ⟨one, -⟩ := List.cons.inj place
      cases one
    | cons first between =>
      rw [List.cons_append] at place
      obtain ⟨rfl, behind⟩ := List.cons.inj place
      obtain ⟨failed, reports⟩ := plain.mutateEach_fails behind
      have only : CallsOnly [.ensureFilter, .updateWorkload]
          (Enumeration.mutateEach mutate Enumeration.reporting workloads) :=
        Enumeration.mutateEach_callsOnly (by simp) (fun _ _ => (plain.calls _ _).mono (by simp))
          (fun _ _ => .report _ _ (.done _)) workloads
      have made : ⟨request, .error e⟩ ∈ between ++ ⟨request, .error e⟩ :: later := by simp
      rw [← behind] at made
      have deploys : request.deploys = true := by simpa [Call.deploys] using only.name_mem made
      refine ⟨deploy_of_deployEach ((congrArg Prod.fst goes).trans failed),
        .inr ⟨deploys, workloads, List.mem_cons_self, ?_⟩⟩
      rw [same, reported]
      exact reports

/-- An error that a deployment reports ends it in its stage. -/
theorem deploy_ends_of_reported {version path : String} {metadata : ObjectMeta}
    (reported : (metadata, some e) ∈ (rollout.deploy filter version path).reports answer state) :
    ((rollout.deploy filter version path).outcome answer state).1 = .error (e.inStages Stage.applying.texts) := by
  have plain := rollout.plain_applyToWorkload filter path (.ofVersion version)
  rw [deploy_reports] at reported
  rcases deployEach_listing version path answer state with
    ⟨other, after, -, -, silent⟩ | ⟨workloads, middle, goes, -, reports⟩
  · rw [silent] at reported
    cases reported
  · rw [reports] at reported
    exact deploy_of_deployEach ((congrArg Prod.fst goes).trans (plain.ends_of_reported reported))

variable (rollout filter) in
/-- How a rollout ends at the first call that fails after a run, and what it has reported: nothing, unless the call
deploys to a workload, which then is the last one that is reported. -/
structure Fails (run : List Exchange) (request : Call) (e : Error) (result : Except Error Unit)
    (reports : List (ObjectMeta × Option Error)) : Prop where
  provenance : rollout.Provenance filter run request e result
  quiet : request.deploys = false → reports = []
  reported : request.deploys = true → ∃ workloads : List Workload, ⟨rollout.listing, .ok workloads⟩ ∈ run ∧
    Enumeration.Reports workloads (callsOf .updateWorkload run) e reports

theorem Fails.of_silent {run : List Exchange} {result : Except Error Unit} {reports : List (ObjectMeta × Option Error)}
    (provenance : rollout.Provenance filter run request e result) (elsewhere : request.deploys = false)
    (quiet : reports = []) : rollout.Fails filter run request e result reports :=
  ⟨provenance, fun _ => quiet, fun deploys => absurd (elsewhere.symm.trans deploys) Bool.false_ne_true⟩

/-- A call that fails where the workloads are gone through, after a run that stored none before. -/
theorem Fails.of_deploy_fails {version path : String} {before : List Exchange}
    (unstored : callsOf .updateWorkload before = 0)
    (place : (rollout.deploy filter version path).exchanges answer state = earlier ++ ⟨request, .error e⟩ :: later) :
    rollout.Fails filter (before ++ earlier) request e ((rollout.deploy filter version path).outcome answer state).1
      ((rollout.deploy filter version path).reports answer state) := by
  obtain ⟨failed, verdict⟩ := deploy_fails place
  have counted : callsOf .updateWorkload (before ++ earlier) = callsOf .updateWorkload earlier := by
    rw [callsOf_append, unstored, Nat.zero_add]
  have made : ⟨request, .error e⟩ ∈ (rollout.deploy filter version path).exchanges answer state := by simp [place]
  have named := (rollout.deploy_callsOnly filter version path).name_mem made
  have applying : rollout.stageOf filter (before ++ earlier) request.name = .applying := by
    simp only [List.mem_cons, List.not_mem_nil, or_false] at named
    rcases named with named | named | named <;> rw [named] <;> rfl
  have provenance := Provenance.of_stage applying (by decide) failed
  rcases verdict with ⟨elsewhere, silent⟩ | ⟨deploys, workloads, listed, reported⟩
  · exact .of_silent provenance elsewhere silent
  · refine ⟨provenance, fun elsewhere => absurd (elsewhere.symm.trans deploys) Bool.false_ne_true, fun _ => ?_⟩
    exact ⟨workloads, List.mem_append_right _ listed, by rwa [counted]⟩

/-- The first call that fails once a rollout has found out what it needs. -/
theorem sync_deploy_fails {version path : String} {before : List Exchange}
    (prepares : ∀ exchange ∈ before, exchange.request.name ∈
      [CallName.pullImage, .readImageConfig, .controlPlaneVersion])
    (place : (((syncCache rollout.settings filter.image).stage "adding image to cache").bind fun _ =>
      rollout.deploy filter version path).exchanges answer state = earlier ++ ⟨request, .error e⟩ :: later)
    (sound : ∀ exchange ∈ earlier, exchange.outcome.isOk = true) :
    let program := ((syncCache rollout.settings filter.image).stage "adding image to cache").bind fun _ =>
      rollout.deploy filter version path
    rollout.Fails filter (before ++ earlier) request e (program.outcome answer state).1
      (program.reports answer state) := by
  intro program
  let sync := (syncCache rollout.settings filter.image).stage "adding image to cache"
  have syncs : CallsOnly _ sync := .stage _ (CacheSync.sync_callsOnly ..)
  have quiet : sync.reports answer state = [] := (reports_stage ..).trans (CacheSync.sync_reports ..)
  have elsewhere : ∀ exchange ∈ before, exchange.request.name ∉ [CallName.listImageEvents, .readyReplicas] := by
    intro exchange member listed
    have disjoint : ∀ name ∈ [CallName.pullImage, .readImageConfig, .controlPlaneVersion],
        name ∉ [CallName.listImageEvents, .readyReplicas] := by decide
    exact disjoint _ (prepares exchange member) listed
  cases synced : sync.outcome answer state with
  | mk result middle =>
    cases result with
    | error other =>
      rw [exchanges_bind_error synced] at place
      have provenance := syncCache_fails elsewhere place sound
      have made : ⟨request, .error e⟩ ∈ sync.exchanges answer state := by simp [sync, place]
      rw [show outcome .. = _ from synced] at provenance
      rw [show program.outcome answer state = _ from outcome_bind_error synced]
      exact .of_silent provenance (not_deploys_of_callsOnly answer syncs (by simp) made)
        ((reports_bind_error synced).trans quiet)
    | ok value =>
      rw [exchanges_bind_ok synced] at place
      rcases Exchange.append_cases place with ⟨between, rfl, behind⟩ | ⟨rest, inside⟩
      · rw [show program.outcome answer state = _ from outcome_bind_ok synced,
          show program.reports answer state = _ from reports_bind_ok synced, quiet, List.nil_append, ← List.append_assoc]
        refine .of_deploy_fails ?_ behind
        have first : callsOf .updateWorkload before = 0 := callsOf_eq_zero fun exchange member same => by
          simpa [same] using prepares exchange member
        rw [callsOf_append, first, callsOf_exchanges_eq_zero syncs (by simp)]
      · have provenance := syncCache_fails elsewhere inside sound
        rw [show (sync.outcome answer state).1 = _ from congrArg Prod.fst synced] at provenance
        cases provenance

/-- The first call that fails in a rollout. -/
theorem fails_of_exchanges {start : State} (place : (rollout.apply filter).exchanges answer start =
    earlier ++ ⟨request, .error e⟩ :: later) (sound : ∀ exchange ∈ earlier, exchange.outcome.isOk = true) :
    rollout.Fails filter earlier request e ((rollout.apply filter).outcome answer start).1
      ((rollout.apply filter).reports answer start) := by
  have opens := rollout.prepare_callsOnly filter
  have quiet : (rollout.prepare filter).reports answer start = [] :=
    (rollout.prepare_raises filter earlier).reports_eq_nil start
  rw [apply_eq] at place ⊢
  cases prepared : (rollout.prepare filter).outcome answer start with
  | mk result ready =>
    cases result with
    | error other =>
      rw [exchanges_bind_error prepared] at place
      have raised := ((rollout.prepare_raises filter earlier).ends_of_exchanges place).2
      have made : ⟨request, .error e⟩ ∈ (rollout.prepare filter).exchanges answer start := by simp [place]
      rw [prepared] at raised
      obtain rfl := Except.error.inj raised
      rw [outcome_bind_error prepared, reports_bind_error prepared]
      refine .of_silent (.raised fun clearing => ?_) (not_deploys_of_callsOnly answer opens (by simp) made) quiet
      have named := opens.name_mem made
      simp only [List.mem_cons, List.not_mem_nil, or_false] at named
      rcases named with named | named | named <;> simp [named, stageOf] at clearing
    | ok found =>
      rw [exchanges_bind_ok prepared] at place
      rw [outcome_bind_ok prepared, reports_bind_ok prepared, quiet, List.nil_append]
      rcases Exchange.append_cases place with ⟨between, rfl, behind⟩ | ⟨rest, inside⟩
      · exact sync_deploy_fails (fun exchange member => opens.name_mem member) behind
          fun exchange member => sound exchange (List.mem_append_right _ member)
      · have raised := ((rollout.prepare_raises filter earlier).ends_of_exchanges inside).2
        rw [prepared] at raised
        cases raised

/-- An error that a rollout reports ends it in the last stage. -/
theorem ends_of_reported {start : State} {metadata : ObjectMeta}
    (reported : (metadata, some e) ∈ (rollout.apply filter).reports answer start) :
    ((rollout.apply filter).outcome answer start).1 = .error (e.inStages Stage.applying.texts) := by
  let sync := (syncCache rollout.settings filter.image).stage "adding image to cache"
  have quiet : (rollout.prepare filter).reports answer start = [] :=
    (rollout.prepare_raises filter []).reports_eq_nil start
  have syncQuiet (ready : State) : sync.reports answer ready = [] :=
    (reports_stage ..).trans (CacheSync.sync_reports ..)
  rw [apply_eq] at reported ⊢
  cases prepared : (rollout.prepare filter).outcome answer start with
  | mk result ready =>
    cases result with
    | error other =>
      rw [reports_bind_error prepared, quiet] at reported
      cases reported
    | ok found =>
      rw [reports_bind_ok prepared, quiet, List.nil_append] at reported
      rw [outcome_bind_ok prepared]
      cases synced : sync.outcome answer ready with
      | mk result middle =>
        cases result with
        | error other =>
          rw [reports_bind_error synced, syncQuiet] at reported
          cases reported
        | ok value =>
          rw [reports_bind_ok synced, syncQuiet, List.nil_append] at reported
          rw [outcome_bind_ok synced]
          exact deploy_ends_of_reported reported

/-- Where the error of a rollout comes from. An error that a workload is reported with ends the rollout in its last
stage. The first call that fails ends it with its error in exactly the stages of the call, which hide nothing of what it
is; the workload that the call was for is reported with the error itself, after those that were stored. But if the call
was to clear reports away after a wait that failed, the error of the wait counts. -/
theorem apply_fails (rollout : Rollout) (filter : FilterSpec) (answer : Answerer State) (start : State) :
    let ending := (rollout.apply filter).run answer start
    (∀ {metadata : ObjectMeta} {failure : Error}, (metadata, some failure) ∈ ending.trace.reports →
        ending.result = .error (failure.inStages Stage.applying.texts)) ∧
      ∀ {earlier later : List Exchange} {request : Call} {e : Error},
        (rollout.apply filter).exchanges answer start = earlier ++ ⟨request, .error e⟩ :: later →
        (∀ exchange ∈ earlier, exchange.outcome.isOk = true) →
        let stage := rollout.stageOf filter earlier request.name
        let gaveUp := stage = .clearing ∧ rollout.GaveUp filter earlier
        (gaveUp → ∃ mismatch, ending.result = .error
            ((Error.syncTimeout filter.image rollout.settings.cacheTimeout mismatch).inStages Stage.waiting.texts)) ∧
          (¬ gaveUp → ∃ returned, ending.result = .error returned ∧ returned = e.inStages stage.texts ∧
            returned.root = e.root ∧ returned.category = e.category ∧ returned.isNotFound = e.isNotFound ∧
            returned.isRetryable = e.isRetryable) ∧
          (request.deploys = false → ending.trace.reports = []) ∧
          (request.deploys = true → ∃ workloads : List Workload, ⟨rollout.listing, .ok workloads⟩ ∈ earlier ∧
            Enumeration.Reports workloads (callsOf .updateWorkload earlier) e ending.trace.reports) := by
  intro ending
  refine ⟨ends_of_reported, ?_⟩
  intro earlier later request e place sound stage gaveUp
  obtain ⟨provenance, quiet, reported⟩ := fails_of_exchanges place sound
  refine ⟨fun failed => ?_, fun counts => ⟨e.inStages stage.texts, ?_, rfl, ?_⟩, quiet, reported⟩
  · change rollout.Provenance filter earlier request e ending.result at provenance
    generalize ending.result = result at provenance ⊢
    cases provenance with
    | raised counts => exact absurd failed.2 (counts failed.1)
    | gaveUp clearing waited mismatch => exact ⟨mismatch, rfl⟩
  · change rollout.Provenance filter earlier request e ending.result at provenance
    generalize ending.result = result at provenance ⊢
    cases provenance with
    | raised _ => rfl
    | gaveUp clearing waited mismatch => exact absurd ⟨clearing, waited⟩ counts
  · simp

end Rollout

/-- The error of a call that failed. -/
def Exchange.error? (exchange : Exchange) : Option Error :=
  match exchange.outcome with
  | .ok _ => none
  | .error e => some e

/-- The place of a call that failed, by its name and its error. -/
theorem Exchange.place_of_error {run : List Exchange} {n : Nat} {name : CallName}
    {rest : List (CallName × Option Error)}
    (fails : (run.drop n).map (fun exchange => (exchange.request.name, exchange.error?)) = (name, some e) :: rest) :
    ∃ request later, request.name = name ∧ run = run.take n ++ ⟨request, .error e⟩ :: later := by
  obtain ⟨⟨request, outcome⟩, later, split, same, -⟩ := List.map_eq_cons_iff.mp fails
  obtain ⟨named, failed⟩ := Prod.mk.inj same
  cases outcome with
  | ok answered => cases failed
  | error other =>
    obtain rfl : other = e := Option.some.inj failed
    exact ⟨request, later, named, by rw [← split, List.take_append_drop]⟩

/-- What the API answers to an Envoy filter that it does not admit. -/
def Error.denied : Error :=
  .context "admission webhook" (.kubernetes (.refused ⟨"Failure", "denied", "Forbidden", 403⟩))

/-- A rollout that is denied the second Envoy filter, and one that can neither wait for the cache nor clear its reports
away. -/
theorem Rollout.apply_fails_denied :
    let denied := (Rollout.toDeployments.apply .auth).run World.answer
      (World.withVolume.withFaults [⟨.ensureFilter, 2, .denied⟩])
    let stuck := (Attempt.brief.rollout.apply .auth).run World.answer
      (World.unreported.withFaults [⟨.listImageEvents, 3, .denied⟩])
    (denied.result = .error (.context "applying filter to workload" .denied) ∧
        ∃ workloads, Enumeration.Reports workloads 1 .denied denied.trace.reports) ∧
      ∃ mismatch, stuck.result = .error (.context "adding image to cache"
        (.context "waiting for cache to publish event for image"
          (.syncTimeout "filters/auth:1" (.ofSeconds 1) mismatch))) := by
  intro denied stuck
  constructor
  · let run := (Rollout.toDeployments.apply .auth).exchanges World.answer
      (World.withVolume.withFaults [⟨.ensureFilter, 2, .denied⟩])
    have fails : (run.drop 7).map (fun exchange => (exchange.request.name, exchange.error?)) =
        [(.ensureFilter, some .denied)] := by decide +kernel
    have sound : ∀ exchange ∈ run.take 7, exchange.outcome.isOk = true := by decide +kernel
    have stored : callsOf .updateWorkload (run.take 7) = 1 := by decide +kernel
    obtain ⟨request, later, named, place⟩ := Exchange.place_of_error fails
    have applying : Rollout.toDeployments.stageOf .auth (run.take 7) request.name = .applying := by
      rw [named]
      rfl
    obtain ⟨-, raised, -, reported⟩ := (apply_fails .toDeployments .auth World.answer _).2 place sound
    rw [applying] at raised
    obtain ⟨_, ended, rfl, -⟩ := raised (by decide)
    obtain ⟨workloads, -, reports⟩ := reported (by simp [Call.deploys, named])
    rw [stored] at reports
    exact ⟨ended, workloads, reports⟩
  · let run := (Attempt.brief.rollout.apply .auth).exchanges World.answer
      (World.unreported.withFaults [⟨.listImageEvents, 3, .denied⟩])
    have fails : (run.drop 9).map (fun exchange => (exchange.request.name, exchange.error?)) =
        [(.listImageEvents, some .denied)] := by decide +kernel
    have sound : ∀ exchange ∈ run.take 9, exchange.outcome.isOk = true := by decide +kernel
    have clearing : Attempt.brief.rollout.stageOf .auth (run.take 9) .listImageEvents = .clearing := by decide +kernel
    have gaveUp : Attempt.brief.rollout.GaveUp .auth (run.take 9) := by decide +kernel
    obtain ⟨request, later, named, place⟩ := Exchange.place_of_error fails
    obtain ⟨timedOut, -⟩ := (apply_fails Attempt.brief.rollout .auth World.answer _).2 place sound
    exact timedOut ⟨named ▸ clearing, gaveUp⟩

end FilterRollout
