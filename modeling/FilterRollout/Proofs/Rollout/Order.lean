import FilterRollout.Proofs.Cache.Course
import FilterRollout.Proofs.Rollout.Deployment

/-! The order in which a rollout makes its calls, whatever answers them and wherever a call fails. Main statement:
`apply_follows`, by which a run goes through its stages up to the first call that fails, except that a wait that failed
is still followed by the clearing away of reports. -/

namespace FilterRollout.Rollout

open Program

/-- What is answered on the course of a rollout, apart from what concerns reports about its image. -/
structure Course where
  image : PulledImage
  config : ImageConfig
  version : String
  registry : ConfigMap
  workloads : List Workload

/-- The exchanges of a deployment, workload by workload: its Envoy filter is put, and then it is stored itself. A
workload that the filter does not fit ends them. -/
def deployments (rollout : Rollout) (filter : FilterSpec) (path : String) (schema : ConfigSchema) :
    List Workload → List Exchange
  | [] => []
  | workload :: rest =>
    provided (SidecarAnnotations.apply SidecarAnnotations.required workload.template).2 fun _ =>
      provided (rollout.built? filter path schema workload) fun envoy =>
        [⟨.ensureFilter envoy, .ok ()⟩,
          ⟨.updateWorkload ((rollout.application filter path schema).update workload), .ok ()⟩] ++
            rollout.deployments filter path schema rest

/-- What the answers come to, unless the interfaces or the digest of the image are refused: the version of the control
plane and the path of the binary. -/
def findings (rollout : Rollout) (filter : FilterSpec) (image : PulledImage) (config : ImageConfig) (version : String) :
    Except Error (String × String) := do
  checkAbi rollout.settings rollout.support filter.image config.abiVersions version
  let path ← cachedBinaryPath image.digest
  return (version, path)

namespace Course

variable (course : Course) (rollout : Rollout) (filter : FilterSpec)

/-- What is asked before the cache: the image, what it says about its binary, and the version of the control plane. -/
def preparing : List Exchange := [
  ⟨.pullImage filter.image, .ok course.image⟩,
  ⟨.readImageConfig course.image, .ok course.config⟩,
  ⟨.controlPlaneVersion rollout.settings.istioNamespace, .ok course.version⟩]

/-- How the image is brought into the cache. Given are the exchanges, and whether all went well. -/
def Caches (run : List Exchange) (passed : Bool) : Prop :=
  CacheSync.Syncs rollout.settings.cache filter.image rollout.settings.cacheTimeout rollout.settings.pollInterval
    course.registry run passed

def listing : Exchange :=
  let target := rollout.settings.target
  ⟨.listWorkloads target.kind target.namespaceName (LabelSelector.ofLabels target.labels), .ok course.workloads⟩

/-- How a rollout goes, stage by stage. It ends in the first stage that does not go well. Of the stages only the cache
makes calls after one that failed or after its time is up: what a wait leaves is cleared away. -/
inductive Yields : List Exchange → Prop
  | refused {e : Error} (invalid : filter.validate = .error e) : Yields []
  | unprepared {run : List Exchange} (valid : filter.validate = .ok ())
      (breaks : Breaks run (course.preparing rollout filter)) : Yields run
  | rejected {e : Error} (valid : filter.validate = .ok ())
      (rejects : rollout.findings filter course.image course.config course.version = .error e) :
      Yields (course.preparing rollout filter)
  | uncached {path : String} {run : List Exchange} (valid : filter.validate = .ok ())
      (found : rollout.findings filter course.image course.config course.version = .ok (course.version, path))
      (caches : course.Caches rollout filter run false) : Yields (course.preparing rollout filter ++ run)
  | cached {path : String} {run later : List Exchange} (valid : filter.validate = .ok ())
      (found : rollout.findings filter course.image course.config course.version = .ok (course.version, path))
      (caches : course.Caches rollout filter run true)
      (deploys : Follows later
        (course.listing rollout :: rollout.deployments filter path (.ofVersion course.version) course.workloads)) :
      Yields (course.preparing rollout filter ++ (run ++ later))

/-- The whole course, given the reports that each poll lists with the ready replicas that it counts, and the reports
that are cleared away. It ends early if the filter, its interfaces or the digest of its image are refused. -/
def exchanges (polls : List (List CacheEvent × Int)) (reports : List CacheEvent) : List Exchange :=
  provided filter.validate fun _ => course.preparing rollout filter ++
    provided (rollout.findings filter course.image course.config course.version) fun (version, path) =>
      CacheSync.syncing rollout.settings.cache filter.image course.registry polls reports ++
        course.listing rollout :: rollout.deployments filter path (.ofVersion version) course.workloads

/-- A run whose wait failed, at a call or for want of time: the reports are cleared away after it, and that is all. -/
structure Interrupts (run : List Exchange) : Prop where
  unlisted : Registry.lists course.registry filter.image = false
  ends : ∃ waited cleaned verdict,
    run = course.preparing rollout filter ++
        (CacheSync.publishing rollout.settings.cache filter.image course.registry ++ (waited ++ cleaned)) ∧
      CacheSync.Waits rollout.settings.cache filter.image rollout.settings.cacheTimeout rollout.settings.pollInterval
        waited false ∧
      CacheSync.Clears rollout.settings.cache filter.image cleaned verdict

/-- Whenever a wait failed, at a call or for want of time, the run goes on to clear the reports away, for which it lists
them once more, and it does nothing else. -/
def ClearsUp (run : List Exchange) : Prop :=
  ∀ waited later, run = course.preparing rollout filter ++
      (CacheSync.publishing rollout.settings.cache filter.image course.registry ++ (waited ++ later)) →
    CacheSync.Waits rollout.settings.cache filter.image rollout.settings.cacheTimeout rollout.settings.pollInterval
      waited false →
    ∃ verdict, CacheSync.Clears rollout.settings.cache filter.image later verdict

/-- What has gone well before a workload or an Envoy filter is changed. -/
structure Opens (path : String) (earlier : List Exchange) : Prop where
  abi : checkAbi rollout.settings rollout.support filter.image course.config.abiVersions course.version = .ok ()
  digest : cachedBinaryPath course.image.digest = .ok path
  opening : ∃ cached more, course.Caches rollout filter cached true ∧
    earlier = course.preparing rollout filter ++ (cached ++ course.listing rollout :: more)
  waited : Registry.lists course.registry filter.image = true ∨ rollout.settings.cacheTimeout.isZero = true ∨
    Acknowledged rollout.settings.cache filter.image earlier

/-- Before a run changes anything for a workload all else has gone well, and a workload is stored right after its own
Envoy filter was put. -/
def Guards (run : List Exchange) : Prop :=
  ∀ earlier use later, run = earlier ++ use :: later → use.request.deploys = true →
    ∃ path, course.Opens rollout filter path earlier ∧
      ∀ updated, use.request = .updateWorkload updated →
        ∃ before workload envoy, earlier = before ++ [⟨.ensureFilter envoy, .ok ()⟩] ∧
          workload ∈ course.workloads ∧ rollout.built? filter path (.ofVersion course.version) workload = .ok envoy ∧
          updated = (rollout.application filter path (.ofVersion course.version)).update workload

end Course

variable {State : Type} (answer : Answerer State) (rollout : Rollout) (filter : FilterSpec)

theorem of_findings_ok {rollout : Rollout} {filter : FilterSpec} {image : PulledImage} {config : ImageConfig}
    {version : String} {found : String × String} (success : rollout.findings filter image config version = .ok found) :
    checkAbi rollout.settings rollout.support filter.image config.abiVersions version = .ok () ∧
      cachedBinaryPath image.digest = .ok found.2 ∧ found.1 = version := by
  unfold findings at success
  cases abi : checkAbi rollout.settings rollout.support filter.image config.abiVersions version with
  | error e =>
    rw [abi] at success
    cases success
  | ok _ =>
    cases digest : cachedBinaryPath image.digest with
    | error e =>
      rw [abi, digest] at success
      cases success
    | ok path =>
      rw [abi, digest] at success
      obtain rfl := Except.ok.inj success
      exact ⟨rfl, rfl, rfl⟩

theorem prepare_eq : rollout.prepare filter = (Program.ofExcept filter.validate).bind fun _ =>
    ((perform (.pullImage filter.image)).stage "pulling filter image").bind fun image =>
      ((perform (.readImageConfig image)).stage "fetching filter image config").bind fun config =>
        (controlPlaneVersion rollout.settings).bind fun version =>
          done (rollout.findings filter image config version) := by
  have ends (image : PulledImage) (config : ImageConfig) (version : String) :
      ((Program.ofExcept (checkAbi rollout.settings rollout.support filter.image config.abiVersions version)).bind
        fun _ => (Program.ofExcept (cachedBinaryPath image.digest)).bind fun path => done (.ok (version, path))) =
          done (rollout.findings filter image config version) := by
    unfold findings
    cases checkAbi rollout.settings rollout.support filter.image config.abiVersions version with
    | error e => rfl
    | ok _ => cases cachedBinaryPath image.digest <;> rfl
  simp only [prepare, bind_eq, pure_eq]
  congr! with _ image config version
  exact ends image config version

/-- What a rollout asks before it checks anything but the filter. -/
def inquire : Program (PulledImage × ImageConfig × String) :=
  ((perform (.pullImage filter.image)).stage "pulling filter image").bind fun image =>
    ((perform (.readImageConfig image)).stage "fetching filter image config").bind fun config =>
      (controlPlaneVersion rollout.settings).bind fun version => done (.ok (image, config, version))

theorem prepare_eq_inquire : rollout.prepare filter = (Program.ofExcept filter.validate).bind fun _ =>
    (rollout.inquire filter).bind fun asked => done (rollout.findings filter asked.1 asked.2.1 asked.2.2) := by
  rw [prepare_eq, inquire]
  simp only [bind_assoc]
  rfl

/-- A rollout asks its questions in order. -/
theorem inquire_keeps (state : State) :
    ∃ (image : PulledImage) (config : ImageConfig) (version : String),
      (rollout.inquire filter).Keeps answer state [
        ⟨.pullImage filter.image, .ok image⟩, ⟨.readImageConfig image, .ok config⟩,
        ⟨.controlPlaneVersion rollout.settings.istioNamespace, .ok version⟩] ∧
      ∀ {asked after}, (rollout.inquire filter).outcome answer state = (.ok asked, after) →
        asked = (image, config, version) := by
  let pull : Program PulledImage := perform (.pullImage filter.image)
  obtain ⟨image, pulls, sameImage⟩ : ∃ image : PulledImage,
    pull.Keeps answer state [⟨.pullImage filter.image, .ok image⟩] ∧ _ :=
      Keeps.perform (.pullImage filter.image) answer state
  let pulled := (pull.outcome answer state).2
  let read : Program ImageConfig := perform (.readImageConfig image)
  obtain ⟨config, reads, sameConfig⟩ : ∃ config : ImageConfig,
    read.Keeps answer pulled [⟨.readImageConfig image, .ok config⟩] ∧ _ :=
      Keeps.perform (.readImageConfig image) answer pulled
  let fetched := (read.outcome answer pulled).2
  let ask : Program String := perform (.controlPlaneVersion rollout.settings.istioNamespace)
  obtain ⟨version, asks, sameVersion⟩ : ∃ version : String,
    ask.Keeps answer fetched [⟨.controlPlaneVersion rollout.settings.istioNamespace, .ok version⟩] ∧ _ :=
      Keeps.perform (.controlPlaneVersion rollout.settings.istioNamespace) answer fetched
  have pulledOnly {found : PulledImage} {after : State} {stage : String}
      (success : (pull.stage stage).outcome answer state = (.ok found, after)) : found = image ∧ after = pulled := by
    have success := outcome_stage_ok_iff.mp success
    exact ⟨sameImage success, (congrArg Prod.snd success).symm⟩
  have fetchedOnly {found : ImageConfig} {after : State} {stage : String}
      (success : (read.stage stage).outcome answer pulled = (.ok found, after)) : found = config ∧ after = fetched := by
    have success := outcome_stage_ok_iff.mp success
    exact ⟨sameConfig success, (congrArg Prod.snd success).symm⟩
  refine ⟨image, config, version, ?_, ?_⟩
  · refine (pulls.stage _).bind fun found after success => ?_
    obtain ⟨rfl, rfl⟩ := pulledOnly success
    refine (reads.stage _).bind fun found after success => ?_
    obtain ⟨rfl, rfl⟩ := fetchedOnly success
    exact (asks.stage _).map _
  · intro asked after success
    obtain ⟨_, middle, here, success⟩ := exists_of_bind_ok success
    obtain ⟨rfl, rfl⟩ := pulledOnly here
    obtain ⟨_, middle, here, success⟩ := exists_of_bind_ok success
    obtain ⟨rfl, rfl⟩ := fetchedOnly here
    obtain ⟨_, middle, here, success⟩ := exists_of_bind_ok success
    obtain rfl := sameVersion (outcome_stage_ok_iff.mp here)
    exact (Except.ok.inj (Prod.mk.inj success).1).symm

/-- A filter that is valid is refused only if a question is not answered, or because of the answers. -/
theorem prepare_asks (state : State) (valid : filter.validate = .ok ()) :
    ∃ (image : PulledImage) (config : ImageConfig) (version : String),
      let asked : List Exchange := [
        ⟨.pullImage filter.image, .ok image⟩, ⟨.readImageConfig image, .ok config⟩,
        ⟨.controlPlaneVersion rollout.settings.istioNamespace, .ok version⟩]
      (∃ e, ((rollout.prepare filter).outcome answer state).1 = .error e ∧
          Breaks ((rollout.prepare filter).exchanges answer state) asked) ∨
        (rollout.prepare filter).exchanges answer state = asked ∧
          ((rollout.prepare filter).outcome answer state).1 = rollout.findings filter image config version := by
  obtain ⟨image, config, version, keeps, same⟩ := inquire_keeps answer rollout filter state
  refine ⟨image, config, version, ?_⟩
  have parts : rollout.prepare filter =
      (rollout.inquire filter).bind fun asked => done (rollout.findings filter asked.1 asked.2.1 asked.2.2) := by
    rw [prepare_eq_inquire, valid]
    rfl
  rw [parts, exchanges_bind_done]
  cases ended : (rollout.inquire filter).outcome answer state with
  | mk result after =>
    cases result with
    | error e =>
      rw [outcome_bind_error ended]
      exact .inl ⟨e, rfl, keeps.breaks ended⟩
    | ok asked =>
      obtain rfl := same ended
      rw [outcome_bind_ok ended]
      exact .inr ⟨keeps.complete ended, rfl⟩

/-- What is done for one workload, unless the filter does not fit it. -/
theorem mutateOne_eq (path : String) (schema : ConfigSchema) (workload : Workload) :
    Enumeration.mutateOne (rollout.applyToWorkload filter path schema) workload =
      (Program.ofExcept (SidecarAnnotations.apply SidecarAnnotations.required workload.template).2).bind fun _ =>
        (Program.ofExcept (rollout.built? filter path schema workload)).bind fun envoy =>
          (perform (.ensureFilter envoy)).bind fun _ =>
            perform (.updateWorkload ((rollout.application filter path schema).update workload)) := by
  let store (template : PodTemplate) : Program Unit := perform (.updateWorkload (workload.withTemplate template))
  have parts : Enumeration.mutateOne (rollout.applyToWorkload filter path schema) workload =
      (rollout.applyToWorkload filter path schema workload.metadata workload.template).bind store := rfl
  rw [parts, applyToWorkload_eq, bind_assoc]
  simp only [bind_assoc]
  rfl

/-- One workload after another takes its part of the course. -/
theorem deployments_follows (path : String) (schema : ConfigSchema) (workloads : List Workload) (state : State) :
    Follows ((Enumeration.mutateEach (rollout.applyToWorkload filter path schema) Enumeration.reporting
      workloads).exchanges answer state) (rollout.deployments filter path schema workloads) := by
  induction workloads generalizing state with
  | nil => exact .whole rfl
  | cons workload rest ih =>
    let one := Enumeration.mutateOne (rollout.applyToWorkload filter path schema) workload
    have parts : one = _ := rollout.mutateOne_eq filter path schema workload
    have ended {e : Error} {after : State} (failed : one.outcome answer state = (.error e, after)) :=
      (Enumeration.mutateEach_cons_error Enumeration.watches_reporting rest failed).2
    -- A workload that is refused makes no call, and nothing comes after it.
    have refused (e : Error) (same : one = done (.error e)) :
        (Enumeration.mutateEach (rollout.applyToWorkload filter path schema) Enumeration.reporting
          (workload :: rest)).exchanges answer state = [] := by
      have failed : one.outcome answer state = (.error e, state) := by rw [same, outcome_done]
      rw [ended failed, show Enumeration.mutateOne _ workload = _ from same, exchanges_done]
    rw [deployments]
    cases merged : (SidecarAnnotations.apply SidecarAnnotations.required workload.template).2 with
    | error e =>
      rw [merged] at parts
      exact .whole (refused e parts)
    | ok value =>
      cases built : rollout.built? filter path schema workload with
      | error e =>
        rw [merged, built] at parts
        exact .whole (refused e parts)
      | ok envoy =>
        let updated := (rollout.application filter path schema).update workload
        rw [merged, built] at parts
        have keeps : one.Keeps answer state
            [⟨.ensureFilter envoy, .ok ()⟩, ⟨.updateWorkload updated, .ok ()⟩] := by
          rw [parts]
          have ensures := Keeps.perform_unit (.ensureFilter envoy) () (fun _ => rfl) answer state
          exact ensures.bind fun _ after _ => .perform_unit (.updateWorkload updated) () (fun _ => rfl) answer after
        cases verdict : one.outcome answer state with
        | mk result middle =>
          cases result with
          | error e =>
            rw [ended verdict]
            exact .broken ((keeps.breaks verdict).extend _)
          | ok stored =>
            rw [(Enumeration.mutateEach_cons_ok Enumeration.watches_reporting rest verdict).2,
              show (Enumeration.mutateOne _ workload).exchanges answer state = _ from keeps.complete verdict]
            exact (ih middle).prepend _

theorem deploy_follows (version path : String) (state : State) :
    ∃ workloads, Follows ((rollout.deploy filter version path).exchanges answer state)
      (⟨.listWorkloads rollout.settings.target.kind rollout.settings.target.namespaceName
          (LabelSelector.ofLabels rollout.settings.target.labels), .ok workloads⟩ ::
        rollout.deployments filter path (.ofVersion version) workloads) := by
  let target := rollout.settings.target
  let listing : Call := .listWorkloads target.kind target.namespaceName (LabelSelector.ofLabels target.labels)
  rw [deploy_eq, exchanges_bind_done, exchanges_stage]
  rcases Enumeration.mutateSelected_listing (rollout.applyToWorkload filter path (.ofVersion version))
    Enumeration.reporting target.kind target.namespaceName target.labels answer state with
    ⟨e, after, -, calls⟩ | ⟨workloads, middle, -, calls⟩
  · rw [calls]
    exact ⟨[], .broken (.here listing e ([] : List Workload) _)⟩
  · rw [calls]
    have deployed := rollout.deployments_follows answer filter path (.ofVersion version) workloads middle
    exact ⟨workloads, deployed.prepend [_]⟩

/-- Calls that are known to deploy nothing. -/
theorem not_deploys_of_callsOnly {Value : Type} {names : List CallName} {program : Program Value} {state : State}
    (only : CallsOnly names program) (others : ∀ name ∈ names, name ≠ .ensureFilter ∧ name ≠ .updateWorkload)
    {exchange : Exchange} (member : exchange ∈ program.exchanges answer state) : exchange.request.deploys = false := by
  obtain ⟨ensures, updates⟩ := others _ (only.name_mem member)
  simp [Call.deploys, ensures, updates]

/-- Right before a workload is stored its own Envoy filter was put. -/
theorem ensured_of_follows {path : String} {schema : ConfigSchema} {workloads : List Workload}
    {earlier later : List Exchange} {use : Exchange} {updated : Workload}
    (follows : Follows (earlier ++ use :: later) (rollout.deployments filter path schema workloads))
    (updates : use.request = .updateWorkload updated) :
    ∃ before workload envoy, earlier = before ++ [⟨.ensureFilter envoy, .ok ()⟩] ∧ workload ∈ workloads ∧
      rollout.built? filter path schema workload = .ok envoy ∧
      updated = (rollout.application filter path schema).update workload := by
  induction workloads generalizing earlier with
  | nil => exact absurd follows.eq_nil (by simp)
  | cons workload rest ih =>
    rw [deployments] at follows
    cases merged : (SidecarAnnotations.apply SidecarAnnotations.required workload.template).2 with
    | error e =>
      rw [merged] at follows
      exact absurd follows.eq_nil (by simp)
    | ok value =>
      cases built : rollout.built? filter path schema workload with
      | error e =>
        rw [merged, built] at follows
        exact absurd follows.eq_nil (by simp)
      | ok envoy =>
        rw [merged, built] at follows
        rcases earlier with _ | ⟨first, _ | ⟨second, earlier⟩⟩
        · obtain ⟨ensures, -⟩ := Follows.of_cons follows
          cases updates.symm.trans ensures
        · obtain ⟨rfl, behind⟩ := (Follows.of_cons follows).2 (by simp)
          obtain ⟨stores, -⟩ := Follows.of_cons behind
          cases updates.symm.trans stores
          exact ⟨[], workload, envoy, rfl, List.mem_cons_self, built, rfl⟩
        · obtain ⟨-, behind⟩ := (Follows.of_cons follows).2 (by simp)
          obtain ⟨-, behind⟩ := (Follows.of_cons behind).2 (by simp)
          obtain ⟨before, other, otherEnvoy, rfl, member, found⟩ := ih behind
          exact ⟨first :: second :: before, other, otherEnvoy, rfl, List.mem_cons_of_mem _ member, found⟩

namespace Course

variable {rollout filter} {course : Course} {run : List Exchange}

/-- The calls of a rollout are the first ones of the whole course, unless its wait failed. -/
theorem Yields.follows_or_interrupts (yields : course.Yields rollout filter run) :
    (∃ polls reports, Follows run (course.exchanges rollout filter polls reports)) ∨
      course.Interrupts rollout filter run := by
  cases yields with
  | refused invalid => exact .inl ⟨[], [], .whole (by rw [exchanges, invalid, provided])⟩
  | unprepared valid breaks =>
    refine .inl ⟨[], [], .broken ?_⟩
    rw [exchanges, valid]
    exact breaks.extend _
  | rejected valid rejects =>
    refine .inl ⟨[], [], .whole ?_⟩
    rw [exchanges, valid, rejects]
    exact (List.append_nil _).symm
  | uncached valid found caches =>
    rcases caches.exists_breaks rfl with
      ⟨polls, reports, breaks⟩ | ⟨unlisted, waited, cleaned, verdict, rfl, waits, clears⟩
    · refine .inl ⟨polls, reports, .broken ?_⟩
      rw [exchanges, valid, found]
      exact (breaks.extend _).prepend _
    · exact .inr ⟨unlisted, waited, cleaned, verdict, rfl, waits, clears⟩
  | cached valid found caches deploys =>
    obtain ⟨polls, reports, rfl⟩ := caches.exists_syncing rfl
    refine .inl ⟨polls, reports, ?_⟩
    rw [exchanges, valid, found]
    exact (deploys.prepend _).prepend _

theorem Yields.clearsUp (yields : course.Yields rollout filter run) : course.ClearsUp rollout filter run := by
  intro waited later split waits
  cases yields with
  | refused invalid => cases split
  | unprepared valid breaks => exact absurd ((List.append_nil run).trans split) (breaks.append_ne [] _)
  | rejected valid rejects => simp [CacheSync.publishing] at split
  | uncached valid found caches =>
    have cached := List.append_cancel_left split
    rcases caches.clears ((List.append_nil _).trans cached) waits with ⟨-, cleaned, verdict, rfl, clears⟩ | ⟨passed, -⟩
    · rw [List.append_nil]
      exact ⟨verdict, clears⟩
    · cases passed
  | cached valid found caches deploys =>
    rcases caches.clears (List.append_cancel_left split) waits with ⟨failed, -⟩ | ⟨-, rfl⟩
    · cases failed
    · -- A rollout that goes on lists the workloads, but a wait lists reports first.
      obtain ⟨answered, more, rfl⟩ := waits.exists_listing
      obtain ⟨lists, -⟩ := Follows.of_cons deploys
      cases lists

/-- A run that changes nothing. -/
theorem guards_of_quiet (quiet : ∀ exchange ∈ run, exchange.request.deploys = false) :
    course.Guards rollout filter run := by
  intro earlier use later split deploys
  rw [quiet use (split ▸ List.mem_append_right _ List.mem_cons_self)] at deploys
  cases deploys

theorem quiet_preparing : ∀ exchange ∈ course.preparing rollout filter, exchange.request.deploys = false := by
  simp [preparing, Call.deploys, Call.name]

/-- Workloads and Envoy filters are changed at the end of a rollout. -/
theorem guards_of_deployments {path : String} {cached later : List Exchange}
    (found : rollout.findings filter course.image course.config course.version = .ok (course.version, path))
    (caches : course.Caches rollout filter cached true)
    (quiet : ∀ exchange ∈ cached, exchange.request.deploys = false)
    (follows : Follows later
      (course.listing rollout :: rollout.deployments filter path (.ofVersion course.version) course.workloads)) :
    course.Guards rollout filter (course.preparing rollout filter ++ (cached ++ later)) := by
  intro earlier use behind split deploys
  rw [← List.append_assoc] at split
  rcases Exchange.append_cases split with ⟨between, rfl, rfl⟩ | ⟨rest, inside⟩
  · cases between with
    | nil =>
      obtain ⟨lists, -⟩ := Follows.of_cons follows
      rw [lists] at deploys
      cases deploys
    | cons first more =>
      obtain ⟨rfl, onward⟩ := (Follows.of_cons follows).2 (by simp)
      obtain ⟨abi, digest, -⟩ := of_findings_ok found
      refine ⟨path, ⟨abi, digest, ⟨cached, more, caches, List.append_assoc ..⟩, ?_⟩, fun updated updates => ?_⟩
      · exact (caches.acknowledged rfl).imp id (Or.imp id fun seen => seen.mono _ _)
      · obtain ⟨before, workload, envoy, rfl, ensured⟩ := ensured_of_follows rollout filter onward updates
        exact ⟨_, workload, envoy, (List.append_assoc _ (course.listing rollout :: before) _).symm, ensured⟩
  · have opening : ∀ exchange ∈ course.preparing rollout filter ++ cached, exchange.request.deploys = false :=
      List.forall_mem_append.mpr ⟨quiet_preparing, quiet⟩
    rw [opening use (inside ▸ List.mem_append_right _ List.mem_cons_self)] at deploys
    cases deploys

end Course

/-- What a rollout does once its questions are answered. -/
theorem yields_of_findings {image : PulledImage} {config : ImageConfig} {version path : String}
    (valid : filter.validate = .ok ()) (found : rollout.findings filter image config version = .ok (version, path))
    (state : State) :
    ∃ registry workloads,
      let course : Course := ⟨image, config, version, registry, workloads⟩
      let run := course.preparing rollout filter ++ (((syncCache rollout.settings filter.image).stage
        "adding image to cache").bind fun _ => rollout.deploy filter version path).exchanges answer state
      course.Yields rollout filter run ∧ course.Guards rollout filter run := by
  let sync := syncCache rollout.settings filter.image
  obtain ⟨registry, syncs⟩ : ∃ registry, CacheSync.Syncs rollout.settings.cache filter.image
      rollout.settings.cacheTimeout rollout.settings.pollInterval registry (sync.exchanges answer state)
      (sync.outcome answer state).1.isOk := CacheSync.sync_syncs answer ..
  have quiet : ∀ exchange ∈ sync.exchanges answer state, exchange.request.deploys = false :=
    fun _ => not_deploys_of_callsOnly answer (CacheSync.sync_callsOnly ..) (by simp)
  cases synced : sync.outcome answer state with
  | mk result middle =>
    rw [synced] at syncs
    cases result with
    | error e =>
      rw [exchanges_bind_error (outcome_stage_error synced _), exchanges_stage]
      exact ⟨registry, [], .uncached valid found syncs,
        Course.guards_of_quiet (List.forall_mem_append.mpr ⟨Course.quiet_preparing, quiet⟩)⟩
    | ok value =>
      obtain ⟨workloads, follows⟩ := rollout.deploy_follows answer filter version path middle
      rw [exchanges_bind_ok (outcome_stage_ok synced _), exchanges_stage]
      exact ⟨registry, workloads, .cached valid found syncs follows,
        Course.guards_of_deployments found syncs quiet follows⟩

/-- A rollout goes through its stages. It ends at the first call that fails, except that a wait that failed or took too
long is followed by the clearing away of reports and by nothing else. So its calls are the first ones of the whole
course unless its wait failed, and after a wait that failed the clearing away is never left out. Before a run changes
anything for a workload all else has gone well, and a workload is stored right after its own Envoy filter was put. -/
theorem apply_follows (state : State) :
    let run := (rollout.apply filter).exchanges answer state
    ∃ course : Course,
      course.Yields rollout filter run ∧
      ((∃ polls reports, ((rollout.apply filter).run answer state).trace.calls <+:
          (course.exchanges rollout filter polls reports).map (·.request)) ∨
        course.Interrupts rollout filter run) ∧
      course.ClearsUp rollout filter run ∧
      course.Guards rollout filter run := by
  intro run
  suffices goes : ∃ course : Course, course.Yields rollout filter run ∧ course.Guards rollout filter run by
    obtain ⟨course, yields, guards⟩ := goes
    refine ⟨course, yields, yields.follows_or_interrupts.imp_left ?_, yields.clearsUp, guards⟩
    intro ⟨polls, reports, follows⟩
    rw [← map_request_exchanges]
    exact ⟨polls, reports, follows.requests_prefix⟩
  let prepare := rollout.prepare filter
  have whole : run = (prepare.bind fun found => ((syncCache rollout.settings filter.image).stage
      "adding image to cache").bind fun _ => rollout.deploy filter found.1 found.2).exchanges answer state := by
    rw [← apply_eq]
  have ends {e : Error} (failed : (prepare.outcome answer state).1 = .error e) :
      run = prepare.exchanges answer state := whole.trans (exchanges_bind_error (Prod.ext failed rfl))
  have quiet : ∀ exchange ∈ prepare.exchanges answer state, exchange.request.deploys = false :=
    fun _ => not_deploys_of_callsOnly answer (rollout.prepare_callsOnly filter) (by simp)
  let course (image : PulledImage) (config : ImageConfig) (version : String) : Course :=
    ⟨image, config, version, ⟨.empty, none, none, none⟩, []⟩
  cases valid : filter.validate with
  | error e =>
    have refused : prepare = done (.error e) := (prepare_eq rollout filter).trans (by rw [valid]; rfl)
    have nothing : run = [] := by rw [ends (e := e) (by rw [refused, outcome_done]), refused, exchanges_done]
    rw [nothing]
    exact ⟨course ⟨"", ""⟩ ⟨[]⟩ "", .refused valid, Course.guards_of_quiet (by simp)⟩
  | ok value =>
    obtain ⟨image, config, version, asks⟩ := rollout.prepare_asks answer filter state valid
    rcases asks with ⟨e, failed, breaks⟩ | ⟨asked, verdict⟩
    · rw [ends failed]
      exact ⟨course image config version, .unprepared valid breaks, Course.guards_of_quiet quiet⟩
    · replace asked : prepare.exchanges answer state = _ := asked
      cases found : rollout.findings filter image config version with
      | error e =>
        rw [ends (verdict.trans found)]
        refine ⟨course image config version, ?_, Course.guards_of_quiet quiet⟩
        rw [asked]
        exact .rejected valid found
      | ok answers =>
        obtain ⟨reported, path⟩ := answers
        obtain rfl : reported = version := (of_findings_ok found).2.2
        rw [exchanges_bind_ok (Prod.ext (verdict.trans found) rfl), asked] at whole
        obtain ⟨registry, workloads, goes⟩ := yields_of_findings answer rollout filter valid found _
        rw [whole]
        exact ⟨_, goes⟩

end FilterRollout.Rollout
