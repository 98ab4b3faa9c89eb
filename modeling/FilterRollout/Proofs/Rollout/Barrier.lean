import FilterRollout.Cluster.World
import FilterRollout.Proofs.Cache.Acknowledgment
import FilterRollout.Proofs.Cache.Registry
import FilterRollout.Proofs.Rollout.Stages

/-! The barrier between the cache and the workloads, over any number of rollouts of one image that share a registry.
Main statement: a change to a workload or an Envoy filter has a complete poll before it, unless an earlier run put the
image on the list and its own wait never saw a complete poll. -/

namespace FilterRollout

open Program

/-- An answerer that keeps one registry for a cache: what is read is what was written last, and nothing but a write
that is accepted changes it. -/
structure KeepsRegistry {State : Type} (answer : Answerer State) (cache : CacheLocation)
    (stored : State → Option ConfigMap) : Prop where
  read : ∀ {state registry}, (answer (.readRegistry cache) state).1 = .ok registry → stored state = some registry
  accepted : ∀ {state registry}, (answer (.writeRegistry registry) state).1 = .ok () →
    stored (answer (.writeRegistry registry) state).2 = some registry
  refused : ∀ {state registry e}, (answer (.writeRegistry registry) state).1 = .error e →
    stored (answer (.writeRegistry registry) state).2 = stored state
  others : ∀ {request state}, request.name ≠ .writeRegistry → stored (answer request state).2 = stored state

/-- A poll that found as many hosts with a success as ready replicas: the reports that it listed, and the count that it
read right after them. -/
def Acknowledged (cache : CacheLocation) (image : String) (run : List Exchange) : Prop :=
  ∃ before events ready after,
    run = before ++ ⟨.listImageEvents cache image, .ok events⟩ :: ⟨.readyReplicas cache, .ok ready⟩ :: after ∧
      ((CacheEvent.successHosts events).toFinset.card : Int) = ready

/-- Whether two exchanges in a row are such a poll. -/
def Exchange.completes (cache : CacheLocation) (image : String) : Exchange → Exchange → Bool
  | ⟨.listImageEvents listed about, .ok events⟩, ⟨.readyReplicas counted, .ok ready⟩ =>
    listed = cache && about = image && counted = cache && CacheEvent.acknowledged events ready
  | _, _ => false

theorem Exchange.completes_iff {cache : CacheLocation} {image : String} {first second : Exchange} :
    first.completes cache image second = true ↔
      ∃ events ready, first = ⟨.listImageEvents cache image, .ok events⟩ ∧
        second = ⟨.readyReplicas cache, .ok ready⟩ ∧
          ((CacheEvent.successHosts events).toFinset.card : Int) = ready := by
  constructor
  · intro poll
    unfold Exchange.completes at poll
    split at poll
    · simp only [Bool.and_eq_true, decide_eq_true_eq] at poll
      obtain ⟨⟨⟨rfl, rfl⟩, rfl⟩, complete⟩ := poll
      exact ⟨_, _, rfl, rfl, CacheEvent.acknowledged_iff.mp complete⟩
    · cases poll
  · rintro ⟨events, ready, rfl, rfl, complete⟩
    simp [completes, CacheEvent.acknowledged_iff.mpr complete]

theorem acknowledged_iff_completes {cache : CacheLocation} {image : String} {run : List Exchange} :
    Acknowledged cache image run ↔
      ∃ before first second after, run = before ++ first :: second :: after ∧
        first.completes cache image second = true := by
  constructor
  · rintro ⟨before, events, ready, after, rfl, complete⟩
    exact ⟨before, _, _, after, rfl, Exchange.completes_iff.mpr ⟨events, ready, rfl, rfl, complete⟩⟩
  · rintro ⟨before, first, second, after, rfl, poll⟩
    obtain ⟨events, ready, rfl, rfl, complete⟩ := Exchange.completes_iff.mp poll
    exact ⟨before, events, ready, after, rfl, complete⟩

instance decidableAcknowledged (cache : CacheLocation) (image : String) :
    (run : List Exchange) → Decidable (Acknowledged cache image run)
  | [] => isFalse fun seen => by
    obtain ⟨before, events, ready, after, none, -⟩ := seen
    simp at none
  | [exchange] => isFalse fun seen => by
    obtain ⟨before, events, ready, after, one, -⟩ := seen
    have short := congrArg List.length one
    simp only [List.length_cons, List.length_nil, List.length_append] at short
    omega
  | first :: second :: rest =>
    have := decidableAcknowledged cache image (second :: rest)
    decidable_of_iff (first.completes cache image second = true ∨ Acknowledged cache image (second :: rest)) <| by
      simp only [acknowledged_iff_completes]
      constructor
      · rintro (here | ⟨before, head, next, after, split, poll⟩)
        · exact ⟨[], first, second, rest, rfl, here⟩
        · exact ⟨first :: before, head, next, after, congrArg (first :: ·) split, poll⟩
      · rintro ⟨before, head, next, after, split, poll⟩
        cases before with
        | nil =>
          simp only [List.nil_append, List.cons.injEq] at split
          obtain ⟨rfl, rfl, rfl⟩ := split
          exact .inl poll
        | cons other before =>
          exact .inr ⟨before, head, next, after, (List.cons.inj split).2, poll⟩

/-- A run that wrote the registry. -/
def Registered (run : List Exchange) : Prop :=
  ∃ registry, (⟨.writeRegistry registry, .ok ()⟩ : Exchange) ∈ run

/-- Whether a call changes what proxies see of a filter. -/
def Call.deploys (request : Call) : Bool := request.name = .ensureFilter || request.name = .updateWorkload

/-- Whether the registry is there and lists an image. -/
def listsImage (image : String) (registry : Option ConfigMap) : Bool :=
  registry.any fun found => Registry.lists found image

theorem Acknowledged.mono {cache : CacheLocation} {image : String} {run : List Exchange}
    (seen : Acknowledged cache image run) (before after : List Exchange) :
    Acknowledged cache image (before ++ run ++ after) := by
  obtain ⟨front, events, ready, back, rfl, complete⟩ := seen
  exact ⟨before ++ front, events, ready, back ++ after, by simp, complete⟩

/-- A complete poll has a count of ready replicas in it. -/
theorem Acknowledged.readyReplicas_mem {cache : CacheLocation} {image : String} {run : List Exchange}
    (seen : Acknowledged cache image run) : ∃ exchange ∈ run, exchange.request.name = .readyReplicas := by
  obtain ⟨before, events, ready, after, rfl, -⟩ := seen
  exact ⟨⟨.readyReplicas cache, .ok ready⟩, by simp, rfl⟩

theorem Registered.mono {run : List Exchange} (registered : Registered run) (before after : List Exchange) :
    Registered (before ++ run ++ after) := by
  obtain ⟨registry, member⟩ := registered
  exact ⟨registry, by simp [member]⟩

theorem Registered.writeRegistry_mem {run : List Exchange} (registered : Registered run) :
    ∃ exchange ∈ run, exchange.request.name = .writeRegistry := by
  obtain ⟨registry, member⟩ := registered
  exact ⟨_, member, rfl⟩

namespace CacheSync

variable {State : Type} {answer : Answerer State}

theorem acknowledged_of_poll {cache : CacheLocation} {image : String} {state after : State}
    (success : (poll cache image).outcome answer state = (.ok none, after)) :
    Acknowledged cache image ((poll cache image).exchanges answer state) := by
  change ((perform (.listImageEvents cache image)).bind fun events =>
    (perform (.readyReplicas cache)).bind fun ready => _).outcome answer state = _ at success
  obtain ⟨events, middle, listed, later⟩ := exists_of_bind_ok success
  obtain ⟨ready, last, counted, verdict⟩ := exists_of_bind_ok later
  have complete : CacheEvent.acknowledged events ready = true := by
    simp only [pure_eq, outcome_done, Prod.mk.injEq, Except.ok.injEq] at verdict
    by_contra incomplete
    simp [incomplete] at verdict
  refine ⟨[], events, ready, [], ?_, CacheEvent.acknowledged_iff.mp complete⟩
  change ((perform (.listImageEvents cache image)).bind fun events =>
    (perform (.readyReplicas cache)).bind fun ready => _).exchanges answer state = _
  rw [exchanges_bind_ok listed, exchanges_bind_ok counted, exchanges_perform, exchanges_perform]
  rw [outcome_perform] at listed counted
  rw [listed, counted]
  rfl

theorem acknowledged_of_pollUpTo {cache : CacheLocation} {image : String} {timeout step rest : Duration} {more : Nat}
    {state after : State}
    (success : (pollUpTo cache image timeout step rest more).outcome answer state = (.ok (), after)) :
    Acknowledged cache image ((pollUpTo cache image timeout step rest more).exchanges answer state) := by
  induction more generalizing state with
  | zero =>
    obtain ⟨seen, middle, polled, later⟩ := exists_of_bind_ok success
    cases seen with
    | none =>
      have found := acknowledged_of_poll polled
      rw [pollUpTo, bind_eq, exchanges_bind_ok polled]
      exact found.mono [] _
    | some mismatch => simp [outcome_pause, outcome_fail] at later
  | succ more ih =>
    obtain ⟨seen, middle, polled, later⟩ := exists_of_bind_ok success
    rw [pollUpTo, bind_eq, exchanges_bind_ok polled]
    cases seen with
    | none => exact (acknowledged_of_poll polled).mono [] _
    | some mismatch =>
      have found := (ih later).mono ((poll cache image).exchanges answer state) []
      simpa using found

/-- A wait that is not skipped ends well only with a complete poll. -/
theorem acknowledged_of_settle {cache : CacheLocation} {image : String} {timeout interval : Duration}
    (waits : timeout.isZero = false) {state after : State}
    (success : (settle cache image timeout interval).outcome answer state = (.ok (), after)) :
    Acknowledged cache image ((settle cache image timeout interval).exchanges answer state) := by
  obtain ⟨waited, middle, first, later⟩ := exists_of_bind_ok success
  obtain ⟨cleaned, last, second, verdict⟩ := exists_of_bind_ok later
  have accepted : waited = .ok () := by
    cases waited with
    | error e => simp at verdict
    | ok value => rfl
  have polled : (awaitAcknowledgment cache image timeout interval).outcome answer state = (.ok (), middle) := by
    rw [outcome_attempt] at first
    obtain ⟨ended, rfl⟩ := Prod.mk.inj first
    rw [accepted] at ended
    exact (outcome_stage_ok_iff).mp (Prod.ext (Except.ok.inj ended) rfl)
  have found : Acknowledged cache image
      ((awaitAcknowledgment cache image timeout interval).exchanges answer state) := by
    simp only [awaitAcknowledgment, waits] at polled ⊢
    exact acknowledged_of_pollUpTo polled
  rw [settle, bind_eq, exchanges_bind_ok first, exchanges_attempt, exchanges_stage]
  exact found.mono [] _

/-- A publication says that the image is new exactly when it wrote the registry, which did not list it. -/
theorem publish_cases {cache : CacheLocation} {stored : State → Option ConfigMap}
    (keeps : KeepsRegistry answer cache stored) (image : String) (state : State) :
    (∃ e after, (publish cache image).outcome answer state = (.error e, after) ∧
      ¬ Registered ((publish cache image).exchanges answer state) ∧ stored after = stored state) ∨
    (∃ after, (publish cache image).outcome answer state = (.ok false, after) ∧
      ¬ Registered ((publish cache image).exchanges answer state) ∧ stored after = stored state ∧
      listsImage image (stored state) = true) ∨
    (∃ after registry updated, (publish cache image).outcome answer state = (.ok true, after) ∧
      stored state = some registry ∧ Registry.register? registry image = some updated ∧
      stored after = some updated ∧ Registered ((publish cache image).exchanges answer state)) := by
  have unchanged : stored (answer (.readRegistry cache) state).2 = stored state := keeps.others (by simp [Call.name])
  rcases publish_inversion answer cache image state with ⟨e, middle, read, ended, calls⟩ |
    ⟨registry, middle, read, registered, ended, calls⟩ |
    ⟨registry, updated, written, middle, after, read, registered, answered, ended, calls⟩
  · rw [read] at unchanged
    refine .inl ⟨e, middle, ended, ?_, unchanged⟩
    rintro ⟨other, member⟩
    simp [calls] at member
  · rw [read] at unchanged
    have kept : stored state = some registry := keeps.read (congrArg Prod.fst read)
    refine .inr (.inl ⟨middle, ended, ?_, unchanged, ?_⟩)
    · rintro ⟨other, member⟩
      simp [calls] at member
    · rw [kept]
      exact Registry.register?_eq_none_iff.mp registered
  · rw [read] at unchanged
    cases written with
    | error e =>
      have refused := keeps.refused (congrArg Prod.fst answered)
      rw [answered] at refused
      refine .inl ⟨e, after, ended, ?_, refused.trans unchanged⟩
      rintro ⟨other, member⟩
      rw [calls] at member
      rcases List.mem_cons.mp member with first | second
      · cases first
      · cases List.mem_singleton.mp second
    | ok value =>
      have accepted := keeps.accepted (congrArg Prod.fst answered)
      rw [answered] at accepted
      have kept : stored state = some registry := keeps.read (congrArg Prod.fst read)
      refine .inr (.inr ⟨after, registry, updated, ended, kept, registered, accepted, updated, ?_⟩)
      rw [calls]
      exact List.mem_cons_of_mem _ List.mem_cons_self

end CacheSync

/-- What a run does to a registry for the sake of one image, and how far the barrier holds within it. -/
structure Guarded (cache : CacheLocation) (image : String) (before after : Option ConfigMap) (run : List Exchange) :
    Prop where
  /-- A run that does not write the registry counts no replicas and leaves the registry alone. -/
  idle : ¬ Registered run → (∀ exchange ∈ run, exchange.request.name ≠ .readyReplicas) ∧ after = before
  /-- A run writes the registry only if it does not list the image, which it does afterwards. -/
  registers : Registered run →
    listsImage image before = false ∧ ('\n' ∉ image.toList → listsImage image after = true)
  /-- Unless the image is listed already, a complete poll comes before every deployment. -/
  barred : listsImage image before = false → ∀ earlier use later, run = earlier ++ use :: later →
    use.request.deploys = true → Acknowledged cache image earlier

/-- Exchanges that neither write a registry nor count replicas. -/
def Idle (run : List Exchange) : Prop :=
  ¬ Registered run ∧ ∀ exchange ∈ run, exchange.request.name ≠ .readyReplicas

theorem Idle.registered_append_iff {quiet : List Exchange} (idle : Idle quiet) (run : List Exchange) :
    (Registered (quiet ++ run) ↔ Registered run) ∧ (Registered (run ++ quiet) ↔ Registered run) := by
  have absent (registry : ConfigMap) : (⟨.writeRegistry registry, .ok ()⟩ : Exchange) ∉ quiet :=
    fun member => idle.1 ⟨registry, member⟩
  simp [Registered, absent]

namespace Guarded

variable {cache : CacheLocation} {image : String} {before after : Option ConfigMap} {run : List Exchange}

theorem registered_of_acknowledged (guarded : Guarded cache image before after run)
    (seen : Acknowledged cache image run) : Registered run := by
  by_contra idle
  obtain ⟨exchange, member, counts⟩ := seen.readyReplicas_mem
  exact (guarded.idle idle).1 exchange member counts

theorem not_registered_of_listed (guarded : Guarded cache image before after run)
    (listed : listsImage image before = true) : ¬ Registered run := fun registered => by
  simp [(guarded.registers registered).1] at listed

/-- Idle exchanges without deployments may come first. -/
theorem after_idle (guarded : Guarded cache image before after run) {quiet : List Exchange} (idle : Idle quiet)
    (undeployed : ∀ exchange ∈ quiet, exchange.request.deploys = false) :
    Guarded cache image before after (quiet ++ run) := by
  have same := (idle.registered_append_iff run).1
  refine ⟨fun still => ?_, fun registered => guarded.registers (same.mp registered), ?_⟩
  · obtain ⟨uncounted, kept⟩ := guarded.idle (mt same.mpr still)
    exact ⟨fun exchange member => (List.mem_append.mp member).elim (idle.2 exchange) (uncounted exchange), kept⟩
  · intro unlisted earlier use later split deploys
    rcases Exchange.append_cases split with ⟨between, rfl, rest⟩ | ⟨rest, inside⟩
    · simpa using (guarded.barred unlisted between use later rest deploys).mono quiet []
    · simp [undeployed use (by simp [inside])] at deploys

/-- Once the image was listed or a complete poll was seen, idle exchanges of any other kind may follow. -/
theorem before_idle (guarded : Guarded cache image before after run)
    (opened : listsImage image before = true ∨ Acknowledged cache image run) {quiet : List Exchange}
    (idle : Idle quiet) :
    Guarded cache image before after (run ++ quiet) := by
  have same := (idle.registered_append_iff run).2
  refine ⟨fun still => ?_, fun registered => guarded.registers (same.mp registered), ?_⟩
  · obtain ⟨uncounted, kept⟩ := guarded.idle (mt same.mpr still)
    exact ⟨fun exchange member => (List.mem_append.mp member).elim (uncounted exchange) (idle.2 exchange), kept⟩
  · intro unlisted earlier use later split deploys
    rcases Exchange.append_cases split with ⟨between, rfl, rest⟩ | ⟨rest, inside⟩
    · rcases opened with listed | seen
      · simp [unlisted] at listed
      · exact seen.mono [] between
    · exact guarded.barred unlisted earlier use rest inside deploys

end Guarded

variable {State : Type} {answer : Answerer State} {cache : CacheLocation} {stored : State → Option ConfigMap}

/-- Calls other than a write of the registry leave it alone. -/
theorem KeepsRegistry.kept (keeps : KeepsRegistry answer cache stored) {Value : Type} {names : List CallName}
    {program : Program Value} (only : CallsOnly names program) (reads : .writeRegistry ∉ names) (state : State) :
    stored (program.outcome answer state).2 = stored state :=
  only.preserves (fun _ _ named => keeps.others fun write => reads (write ▸ named)) state

theorem idle_of_callsOnly {Value : Type} {names : List CallName} {program : Program Value}
    (only : CallsOnly names program) (reads : .writeRegistry ∉ names) (uncounted : .readyReplicas ∉ names)
    (state : State) : Idle (program.exchanges answer state) := by
  refine ⟨fun registered => ?_, fun exchange member count => uncounted (count ▸ only.name_mem member)⟩
  obtain ⟨exchange, member, write⟩ := registered.writeRegistry_mem
  exact reads (write ▸ only.name_mem member)

namespace CacheSync

/-- The registry and the wait together: what holds of the stage however it ends, and that it ends well only if the
image was listed before or a complete poll was seen. -/
theorem sync_guarded (keeps : KeepsRegistry answer cache stored) (image : String) {timeout : Duration}
    (waits : timeout.isZero = false) (interval : Duration) (state : State) :
    let ended := (sync cache image timeout interval).outcome answer state
    let run := (sync cache image timeout interval).exchanges answer state
    Guarded cache image (stored state) (stored ended.2) run ∧
      (ended.1 = .ok () → listsImage image (stored state) = true ∨ Acknowledged cache image run) := by
  have noUse : ∀ exchange ∈ (sync cache image timeout interval).exchanges answer state,
      exchange.request.deploys = false := by
    intro exchange member
    have named := (sync_callsOnly cache image timeout interval).name_mem member
    simp only [Call.deploys]
    rcases hname : exchange.request.name <;> simp_all
  have barred : ∀ earlier use later, (sync cache image timeout interval).exchanges answer state =
      earlier ++ use :: later → use.request.deploys = true →
        Acknowledged cache image earlier := fun earlier use later split deploys => by
    simp [noUse use (by simp [split])] at deploys
  have quiet : ∀ exchange ∈ (publish cache image).exchanges answer state,
      exchange.request.name ≠ .readyReplicas := fun exchange member counts => by
    have named := (publish_callsOnly cache image).name_mem member
    simp [counts] at named
  rcases publish_cases keeps image state with ⟨e, after, failed, idle, kept⟩ | ⟨after, found, idle, kept, listed⟩ |
      ⟨after, registry, updated, added, read, registered, wrote, written⟩
  · rw [sync_eq, outcome_bind_error failed, exchanges_bind_error failed]
    refine ⟨⟨fun _ => ⟨quiet, kept⟩, fun registered => absurd registered idle, fun _ => ?_⟩, by simp⟩
    simpa only [sync_eq, exchanges_bind_error failed] using barred
  · rw [sync_eq, outcome_bind_ok found, exchanges_bind_ok found]
    simp only [Bool.false_eq_true, if_false, outcome_done, exchanges_done, List.append_nil]
    refine ⟨⟨fun _ => ⟨quiet, kept⟩, fun registered => absurd registered idle, fun _ => ?_⟩, fun _ => .inl listed⟩
    simpa [sync_eq, exchanges_bind_ok found] using barred
  · rw [sync_eq, outcome_bind_ok added, exchanges_bind_ok added]
    simp only [if_true]
    have unlisted : listsImage image (stored state) = false := by
      rw [read]
      exact Bool.eq_false_iff.mpr fun listed => by simp [Registry.register?_eq_none_iff.mpr listed] at registered
    have left : stored ((settle cache image timeout interval).outcome answer after).2 = some updated :=
      (keeps.kept (settle_callsOnly cache image timeout interval) (by simp) after).trans wrote
    refine ⟨⟨fun idle => absurd (written.mono [] _) idle, fun _ => ⟨unlisted, fun oneLine => ?_⟩, fun _ => ?_⟩, ?_⟩
    · rw [left]
      exact Registry.lists_of_register? registered oneLine
    · simpa [sync_eq, exchanges_bind_ok added] using barred
    · intro success
      have polled := (acknowledged_of_settle waits (Prod.ext success rfl)).mono
        ((publish cache image).exchanges answer state) []
      exact .inr (by simpa using polled)

end CacheSync

/-- The barrier within one rollout, whatever is answered and wherever it ends. -/
theorem Rollout.apply_guarded (rollout : Rollout) (filter : FilterSpec)
    (keeps : KeepsRegistry answer rollout.settings.cache stored)
    (waits : rollout.settings.cacheTimeout.isZero = false) (state : State) :
    Guarded rollout.settings.cache filter.image (stored state)
      (stored ((rollout.apply filter).outcome answer state).2) ((rollout.apply filter).exchanges answer state) := by
  have prepares := rollout.prepare_callsOnly filter
  have idle : Idle ((rollout.prepare filter).exchanges answer state) :=
    idle_of_callsOnly prepares (by simp) (by simp) state
  have undeployed : ∀ exchange ∈ (rollout.prepare filter).exchanges answer state,
      exchange.request.deploys = false := fun exchange member => by
    have named := prepares.name_mem member
    simp only [Call.deploys]
    rcases hname : exchange.request.name <;> simp_all
  have kept := keeps.kept prepares (by simp) state
  rw [apply_eq]
  cases prepared : (rollout.prepare filter).outcome answer state with
  | mk result middle =>
    rw [prepared] at kept
    cases result with
    | error e =>
      rw [outcome_bind_error prepared, exchanges_bind_error prepared]
      refine ⟨fun _ => ⟨idle.2, kept⟩, fun registered => absurd registered idle.1,
        fun _ earlier use later split deploys => ?_⟩
      simp [undeployed use (by simp [split])] at deploys
    | ok found =>
      rw [outcome_bind_ok prepared, exchanges_bind_ok prepared, ← kept]
      refine Guarded.after_idle ?_ idle undeployed
      obtain ⟨guarded, passes⟩ :=
        CacheSync.sync_guarded keeps filter.image waits rollout.settings.pollInterval middle
      cases synced : (syncCache rollout.settings filter.image).outcome answer middle with
      | mk ended last =>
        rw [show CacheSync.sync _ _ _ _ = syncCache rollout.settings filter.image from rfl, synced] at guarded passes
        have staged := outcome_stage answer "adding image to cache" (syncCache rollout.settings filter.image) middle
        rw [synced] at staged
        cases ended with
        | error e =>
          rw [outcome_bind_error staged, exchanges_bind_error staged, exchanges_stage]
          exact guarded
        | ok value =>
          have deploys := rollout.deploy_callsOnly filter found.1 found.2
          rw [outcome_bind_ok staged, exchanges_bind_ok staged, exchanges_stage, keeps.kept deploys (by simp) last]
          exact guarded.before_idle (passes rfl) (idle_of_callsOnly deploys (by simp) (by simp) last)

/-- A rollout and the filter that it is to apply. -/
structure Attempt where
  rollout : Rollout
  filter : FilterSpec

/-- An attempt that puts one image into one cache and does not skip the wait. -/
structure Attempt.Awaits (cache : CacheLocation) (image : String) (attempt : Attempt) : Prop where
  image : attempt.filter.image = image
  cache : attempt.rollout.settings.cache = cache
  waits : attempt.rollout.settings.cacheTimeout.isZero = false

/-- The exchanges of attempts one after another, run by run. Between two runs everything but the registry may
change. -/
inductive Series (answer : Answerer State) (stored : State → Option ConfigMap) :
    List Attempt → State → List (List Exchange) → Prop
  | done (state : State) : Series answer stored [] state []
  | next {attempt : Attempt} {rest : List Attempt} {left state : State} {runs : List (List Exchange)}
      (drift : stored state = stored left)
      (later : Series answer stored rest ((attempt.rollout.apply attempt.filter).outcome answer state).2 runs) :
      Series answer stored (attempt :: rest) left
        ((attempt.rollout.apply attempt.filter).exchanges answer state :: runs)

namespace Series

variable {image : String} {attempts : List Attempt} {state : State} {runs : List (List Exchange)}

theorem head_guarded {attempt : Attempt} (keeps : KeepsRegistry answer cache stored)
    (awaits : attempt.Awaits cache image) (state : State) :
    Guarded cache image (stored state) (stored ((attempt.rollout.apply attempt.filter).outcome answer state).2)
      ((attempt.rollout.apply attempt.filter).exchanges answer state) := by
  obtain ⟨rfl, rfl, waits⟩ := awaits
  exact attempt.rollout.apply_guarded attempt.filter keeps waits state

/-- Once the image is listed, no later run writes the registry or sees a complete poll. -/
theorem idle_of_listed (series : Series answer stored attempts state runs) (keeps : KeepsRegistry answer cache stored)
    (awaits : ∀ attempt ∈ attempts, attempt.Awaits cache image) (listed : listsImage image (stored state) = true) :
    ∀ run ∈ runs, ¬ Registered run ∧ ¬ Acknowledged cache image run := by
  induction series with
  | done state => simp
  | @next attempt rest left state runs drift later ih =>
    rw [← drift] at listed
    have guarded := head_guarded keeps (awaits attempt List.mem_cons_self) state
    have idle := guarded.not_registered_of_listed listed
    intro run member
    rcases List.mem_cons.mp member with rfl | member
    · exact ⟨idle, mt guarded.registered_of_acknowledged idle⟩
    · refine ih (fun other found => awaits other (List.mem_cons_of_mem _ found)) ?_ run member
      rw [(guarded.idle idle).2]
      exact listed

/-- The barrier over a series of runs. A deployment has a complete poll before it, in its own run or an earlier one,
exactly if no earlier run wrote the registry without seeing a complete poll. An image with a line break is the
exception: no registry ever lists it, so that every run waits for it anew. -/
theorem acknowledged_before_iff (series : Series answer stored attempts state runs)
    (keeps : KeepsRegistry answer cache stored) (awaits : ∀ attempt ∈ attempts, attempt.Awaits cache image)
    (fresh : listsImage image (stored state) = false) {before after : List (List Exchange)}
    {earlier behind : List Exchange} {use : Exchange} (place : runs = before ++ (earlier ++ use :: behind) :: after)
    (deploys : use.request.deploys = true) :
    ((∃ run ∈ before, Acknowledged cache image run) ∨ Acknowledged cache image earlier) ↔
      ('\n' ∈ image.toList ∨ ¬ ∃ run ∈ before, Registered run ∧ ¬ Acknowledged cache image run) := by
  induction series generalizing before with
  | done state => simp at place
  | @next attempt rest left state runs drift later ih =>
    rw [← drift] at fresh
    have guarded := head_guarded keeps (awaits attempt List.mem_cons_self) state
    have awaitsRest : ∀ other ∈ rest, other.Awaits cache image :=
      fun other found => awaits other (List.mem_cons_of_mem _ found)
    cases before with
    | nil =>
      obtain ⟨run, -⟩ := List.cons.inj place
      have seen := guarded.barred fresh earlier use _ run deploys
      simp [seen]
    | cons run before =>
      obtain ⟨head, tail⟩ := List.cons.inj place
      subst head
      by_cases registered : Registered ((attempt.rollout.apply attempt.filter).exchanges answer state)
      · by_cases broken : '\n' ∈ image.toList
        · have unlisted : listsImage image
              (stored ((attempt.rollout.apply attempt.filter).outcome answer state).2) = false := by
            cases found : stored ((attempt.rollout.apply attempt.filter).outcome answer state).2 with
            | none => rfl
            | some registry => exact Registry.not_lists_of_lineBreak broken registry
          have opened := (ih awaitsRest unlisted tail).mpr (.inl broken)
          refine iff_of_true ?_ (.inl broken)
          rcases opened with ⟨other, member, seen⟩ | seen
          · exact .inl ⟨other, List.mem_cons_of_mem _ member, seen⟩
          · exact .inr seen
        · have listed := (guarded.registers registered).2 broken
          have idle := later.idle_of_listed keeps awaitsRest listed
          have unseen : ∀ other ∈ before, ¬ Registered other ∧ ¬ Acknowledged cache image other :=
            fun other member => idle other (by simp [tail, member])
          have current := (idle (earlier ++ use :: behind) (by simp [tail])).2
          have unseenEarlier : ¬ Acknowledged cache image earlier := fun seen => current (by
            simpa using seen.mono [] (use :: behind))
          simp only [List.mem_cons, exists_eq_or_imp, unseenEarlier, broken, registered, or_false, false_or, true_and]
          by_cases seen : Acknowledged cache image ((attempt.rollout.apply attempt.filter).exchanges answer state)
          · refine iff_of_true (.inl seen) ?_
            rintro (unseenHere | ⟨other, member, wrote, -⟩)
            · exact unseenHere seen
            · exact (unseen other member).1 wrote
          · refine iff_of_false ?_ fun none => none (.inl seen)
            rintro (here | ⟨other, member, complete⟩)
            · exact seen here
            · exact (unseen other member).2 complete
      · obtain ⟨-, kept⟩ := guarded.idle registered
        have unseen := mt guarded.registered_of_acknowledged registered
        have opened := ih awaitsRest (kept ▸ fresh) tail
        simpa [unseen, registered] using opened

end Series

/-- A cluster in memory keeps one registry, which serves every cache. -/
theorem World.keepsRegistry (cache : CacheLocation) : KeepsRegistry World.answer cache World.registry where
  read := by
    intro world registry read
    simp only [World.answer] at read
    split at read
    · cases read
    · simp only [World.serve] at read
      split at read
      · rename_i found
        exact found.trans (congrArg some (Except.ok.inj read))
      · cases read
  accepted := by
    intro world registry accepted
    simp only [World.answer] at accepted ⊢
    split at accepted
    · cases accepted
    · rfl
  refused := by
    intro world registry e refused
    simp only [World.answer] at refused ⊢
    split at refused
    · rfl
    · cases refused
  others := by
    intro request world other
    simp only [World.answer]
    split
    · rfl
    · cases request with
      | writeRegistry registry => exact absurd rfl other
      | readRegistry cache => simp only [World.serve]; split <;> rfl
      | updateWorkload workload => simp only [World.serve]; split <;> rfl
      | _ => rfl

/-- A cluster with one workload and one ready replica, which has reported nothing. -/
def World.unreported : World where
  version := "1.8.0"
  digest := "sha256:ab"
  abiVersions := []
  registry := some ⟨.empty, none, none, none⟩
  events := []
  ready := [1]
  workloads := [
    ⟨.deployment, { ObjectMeta.empty with name := some "web", namespaceName := some "default" }, none, none⟩]
  filters := .empty
  faults := []
  counted := []

/-- An attempt that polls twice, a second apart. -/
def Attempt.brief : Attempt where
  rollout := ⟨{ Settings.default with cacheTimeout := .ofSeconds 1 }, by decide, .known, none⟩
  filter := ⟨"auth", "filters/auth:1", none, none, "inbound"⟩

theorem Attempt.brief_awaits : Attempt.brief.Awaits Settings.default.cache "filters/auth:1" := ⟨rfl, rfl, by decide⟩

/-- The world after a run of the brief attempt. -/
def World.afterBrief (world : World) : World :=
  ((Attempt.brief.rollout.apply Attempt.brief.filter).outcome World.answer world).2

/-- The exchanges of a run of the brief attempt. -/
def World.briefRun (world : World) : List Exchange :=
  (Attempt.brief.rollout.apply Attempt.brief.filter).exchanges World.answer world

theorem World.series_brief (world : World) :
    Series World.answer World.registry [.brief, .brief] world [world.briefRun, world.afterBrief.briefRun] :=
  .next rfl (.next rfl (.done _))

/-- The barrier does not hold over runs: where no replica reports anything, the first run gives up waiting, and the
second one deploys all the same. -/
theorem Series.deploys_unacknowledged :
    Series World.answer World.registry [.brief, .brief] .unreported
        [World.unreported.briefRun, World.unreported.afterBrief.briefRun] ∧
      listsImage "filters/auth:1" World.unreported.registry = false ∧
      (∃ use ∈ World.unreported.afterBrief.briefRun, use.request.deploys = true) ∧
      ∀ run ∈ [World.unreported.briefRun, World.unreported.afterBrief.briefRun],
        ¬ Acknowledged Settings.default.cache "filters/auth:1" run :=
  ⟨World.series_brief _, by decide, by decide +kernel, by decide +kernel⟩

/-- If a run gave up waiting before, the deployments of the next one have no complete poll before them. -/
theorem Series.acknowledged_before_iff_brief :
    ∃ earlier use behind, World.unreported.afterBrief.briefRun = earlier ++ use :: behind ∧
      use.request.deploys = true ∧
      ((∃ run ∈ [World.unreported.briefRun], Acknowledged Settings.default.cache "filters/auth:1" run) ∨
          Acknowledged Settings.default.cache "filters/auth:1" earlier ↔
        ('\n' ∈ "filters/auth:1".toList ∨ ¬ ∃ run ∈ [World.unreported.briefRun],
          Registered run ∧ ¬ Acknowledged Settings.default.cache "filters/auth:1" run)) := by
  have deploys : ∃ use ∈ World.unreported.afterBrief.briefRun, use.request.deploys = true := by decide +kernel
  obtain ⟨use, member, deploys⟩ := deploys
  obtain ⟨earlier, behind, split⟩ := List.append_of_mem member
  have place : [World.unreported.briefRun, World.unreported.afterBrief.briefRun] =
      [World.unreported.briefRun] ++ (earlier ++ use :: behind) :: [] := by
    rw [split]
    rfl
  have series := World.series_brief World.unreported
  exact ⟨earlier, use, behind, split, deploys,
    series.acknowledged_before_iff (World.keepsRegistry _) (by simp [Attempt.brief_awaits]) (by decide) place deploys⟩

end FilterRollout
