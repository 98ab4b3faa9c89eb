import FilterRollout.Proofs.Cluster.Sharing
import FilterRollout.Proofs.Rollout.Operations
import FilterRollout.Proofs.Sidecar.Edits

/-! Operations on workloads that others write as well. All workloads are listed once and updated one by one later, each
under the version that was listed, so that an update never takes away what somebody else wrote in between. Main
statement: `Operation.overwrites_nothing`. -/

namespace FilterRollout

open Program

variable {State : Type} {answer : Answerer State}

namespace Enumeration

variable {mutate : Mutation} {observe : Observer} {edit : PodTemplate → Except Error PodTemplate}
  {workloads : List Workload} {updated : Workload} {answered : (Call.updateWorkload updated).Outcome}
  {earlier later : List Exchange} {state : State}

/-- A mutation that gives pod templates this form, unless it fails, and leaves stored workloads alone. -/
structure Edits (answer : Answerer State) (mutate : Mutation) (edit : PodTemplate → Except Error PodTemplate) :
    Prop where
  calls : ∀ metadata template, CallsOnly [.ensureFilter] (mutate metadata template)
  ends : ∀ {metadata template changed state after},
    (mutate metadata template).outcome answer state = (.ok changed, after) → edit template = .ok changed

/-- An update sends one of the workloads with its new pod template, and all else as it was listed. -/
def Sends (edit : PodTemplate → Except Error PodTemplate) (workloads : List Workload) (updated : Workload) : Prop :=
  ∃ workload ∈ workloads, ∃ template, edit workload.template = .ok template ∧ updated = workload.withTemplate template

theorem mutateOne_updates (edits : Edits answer mutate edit) {workload : Workload}
    (place : (mutateOne mutate workload).exchanges answer state =
      earlier ++ ⟨.updateWorkload updated, answered⟩ :: later) :
    Sends edit [workload] updated ∧ later = [] ∧ ((mutateOne mutate workload).outcome answer state).1 = answered := by
  have early (rest : List Exchange) :
      (mutate workload.metadata workload.template).exchanges answer state ≠
        earlier ++ ⟨.updateWorkload updated, answered⟩ :: rest := by
    intro inside
    have named := (edits.calls workload.metadata workload.template).name_mem
      (inside ▸ List.mem_append_right _ List.mem_cons_self)
    simp [Call.name] at named
  cases mutated : (mutate workload.metadata workload.template).outcome answer state with
  | mk result middle =>
    cases result with
    | error e =>
      have calls : (mutateOne mutate workload).exchanges answer state =
          (mutate workload.metadata workload.template).exchanges answer state := exchanges_bind_error mutated
      exact absurd (calls.symm.trans place) (early later)
    | ok template =>
      have calls : (mutateOne mutate workload).exchanges answer state =
          (mutate workload.metadata workload.template).exchanges answer state ++
            [⟨.updateWorkload (workload.withTemplate template),
              (answer (.updateWorkload (workload.withTemplate template)) middle).1⟩] := exchanges_bind_ok mutated
      rw [calls] at place
      rcases Exchange.append_cases place with ⟨between, -, last⟩ | ⟨rest, inside⟩
      · cases between with
        | nil =>
          obtain ⟨same, rfl⟩ := List.cons.inj last
          cases same
          refine ⟨⟨workload, by simp, template, edits.ends mutated, rfl⟩, rfl, ?_⟩
          rw [mutateOne_of_ok mutated]
        | cons first others => simp at last
      · exact absurd inside (early rest)

theorem mutateEach_updates (watches : Watches observe) (edits : Edits answer mutate edit)
    (place : (mutateEach mutate observe workloads).exchanges answer state =
      earlier ++ ⟨.updateWorkload updated, answered⟩ :: later) :
    Sends edit workloads updated ∧
      ∀ e, answered = .error e →
        later = [] ∧ ((mutateEach mutate observe workloads).outcome answer state).1 = .error e := by
  induction workloads generalizing state earlier with
  | nil => simp [mutateEach] at place
  | cons workload rest ih =>
    have here {updated : Workload} (sends : Sends edit [workload] updated) : Sends edit (workload :: rest) updated := by
      obtain ⟨source, member, sent⟩ := sends
      exact ⟨source, by simp [List.mem_singleton.mp member], sent⟩
    cases ended : (mutateOne mutate workload).outcome answer state with
    | mk result middle =>
      cases result with
      | error e =>
        obtain ⟨failed, calls⟩ := mutateEach_cons_error watches rest ended
        rw [calls] at place
        obtain ⟨sends, rfl, verdict⟩ := mutateOne_updates edits place
        rw [ended] at verdict
        refine ⟨here sends, fun other refused => ⟨rfl, ?_⟩⟩
        obtain rfl := Except.error.inj (verdict.trans refused)
        exact congrArg Prod.fst failed
      | ok value =>
        obtain ⟨goes, calls⟩ := mutateEach_cons_ok watches rest ended
        rw [calls] at place
        rcases Exchange.append_cases place with ⟨between, -, behind⟩ | ⟨others, inside⟩
        · obtain ⟨⟨source, member, sent⟩, ends⟩ := ih behind
          refine ⟨⟨source, List.mem_cons_of_mem _ member, sent⟩, fun e refused => ?_⟩
          obtain ⟨rfl, failed⟩ := ends e refused
          refine ⟨rfl, ?_⟩
          rw [goes, outcome_bind_error (Prod.ext failed rfl)]
        · -- The update of this workload went well, since the next one was looked at.
          obtain ⟨sends, -, verdict⟩ := mutateOne_updates edits inside
          refine ⟨here sends, fun e refused => ?_⟩
          rw [ended, refused] at verdict
          cases verdict

variable {kind : WorkloadKind} {namespaceName : String} {labels : SortedMap String}

theorem mutateSelected_updates (watches : Watches observe) (edits : Edits answer mutate edit)
    (place : (mutateSelected kind namespaceName labels mutate observe).exchanges answer state =
      earlier ++ ⟨.updateWorkload updated, answered⟩ :: later) :
    ∃ workloads between,
      earlier = ⟨.listWorkloads kind namespaceName (LabelSelector.ofLabels labels), .ok workloads⟩ :: between ∧
      Sends edit workloads updated ∧
      ∀ e, answered = .error e →
        later = [] ∧ ((mutateSelected kind namespaceName labels mutate observe).outcome answer state).1 = .error e := by
  rcases mutateSelected_listing mutate observe kind namespaceName labels answer state with
    ⟨e, after, -, calls⟩ | ⟨workloads, middle, listed, calls⟩
  · rw [calls] at place
    cases earlier with
    | nil =>
      obtain ⟨same, -⟩ := List.cons.inj place
      cases congrArg Exchange.request same
    | cons head rest => simp at place
  · rw [calls] at place
    cases earlier with
    | nil =>
      obtain ⟨same, -⟩ := List.cons.inj place
      cases congrArg Exchange.request same
    | cons head between =>
      obtain ⟨rfl, behind⟩ := List.cons.inj place
      obtain ⟨sends, ends⟩ := mutateEach_updates watches edits behind
      refine ⟨workloads, between, rfl, sends, fun e refused => ?_⟩
      obtain ⟨rfl, failed⟩ := ends e refused
      exact ⟨rfl, (congrArg Prod.fst (outcome_bind_ok listed)).trans failed⟩

/-- An operation that goes through workloads in a stage of its own, with nothing before and after it that lists or
updates any. -/
theorem stage_updates {Found Value : Type} {names : List CallName} {opening : Program Found} {mutate : Found → Mutation}
    {stage : String} {closing : List ObjectMeta → Program Value} (opens : CallsOnly names opening)
    (listless : .listWorkloads ∉ names) (quiet : .updateWorkload ∉ names) (watches : Watches observe)
    (edits : ∀ found, Edits answer (mutate found) edit)
    (closes : ∀ changed, CallsOnly names (closing changed))
    (place : (opening.bind fun found => ((mutateSelected kind namespaceName labels (mutate found) observe).stage
      stage).bind closing).exchanges answer state = earlier ++ ⟨.updateWorkload updated, answered⟩ :: later) :
    ∃ before workloads between, earlier = before ++
        ⟨.listWorkloads kind namespaceName (LabelSelector.ofLabels labels), .ok workloads⟩ :: between ∧
      (∀ exchange ∈ before, exchange.request.name ≠ .listWorkloads) ∧ Sends edit workloads updated ∧
      ∀ e, answered = .error e → later = [] ∧
        ((opening.bind fun found => ((mutateSelected kind namespaceName labels (mutate found) observe).stage
          stage).bind closing).outcome answer state).1 = .error (.context stage e) := by
  have elsewhere {Ended : Type} {program : Program Ended} (only : CallsOnly names program) {left : State}
      {before after : List Exchange} :
      program.exchanges answer left ≠ before ++ ⟨.updateWorkload updated, answered⟩ :: after := by
    intro inside
    have named := only.name_mem (inside ▸ List.mem_append_right before List.mem_cons_self)
    exact quiet named
  cases opened : opening.outcome answer state with
  | mk result middle =>
    cases result with
    | error e =>
      rw [exchanges_bind_error opened] at place
      exact absurd place (elsewhere opens)
    | ok found =>
      rw [exchanges_bind_ok opened] at place
      rcases Exchange.append_cases place with ⟨within, rfl, behind⟩ | ⟨rest, inside⟩
      · let enumeration := mutateSelected kind namespaceName labels (mutate found) observe
        -- Wherever the enumeration ends, the update is one of its own calls.
        have own : ∃ rest, enumeration.exchanges answer middle = within ++ ⟨.updateWorkload updated, answered⟩ :: rest ∧
            (rest = [] → (∃ e, (enumeration.outcome answer middle).1 = .error e) → later = []) := by
          cases ended : (enumeration.stage stage).outcome answer middle with
          | mk result last =>
            cases result with
            | error e =>
              rw [exchanges_bind_error ended, exchanges_stage] at behind
              exact ⟨later, behind, fun same _ => same⟩
            | ok changed =>
              rw [exchanges_bind_ok ended, exchanges_stage] at behind
              rcases Exchange.append_cases behind with ⟨beyond, -, closed⟩ | ⟨rest, inside⟩
              · exact absurd closed (elsewhere (closes changed))
              · refine ⟨rest, inside, fun _ failed => ?_⟩
                obtain ⟨e, failed⟩ := failed
                rw [outcome_stage_ok_iff.mp ended] at failed
                cases failed
        obtain ⟨rest, calls, none⟩ := own
        obtain ⟨workloads, between, rfl, sends, ends⟩ := mutateSelected_updates watches (edits found) calls
        have unlisted : ∀ exchange ∈ opening.exchanges answer state, exchange.request.name ≠ .listWorkloads :=
          fun exchange member same => listless (same ▸ opens.name_mem member)
        refine ⟨opening.exchanges answer state, workloads, between, rfl, unlisted, sends, fun e refused => ?_⟩
        obtain ⟨empty, failed⟩ := ends e refused
        refine ⟨none empty ⟨e, failed⟩, ?_⟩
        rw [outcome_bind_ok opened, outcome_bind_error (outcome_stage_error (Prod.ext failed rfl) stage)]
      · exact absurd inside (elsewhere opens)

end Enumeration

namespace Operation

/-- The pod template that an operation gives to a workload, unless the required annotations cannot be merged into the
one that it has. -/
def edit : Operation → PodTemplate → Except Error PodTemplate
  | .apply _, template => SidecarAnnotations.merged SidecarAnnotations.required template
  | .remove _, template => .ok (SidecarAnnotations.remove SidecarAnnotations.required template)

/-- The stage in which an operation goes through the workloads. -/
def stage : Operation → String
  | .apply _ => "applying filter to workload"
  | .remove _ => "removing annotations from workload"

theorem edits_apply (rollout : Rollout) (filter : FilterSpec) (path : String) (schema : ConfigSchema) :
    Enumeration.Edits answer (rollout.applyToWorkload filter path schema) (edit (.apply filter)) where
  calls := rollout.applyToWorkload_callsOnly filter path schema
  ends := by
    intro metadata template changed state after success
    rw [Rollout.applyToWorkload_eq] at success
    obtain ⟨_, middle, merges, success⟩ := exists_of_bind_ok success
    obtain ⟨built, last, -, success⟩ := exists_of_bind_ok success
    obtain ⟨_, _, -, verdict⟩ := exists_of_bind_ok success
    exact SidecarAnnotations.merged_ok_iff.mpr
      (Prod.ext (Except.ok.inj (Prod.mk.inj verdict).1) (Prod.mk.inj merges).1)

theorem edits_remove (filter : FilterSpec) :
    Enumeration.Edits answer Rollout.removeFromWorkload (edit (.remove filter)) where
  calls _ _ := .done _
  ends := fun success => (Prod.mk.inj success).1

/-- Where an operation updates a workload, it has listed that one before, and it ends if the update fails. -/
theorem updates (operation : Operation) (rollout : Rollout) {state : State} {earlier later : List Exchange}
    {updated : Workload} {answered : (Call.updateWorkload updated).Outcome}
    (place : (operation.program rollout).exchanges answer state =
      earlier ++ ⟨.updateWorkload updated, answered⟩ :: later) :
    let target := rollout.settings.target
    ∃ before workloads between, earlier = before ++ ⟨.listWorkloads target.kind target.namespaceName
        (LabelSelector.ofLabels target.labels), .ok workloads⟩ :: between ∧
      (∀ exchange ∈ before, exchange.request.name ≠ .listWorkloads) ∧
      Enumeration.Sends operation.edit workloads updated ∧
      ∀ e, answered = .error e → later = [] ∧
        ((operation.program rollout).outcome answer state).1 = .error (.context operation.stage e) := by
  intro target
  cases operation with
  | apply filter =>
    let opening : Program (String × String) := (rollout.prepare filter).bind fun found =>
      ((Rollout.syncCache rollout.settings filter.image).stage "adding image to cache").bind fun _ => done (.ok found)
    have shape : (Operation.apply filter).program rollout = opening.bind fun found =>
        ((Enumeration.mutateSelected target.kind target.namespaceName target.labels
          (rollout.applyToWorkload filter found.2 (.ofVersion found.1)) Enumeration.reporting).stage
            "applying filter to workload").bind fun _ => done (.ok ()) := by
      simp only [program, opening, Rollout.apply_eq, Program.bind_assoc, bind_done_ok]
      rfl
    have opens : CallsOnly [.pullImage, .readImageConfig, .controlPlaneVersion, .readRegistry, .writeRegistry,
        .listImageEvents, .readyReplicas, .deleteEvent] opening :=
      .bind ((rollout.prepare_callsOnly filter).mono (by simp)) fun _ =>
        .bind (.stage _ ((CacheSync.sync_callsOnly ..).mono (by simp))) fun _ => .done _
    rw [shape] at place ⊢
    exact Enumeration.stage_updates opens (by simp) (by simp) Enumeration.watches_reporting
      (fun found => edits_apply rollout filter found.2 (.ofVersion found.1)) (fun _ => .done _) place
  | remove filter =>
    have shape : (Operation.remove filter).program rollout = _ := rollout.remove_eq filter
    rw [shape] at place ⊢
    have opens : CallsOnly [.deleteFilter] (Program.ofExcept filter.validate) := .ofExcept _
    exact Enumeration.stage_updates opens (by simp) (by simp) Enumeration.watches_silent (fun _ => edits_remove filter)
      (rollout.retire_callsOnly filter) place

/-- No foreign write is overwritten. An update that is accepted stores the new form of the workload that was current
then. An update of a workload that has changed since the workloads were listed is refused: what others wrote stays, and
the refusal ends the operation. -/
theorem overwrites_nothing (operation : Operation) (rollout : Rollout) {stock : State → Stock}
    (shares : Shares answer stock) {start : State} {earlier later : List Exchange} {updated : Workload}
    {answered : (Call.updateWorkload updated).Outcome}
    (place : (operation.program rollout).exchanges answer start =
      earlier ++ ⟨.updateWorkload updated, answered⟩ :: later) :
    let target := rollout.settings.target
    let before := earlier.takeWhile fun exchange => exchange.request.name ≠ .listWorkloads
    let stored (run : List Exchange) := stock (after answer start run) updated.address
    let next := (answer (.updateWorkload updated) (after answer start earlier)).2
    (∃ workloads between, earlier = before ++ ⟨.listWorkloads target.kind target.namespaceName
        (LabelSelector.ofLabels target.labels), .ok workloads⟩ :: between) ∧
      (answered = .ok () → ∃ current template served, (stored earlier).current = some current ∧
        operation.edit current.template = .ok template ∧ updated = current.withTemplate template ∧
        (stored earlier).Accepts updated served ∧ served.Drifts (stock next updated.address)) ∧
      ((stored earlier).current ≠ (stored before).current → ∃ e, answered = .error e ∧
        (stored earlier).Drifts (stock next updated.address) ∧ later = [] ∧
        (operation.program rollout).outcome answer start = (.error (.context operation.stage e), next)) := by
  intro target before stored next
  obtain ⟨opening, workloads, between, listed, unlisted, ⟨source, member, template, formed, sent⟩, ends⟩ :=
    operation.updates rollout place
  let listing : Exchange := ⟨.listWorkloads target.kind target.namespaceName (LabelSelector.ofLabels target.labels),
    .ok workloads⟩
  have first : before = opening := by
    have stops : (opening ++ listing :: between).takeWhile (fun exchange => exchange.request.name ≠ .listWorkloads) =
        opening := by
      rw [List.takeWhile_append_of_pos (by simpa using unlisted),
        List.takeWhile_cons_of_neg (by simp [listing, Call.name]), List.append_nil]
    exact (congrArg _ listed).trans stops
  rw [← first] at listed
  have same : updated.address = source.address := by rw [sent, Workload.address_withTemplate]
  have current : (stored before).current = some source := by
    have split := place
    rw [listed, List.append_assoc] at split
    simp only [stored, same]
    exact shares.current_of_listed (outcome_eq_of_exchanges split).symm source member
  have held : (stored earlier).Held source := by
    have later := shares.held_after (.inl current) (listing :: between)
    rwa [← after_append, ← listed] at later
  have reached : answered = (answer (.updateWorkload updated) (after answer start earlier)).1 :=
    outcome_eq_of_exchanges place
  have untouched : answered = .ok () → (stored earlier).current = some source ∧
      ∃ served, (stored earlier).Accepts updated served ∧ served.Drifts (stock next updated.address) := by
    intro accepted
    obtain ⟨served, accepts, drifts⟩ := shares.accepts_of_updated (reached.symm.trans accepted)
    have named : Versioned.version updated = Versioned.version source := by rw [sent]; rfl
    exact ⟨held.current_of_accepts accepts named, served, accepts, drifts⟩
  refine ⟨⟨workloads, between, listed⟩, fun accepted => ?_, fun changed => ?_⟩
  · obtain ⟨found, served, accepts, drifts⟩ := untouched accepted
    exact ⟨source, template, served, found, formed, sent, accepts, drifts⟩
  · cases verdict : answered with
    | ok value => exact absurd ((untouched verdict).1.trans current.symm) changed
    | error e =>
      obtain ⟨rfl, failed⟩ := ends e verdict
      have left : ((operation.program rollout).outcome answer start).2 = next := by
        rw [outcome_snd_eq_after, place, after_append]
        rfl
      exact ⟨e, rfl, shares.drifts_of_refused (reached.symm.trans verdict) _, rfl, Prod.ext failed left⟩

end Operation

/-- Whether an exchange is an update of the workload of an address, and which one if it was refused. -/
def Exchange.refusal? (address : WorkloadKind × Option String × String) : Exchange → Option Error
  | ⟨.updateWorkload updated, .error e⟩ => if updated.address = address then some e else none
  | _ => none

theorem Exchange.eq_of_refusal? {address : WorkloadKind × Option String × String} {use : Exchange} {e : Error}
    (refuses : use.refusal? address = some e) :
    ∃ updated, use = ⟨.updateWorkload updated, .error e⟩ ∧ updated.address = address := by
  unfold refusal? at refuses
  split at refuses
  · split at refuses
    · rename_i updated _ same
      exact ⟨updated, by rw [Option.some.inj refuses], same⟩
    · cases refuses
  · cases refuses

/-- The two workloads of a cluster, of which another client labels the second one once the first one was updated. -/
def Depot.contested : Depot where
  stock address := .first ((World.withVolume.workloads.map (Versioned.stamped "1")).find? (·.address = address))
  addresses := World.withVolume.workloads.map Workload.address
  inHand := List.replicate 7 none ++ [some ⟨.deployment,
    { ObjectMeta.empty with
      name := some "web", namespaceName := some "default", labels := some (.ofList [("team", "core")]) }, none, none⟩]
  registry := ⟨.empty, some (.ofList [("images", "filters/auth:1")]), none, none⟩

/-- A rollout that updates the first workload, and is refused the second one. -/
theorem Operation.overwrites_nothing_contested :
    let program := (Operation.apply .auth).program .toDeployments
    let run := program.exchanges Depot.answer .contested
    let web : WorkloadKind × Option String × String := (.deployment, some "default", "web")
    let stored (run : List Exchange) := ((after Depot.answer .contested run).stock web).current
    stored (run.take 4) ≠ stored (run.take 8) ∧
      (stored run).map (·.metadata.labels) = some (some (.ofList [("team", "core")])) ∧
      ∃ updated e, run = run.take 8 ++ [⟨.updateWorkload updated, .error e⟩] ∧ updated.address = web ∧
        (program.outcome Depot.answer .contested).1 = .error (.context "applying filter to workload" e) := by
  intro program run web stored
  have changed : stored (run.take 4) ≠ stored (run.take 8) := by decide +kernel
  have labelled : (stored run).map (·.metadata.labels) = some (some (.ofList [("team", "core")])) := by decide +kernel
  have listing : (run.take 8).takeWhile (fun exchange => exchange.request.name ≠ .listWorkloads) = run.take 4 := by
    have place : (run.take 8).findIdx (fun exchange => !decide (exchange.request.name ≠ .listWorkloads)) = 4 := by
      decide +kernel
    rw [List.takeWhile_eq_take_findIdx_not, place, List.take_take]
    rfl
  have last : ((run.drop 8).map (Exchange.refusal? web)) = [some (.kubernetes .conflict)] := by decide +kernel
  obtain ⟨use, place, refuses⟩ := List.map_eq_singleton_iff.mp last
  obtain ⟨updated, rfl, same⟩ := Exchange.eq_of_refusal? refuses
  have whole : run = run.take 8 ++ ⟨.updateWorkload updated, .error (.kubernetes .conflict)⟩ :: [] := by
    rw [← place, List.take_append_drop]
  obtain ⟨-, -, ends⟩ := overwrites_nothing (.apply .auth) .toDeployments Depot.shares whole
  rw [listing, same] at ends
  obtain ⟨e, refused, -, -, outcome⟩ := ends changed.symm
  refine ⟨changed, labelled, updated, _, whole, same, ?_⟩
  rw [Except.error.inj refused]
  exact congrArg Prod.fst outcome

end FilterRollout
