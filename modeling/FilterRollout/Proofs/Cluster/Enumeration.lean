import FilterRollout.Proofs.Cluster.Stores
import FilterRollout.Proofs.Rollout.Stages

/-! Enumerations against a cluster in memory. Wherever one ends, it has stored the workloads of a prefix of its list, and
put the Envoy filters of these and perhaps of one more. Main statement: `mutateSelected_progress`. -/

namespace FilterRollout.Enumeration

open Program

/-- What a mutation comes down to: the pod template that a workload is to have, what becomes of the Envoy filters, and
which workloads the mutation accepts. -/
structure Effect where
  template : Workload → PodTemplate
  put : Workload → SortedMap EnvoyFilter → SortedMap EnvoyFilter
  fits : Workload → Prop

/-- The workload with the pod template that it is to have. -/
def Effect.update (effect : Effect) (workload : Workload) : Workload := workload.withTemplate (effect.template workload)

/-- A workload, with the pod template that it is to have if it is one of those chosen. -/
def Effect.within (effect : Effect) (chosen : List Workload) (workload : Workload) : Workload :=
  if workload ∈ chosen then effect.update workload else workload

@[simp] theorem Effect.within_nil (effect : Effect) : effect.within [] = id := by
  funext workload
  simp [within]

@[simp] theorem Effect.metadata_update (effect : Effect) (workload : Workload) :
    (effect.update workload).metadata = workload.metadata := rfl

@[simp] theorem Effect.metadata_within (effect : Effect) (chosen : List Workload) (workload : Workload) :
    (effect.within chosen workload).metadata = workload.metadata := by
  unfold within
  split <;> rfl

@[simp] theorem Effect.address_within (effect : Effect) (chosen : List Workload) (workload : Workload) :
    (effect.within chosen workload).address = workload.address := by
  unfold within
  split <;> rfl

@[simp] theorem Effect.selects_within (effect : Effect) (chosen : List Workload) (kind : WorkloadKind)
    (namespaceName selector : String) (workload : Workload) :
    World.selects kind namespaceName selector (effect.within chosen workload) =
      World.selects kind namespaceName selector workload := by
  unfold within
  split <;> rfl

/-- A mutation has an effect: it succeeds with all of it, or fails and leaves all but the counts of calls alone. Of a
workload that it accepts, only a fault makes it fail. -/
structure Acts (mutate : Mutation) (effect : Effect) : Prop where
  calls : ∀ metadata template, CallsOnly [.ensureFilter] (mutate metadata template)
  ends : ∀ workload world,
    (∃ e after, (mutate workload.metadata workload.template).outcome World.answer world = (.error e, after) ∧
      after.withFaults [] = world.withFaults [] ∧ (effect.fits workload → world.faults ≠ [])) ∨
    (∃ after, (mutate workload.metadata workload.template).outcome World.answer world =
        (.ok (effect.template workload), after) ∧
      after.withFaults [] = { world.withFaults [] with filters := effect.put workload world.filters } ∧
      effect.fits workload)

/-- How far an enumeration came: the workloads of one prefix are stored, the Envoy filters of a prefix that is as long
or longer are put, and nothing else is changed. -/
structure Progress (effect : Effect) (workloads : List Workload) (before after : World) (run : List Exchange)
    (stored ensured : Nat) : Prop where
  order : stored ≤ ensured
  bound : ensured ≤ workloads.length
  fitting : ∀ workload ∈ workloads.take ensured, effect.fits workload
  state : after.withFaults [] = { before.withFaults [] with
    workloads := (workloads.take stored).foldl (fun all workload => World.store (effect.update workload) all)
      before.workloads
    filters := (workloads.take ensured).foldl (fun all workload => effect.put workload all) before.filters }
  updates : ∀ updated, (⟨.updateWorkload updated, .ok ()⟩ : Exchange) ∈ run ↔
    ∃ workload ∈ workloads.take stored, updated = effect.update workload

theorem Progress.none {effect : Effect} {workloads : List Workload} {before after : World} {run : List Exchange}
    (same : after.withFaults [] = before.withFaults [])
    (quiet : ∀ updated, (⟨.updateWorkload updated, .ok ()⟩ : Exchange) ∉ run) :
    Progress effect workloads before after run 0 0 where
  order := Nat.le_refl 0
  bound := Nat.zero_le _
  fitting := by simp
  state := same
  updates := by simp [quiet]

theorem updateWorkload_ends {updated : Workload} {world : World} (distinct : World.Distinct world.workloads)
    (present : updated.address ∈ world.workloads.map Workload.address) :
    (∃ e after, World.answer (.updateWorkload updated) world = (.error e, after) ∧
      after.withFaults [] = world.withFaults [] ∧ world.faults ≠ []) ∨
    (∃ after, World.answer (.updateWorkload updated) world = (.ok (), after) ∧
      after.withFaults [] = { world.withFaults [] with workloads := World.store updated world.workloads }) := by
  rcases World.answer_cases (.updateWorkload updated) world with ⟨e, failed, faulty⟩ | served
  · exact .inl ⟨e, _, failed, rfl, faulty⟩
  · have replaced := World.replaceWorkload?_eq_store distinct present
    have ended : World.answer (.updateWorkload updated) world =
        (.ok (), { world.counting .updateWorkload with workloads := World.store updated world.workloads }) := by
      rw [served]
      simp only [World.serve, World.counting, replaced]
      rfl
    exact .inr ⟨_, ended, rfl⟩

variable {mutate : Mutation} {observe : Observer} {effect : Effect}

/-- One workload: nothing is done, or only its Envoy filter is put, or it is stored as well. -/
theorem mutateOne_progress (acts : Acts mutate effect) {workload : Workload} {world : World}
    (distinct : World.Distinct world.workloads) (present : workload.address ∈ world.workloads.map Workload.address) :
    (∃ e after ensured, (mutateOne mutate workload).outcome World.answer world = (.error e, after) ∧
      Progress effect [workload] world after ((mutateOne mutate workload).exchanges World.answer world) 0 ensured ∧
      (effect.fits workload → world.faults ≠ [])) ∨
    (∃ after, (mutateOne mutate workload).outcome World.answer world = (.ok (), after) ∧
      Progress effect [workload] world after ((mutateOne mutate workload).exchanges World.answer world) 1 1) := by
  have quiet : ∀ updated, (⟨.updateWorkload updated, .ok ()⟩ : Exchange) ∉
      (mutate workload.metadata workload.template).exchanges World.answer world := fun updated member => by
    have named := (acts.calls workload.metadata workload.template).name_mem member
    simp [Call.name] at named
  rcases acts.ends workload world with ⟨e, after, refused, same, faulty⟩ | ⟨middle, accepted, put, fits⟩
  · have failed : (mutateOne mutate workload).outcome World.answer world = (.error e, after) :=
      outcome_bind_error refused
    have calls : (mutateOne mutate workload).exchanges World.answer world =
        (mutate workload.metadata workload.template).exchanges World.answer world := exchanges_bind_error refused
    exact .inl ⟨e, after, 0, failed, .none same (calls ▸ quiet), faulty⟩
  · have kept : middle.workloads = world.workloads := (congrArg World.workloads put :)
    have faults : middle.faults = world.faults := by
      have unchanged := World.faults_outcome (mutate workload.metadata workload.template) world
      rwa [accepted] at unchanged
    have ended : (mutateOne mutate workload).outcome World.answer world =
        World.answer (.updateWorkload (effect.update workload)) middle := outcome_bind_ok accepted
    have calls : (mutateOne mutate workload).exchanges World.answer world =
        (mutate workload.metadata workload.template).exchanges World.answer world ++
          [⟨.updateWorkload (effect.update workload),
            (World.answer (.updateWorkload (effect.update workload)) middle).1⟩] := exchanges_bind_ok accepted
    have there : (effect.update workload).address ∈ middle.workloads.map Workload.address := kept ▸ present
    rcases updateWorkload_ends (kept ▸ distinct) there with ⟨e, after, failed, same, faulty⟩ | ⟨after, stored, replaced⟩
    · refine .inl ⟨e, after, 1, ended.trans failed, ⟨Nat.zero_le 1, Nat.le_refl 1, by simpa using fits, same.trans put,
        fun updated => ?_⟩, fun _ => faults ▸ faulty⟩
      rw [calls, failed, List.mem_append, or_iff_right (quiet updated), List.mem_singleton]
      constructor
      · intro same
        cases same
      · rintro ⟨other, member, -⟩
        simp at member
    · refine .inr ⟨after, ended.trans stored, Nat.le_refl 1, Nat.le_refl 1, by simpa using fits, ?_, fun updated => ?_⟩
      · rw [replaced, put, kept]
        rfl
      · rw [calls, stored, List.mem_append, or_iff_right (quiet updated), List.mem_singleton]
        constructor
        · intro same
          cases same
          exact ⟨workload, by simp, rfl⟩
        · rintro ⟨other, member, rfl⟩
          obtain rfl : other = workload := by simpa using member
          rfl

theorem Progress.extend {workloads : List Workload} {before after : World} {run : List Exchange} {stored ensured : Nat}
    (progress : Progress effect workloads before after run stored ensured) (more : List Workload) :
    Progress effect (workloads ++ more) before after run stored ensured := by
  obtain ⟨order, bound, fitting, state, updates⟩ := progress
  have stays : (workloads ++ more).take stored = workloads.take stored :=
    List.take_append_of_le_length (Nat.le_trans order bound)
  have ensuredStays : (workloads ++ more).take ensured = workloads.take ensured := List.take_append_of_le_length bound
  refine ⟨order, ?_, ?_, ?_, ?_⟩
  · rw [List.length_append]
    exact Nat.le_add_right_of_le bound
  · rwa [ensuredStays]
  · rwa [stays, ensuredStays]
  · rwa [stays]

/-- An enumeration goes on from where a complete one ended. -/
theorem Progress.append {workloads rest : List Workload} {before middle after : World} {first second : List Exchange}
    {stored ensured : Nat}
    (complete : Progress effect workloads before middle first workloads.length workloads.length)
    (later : Progress effect rest middle after second stored ensured) :
    Progress effect (workloads ++ rest) before after (first ++ second) (workloads.length + stored)
      (workloads.length + ensured) := by
  have kept : middle.workloads = _ := (congrArg World.workloads complete.state :)
  have put : middle.filters = _ := (congrArg World.filters complete.state :)
  rw [List.take_length] at kept put
  refine ⟨Nat.add_le_add_left later.order _, ?_, ?_, ?_, fun updated => ?_⟩
  · rw [List.length_append]
    exact Nat.add_le_add_left later.bound _
  · intro workload member
    rw [List.take_length_add_append] at member
    rcases List.mem_append.mp member with earlier | behind
    · exact complete.fitting workload (by rwa [List.take_length])
    · exact later.fitting workload behind
  · rw [later.state, complete.state, kept, put, List.take_length_add_append, List.take_length_add_append,
      List.foldl_append, List.foldl_append]
  · rw [List.mem_append, complete.updates, later.updates, List.take_length, List.take_length_add_append]
    constructor
    · rintro (⟨workload, member, same⟩ | ⟨workload, member, same⟩)
      · exact ⟨workload, List.mem_append_left _ member, same⟩
      · exact ⟨workload, List.mem_append_right _ member, same⟩
    · rintro ⟨workload, member, same⟩
      rcases List.mem_append.mp member with earlier | behind
      · exact .inl ⟨workload, earlier, same⟩
      · exact .inr ⟨workload, behind, same⟩

/-- Wherever an enumeration ends. It is complete if it succeeds, and it fails only by a fault or at a workload that the
mutation does not accept. -/
theorem mutateEach_progress (acts : Acts mutate effect) (watches : Watches observe) {workloads : List Workload}
    {world : World} (distinct : World.Distinct world.workloads)
    (listed : ∀ workload ∈ workloads, workload.address ∈ world.workloads.map Workload.address) :
    ∃ result after stored ensured, (mutateEach mutate observe workloads).outcome World.answer world = (result, after) ∧
      Progress effect workloads world after ((mutateEach mutate observe workloads).exchanges World.answer world) stored
        ensured ∧
      (result = .ok (workloads.map (·.metadata)) ∧ stored = workloads.length ∨
        ∃ e, result = .error e ∧ ((∀ workload ∈ workloads, effect.fits workload) → world.faults ≠ [])) := by
  induction workloads generalizing world with
  | nil => exact ⟨.ok [], world, 0, 0, rfl, .none rfl (by simp [mutateEach]), .inl ⟨rfl, rfl⟩⟩
  | cons workload rest ih =>
    have present := listed workload List.mem_cons_self
    rcases mutateOne_progress acts distinct present with ⟨e, after, ensured, failed, progress, faulty⟩ |
        ⟨middle, stored, progress⟩
    · obtain ⟨ended, calls⟩ := mutateEach_cons_error watches rest failed
      refine ⟨_, after, 0, ensured, ended, ?_, .inr ⟨e, rfl, fun fits => faulty (fits workload List.mem_cons_self)⟩⟩
      rw [calls]
      exact progress.extend rest
    · obtain ⟨ended, calls⟩ := mutateEach_cons_ok watches rest stored
      have kept : middle.workloads = World.store (effect.update workload) world.workloads :=
        (congrArg World.workloads progress.state :)
      have addresses : middle.workloads.map Workload.address = world.workloads.map Workload.address := by
        rw [kept, World.map_address_store]
      have faults : middle.faults = world.faults := by
        have unchanged := World.faults_outcome (mutateOne mutate workload) world
        rwa [stored] at unchanged
      have distinctMiddle : World.Distinct middle.workloads := by
        rw [World.Distinct, addresses]
        exact distinct
      have listedMiddle : ∀ other ∈ rest, other.address ∈ middle.workloads.map Workload.address := by
        intro other member
        rw [addresses]
        exact listed other (List.mem_cons_of_mem _ member)
      obtain ⟨result, after, storedRest, ensuredRest, endedRest, later, verdict⟩ := ih distinctMiddle listedMiddle
      have whole := progress.append later
      rw [← calls] at whole
      rcases verdict with ⟨rfl, all⟩ | ⟨e, rfl, faulty⟩
      · refine ⟨_, after, _, _, ended.trans (outcome_bind_ok endedRest), whole, .inl ⟨rfl, ?_⟩⟩
        rw [all]
        exact Nat.add_comm 1 rest.length
      · refine ⟨_, after, _, _, ended.trans (outcome_bind_error endedRest), whole, .inr ⟨e, rfl, fun fits => ?_⟩⟩
        exact faults ▸ faulty fun other member => fits other (List.mem_cons_of_mem _ member)

/-- The workloads that an enumeration leaves, each in its place. -/
theorem Progress.workloads {workloads : List Workload} {before after : World} {run : List Exchange}
    {stored ensured : Nat} (progress : Progress effect workloads before after run stored ensured)
    (distinct : World.Distinct before.workloads)
    (listed : workloads ⊆ before.workloads) :
    after.workloads = before.workloads.map (effect.within (workloads.take stored)) := by
  have kept : after.workloads = _ := (congrArg World.workloads progress.state :)
  have inside : workloads.take stored ⊆ before.workloads := fun workload member => listed (List.mem_of_mem_take member)
  exact kept.trans (World.foldl_store distinct effect.update (fun _ => rfl) inside)

theorem Progress.filters {workloads : List Workload} {before after : World} {run : List Exchange} {stored ensured : Nat}
    (progress : Progress effect workloads before after run stored ensured) :
    after.filters = (workloads.take ensured).foldl (fun all workload => effect.put workload all) before.filters :=
  (congrArg World.filters progress.state :)

/-- An enumeration changes workloads and Envoy filters only. -/
theorem Progress.frame {workloads : List Workload} {before after : World} {run : List Exchange} {stored ensured : Nat}
    (progress : Progress effect workloads before after run stored ensured) :
    after.withFaults [] = { before.withFaults [] with workloads := after.workloads, filters := after.filters } := by
  have kept : after.workloads = _ := (congrArg World.workloads progress.state :)
  have put : after.filters = _ := (congrArg World.filters progress.state :)
  rw [kept, put]
  exact progress.state

/-- Where a selection is changed, the whole enumeration is a prefix of the selected workloads, and all of them if it
succeeds. It fails only by a fault or at a workload that the mutation does not accept. -/
theorem mutateSelected_progress (acts : Acts mutate effect) (watches : Watches observe) (kind : WorkloadKind)
    (namespaceName : String) (labels : SortedMap String) {world : World} (distinct : World.Distinct world.workloads) :
    let selected := world.selected kind namespaceName (LabelSelector.ofLabels labels)
    let enumeration := mutateSelected kind namespaceName labels mutate observe
    ∃ result after stored ensured, enumeration.outcome World.answer world = (result, after) ∧
      Progress effect selected world after (enumeration.exchanges World.answer world) stored ensured ∧
      (result = .ok (selected.map (·.metadata)) ∧ stored = selected.length ∨
        ∃ e, result = .error e ∧ ((∀ workload ∈ selected, effect.fits workload) → world.faults ≠ [])) := by
  intro selected enumeration
  let listing : Call := .listWorkloads kind namespaceName (LabelSelector.ofLabels labels)
  rcases World.answer_cases listing world with ⟨e, failed, faulty⟩ | served
  · have ended : (perform listing).outcome World.answer world = (.error e, world.counting .listWorkloads) := failed
    have calls : enumeration.exchanges World.answer world = [⟨listing, (World.answer listing world).1⟩] :=
      exchanges_bind_error ended
    refine ⟨_, _, 0, 0, outcome_bind_error ended, .none rfl fun updated member => ?_, .inr ⟨e, rfl, fun _ => faulty⟩⟩
    rw [calls, List.mem_singleton] at member
    have named : CallName.updateWorkload = .listWorkloads := congrArg (fun exchange => exchange.request.name) member
    cases named
  · have ended : (perform listing).outcome World.answer world = (.ok selected, world.counting .listWorkloads) := served
    have calls : enumeration.exchanges World.answer world = ⟨listing, (World.answer listing world).1⟩ ::
        (mutateEach mutate observe selected).exchanges World.answer (world.counting .listWorkloads) :=
      exchanges_bind_ok ended
    have listed : ∀ workload ∈ selected,
        workload.address ∈ (world.counting .listWorkloads).workloads.map Workload.address :=
      fun workload member => List.mem_map_of_mem (List.mem_of_mem_filter member)
    have distinctListed : World.Distinct (world.counting .listWorkloads).workloads := distinct
    obtain ⟨result, after, stored, ensured, later, progress, verdict⟩ :=
      mutateEach_progress acts watches distinctListed listed
    obtain ⟨order, bound, fitting, state, updates⟩ := progress
    refine ⟨result, after, stored, ensured, (outcome_bind_ok ended).trans later,
      ⟨order, bound, fitting, state, fun updated => ?_⟩, verdict⟩
    rw [calls, List.mem_cons, updates updated]
    constructor
    · rintro (same | put)
      · have named : CallName.updateWorkload = .listWorkloads := congrArg (fun exchange => exchange.request.name) same
        cases named
      · exact put
    · exact .inr

end FilterRollout.Enumeration
