import FilterRollout.Proofs.Cluster.Enumeration
import FilterRollout.Proofs.Rollout.Preparation

/-! What is stored under the address of a workload after an enumeration, whether or not addresses are distinct. Main
statement: `restocked_of_mutateEach`. -/

namespace FilterRollout

open Program

namespace World

/-- The workload that is stored under the address of another one: the first of that address. -/
def persisted? (workload : Workload) (workloads : List Workload) : Option Workload :=
  workloads.find? (sameWorkload · workload)

theorem persisted?_cons (workload head : Workload) (rest : List Workload) :
    persisted? workload (head :: rest) =
      if sameWorkload head workload then some head else persisted? workload rest := by
  rw [persisted?, List.find?_cons]
  cases sameWorkload head workload <;> rfl

/-- An update is what is stored under its address from then on, and nothing is changed under other addresses. -/
theorem persisted?_of_replaceWorkload? {updated : Workload} {workloads replaced : List Workload}
    (success : replaceWorkload? updated workloads = some replaced) (workload : Workload) :
    persisted? workload replaced =
      if sameWorkload updated workload then some updated else persisted? workload workloads := by
  induction workloads generalizing replaced with
  | nil => cases success
  | cons head rest ih =>
    rw [replaceWorkload?] at success
    by_cases found : sameWorkload head updated = true
    · rw [if_pos found] at success
      obtain rfl := Option.some.inj success
      have address := sameWorkload_iff.mp found
      rw [persisted?_cons, persisted?_cons]
      by_cases same : sameWorkload updated workload = true
      · rw [if_pos same, if_pos same]
      · have other : ¬ sameWorkload head workload = true := by
          rwa [sameWorkload_iff, address, ← sameWorkload_iff]
        rw [if_neg same, if_neg same, if_neg other]
    · rw [if_neg found] at success
      obtain ⟨later, replacedRest, rfl⟩ := Option.map_eq_some_iff.mp success
      rw [persisted?_cons, persisted?_cons, ih replacedRest]
      by_cases here : sameWorkload head workload = true
      · have other : ¬ sameWorkload updated workload = true := by
          rw [sameWorkload_iff] at found here ⊢
          exact fun same => found (here.trans same.symm)
        rw [if_pos here, if_neg other, if_pos here]
      · rw [if_neg here, if_neg here]

theorem mem_of_replaceWorkload? {updated : Workload} {workloads replaced : List Workload}
    (success : replaceWorkload? updated workloads = some replaced) {workload : Workload}
    (member : workload ∈ replaced) : workload = updated ∨ workload ∈ workloads := by
  induction workloads generalizing replaced with
  | nil => cases success
  | cons head rest ih =>
    rw [replaceWorkload?] at success
    split at success
    · obtain rfl := Option.some.inj success
      exact (List.mem_cons.mp member).imp id (List.mem_cons_of_mem _)
    · obtain ⟨later, replacedRest, rfl⟩ := Option.map_eq_some_iff.mp success
      rcases List.mem_cons.mp member with rfl | behind
      · exact .inr List.mem_cons_self
      · exact (ih replacedRest behind).imp id (List.mem_cons_of_mem _)

/-- An update that succeeds replaces a workload and nothing else. -/
theorem replaceWorkload?_of_ok {workload : Workload} {world after : World}
    (success : answer (.updateWorkload workload) world = (.ok (), after)) :
    replaceWorkload? workload world.workloads = some after.workloads := by
  have served := serve_of_ok success
  simp only [serve] at served
  split at served
  · rename_i replaced found
    obtain rfl := (Prod.mk.inj served).2
    exact found
  · cases (Prod.mk.inj served).1

end World

/-- Whether a good pod template is stored under the address of a workload. -/
def StoredAs (Good : PodTemplate → Prop) (workloads : List Workload) (workload : Workload) : Prop :=
  ∃ stored, World.persisted? workload workloads = some stored ∧ Good stored.template

/-- Workloads after an enumeration that gives good pod templates to those listed: every workload was there before or is
a listed one with another template, and under every address that was listed, or had a good template before, there is
one. -/
structure Restocked (Good : PodTemplate → Prop) (listed before after : List Workload) : Prop where
  origin : ∀ workload ∈ after, workload ∈ before ∨
    ∃ source ∈ listed, ∃ template, workload = source.withTemplate template
  good : ∀ workload, workload ∈ listed ∨ StoredAs Good before workload → StoredAs Good after workload

namespace Restocked

variable {Good : PodTemplate → Prop} {workload : Workload} {rest before middle after : List Workload}

theorem refl (Good : PodTemplate → Prop) (workloads : List Workload) : Restocked Good [] workloads workloads :=
  ⟨fun _ member => .inl member, fun _ held => held.resolve_left (List.not_mem_nil)⟩

/-- One more workload with a good template before the others. -/
theorem cons {template : PodTemplate}
    (stored : World.replaceWorkload? (workload.withTemplate template) before = some middle) (good : Good template)
    (later : Restocked Good rest middle after) : Restocked Good (workload :: rest) before after := by
  have persisted := World.persisted?_of_replaceWorkload? stored
  have held (other : Workload) (known : other = workload ∨ StoredAs Good before other) :
      StoredAs Good middle other := by
    by_cases same : World.sameWorkload (workload.withTemplate template) other = true
    · exact ⟨_, (persisted other).trans (if_pos same), good⟩
    · have apart : other ≠ workload := by
        rintro rfl
        exact same (World.sameWorkload_iff.mpr rfl)
      obtain ⟨found, kept, fine⟩ := known.resolve_left apart
      exact ⟨found, (persisted other).trans ((if_neg same).trans kept), fine⟩
  constructor
  · intro other member
    rcases later.origin other member with present | ⟨source, listed, changed⟩
    · rcases World.mem_of_replaceWorkload? stored present with rfl | earlier
      · exact .inr ⟨workload, List.mem_cons_self, template, rfl⟩
      · exact .inl earlier
    · exact .inr ⟨source, List.mem_cons_of_mem _ listed, changed⟩
  · intro other known
    rcases known with listed | before
    · rcases List.mem_cons.mp listed with rfl | behind
      · exact later.good other (.inr (held other (.inl rfl)))
      · exact later.good other (.inl behind)
    · exact later.good other (.inr (held other (.inr before)))

end Restocked

/-- An enumeration that succeeds, and whose mutations give good pod templates, leaves such templates under the addresses
of all workloads that it listed. -/
theorem Enumeration.restocked_of_mutateEach {Good : PodTemplate → Prop} {mutate : Mutation} {observe : Observer}
    (watches : Watches observe) {listed : List Workload}
    (mutates : ∀ workload ∈ listed, ∀ (world after : World) (template : PodTemplate),
      (mutate workload.metadata workload.template).outcome World.answer world = (.ok template, after) →
        Good template ∧ after.workloads = world.workloads)
    {before after : World} {changed : List ObjectMeta}
    (success : (mutateEach mutate observe listed).outcome World.answer before = (.ok changed, after)) :
    Restocked Good listed before.workloads after.workloads := by
  induction listed generalizing before changed with
  | nil =>
    obtain ⟨-, rfl⟩ := Prod.mk.inj success
    exact .refl Good _
  | cons workload rest ih =>
    obtain ⟨first, others⟩ := List.forall_mem_cons.mp mutates
    cases ended : (mutateOne mutate workload).outcome World.answer before with
    | mk result middle =>
      cases result with
      | error e =>
        rw [(mutateEach_cons_error watches rest ended).1] at success
        cases success
      | ok value =>
        rw [(mutateEach_cons_ok watches rest ended).1] at success
        obtain ⟨remaining, last, later, verdict⟩ := exists_of_bind_ok success
        obtain ⟨-, rfl⟩ := Prod.mk.inj verdict
        obtain ⟨template, ready, mutated, stored⟩ := exists_of_bind_ok ended
        obtain ⟨good, same⟩ := first before ready template mutated
        have replaced := World.replaceWorkload?_of_ok stored
        rw [same] at replaced
        exact .cons replaced good (ih others later)

end FilterRollout
