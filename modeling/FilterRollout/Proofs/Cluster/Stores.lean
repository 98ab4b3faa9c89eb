import FilterRollout.Cluster.World
import FilterRollout.Proofs.Program.Exchange
import Mathlib.Data.List.Induction
import Mathlib.Data.List.Nodup

/-! The stores of a cluster in memory, one call at a time. A call that fails by a fault leaves the cluster as it is but
for its counts, and an update of a workload replaces the one of its address. -/

namespace FilterRollout

/-- What tells workloads apart: kind, namespace and name. -/
def Workload.address (workload : Workload) : WorkloadKind × Option String × String :=
  (workload.kind, workload.metadata.namespaceName, workload.name)

@[simp] theorem Workload.address_withTemplate (workload : Workload) (template : PodTemplate) :
    (workload.withTemplate template).address = workload.address := rfl

@[simp] theorem Workload.metadata_withTemplate (workload : Workload) (template : PodTemplate) :
    (workload.withTemplate template).metadata = workload.metadata := rfl

@[simp] theorem Workload.template_withTemplate (workload : Workload) (template : PodTemplate) :
    (workload.withTemplate template).template = template := rfl

@[simp] theorem Workload.withTemplate_withTemplate (workload : Workload) (template last : PodTemplate) :
    (workload.withTemplate template).withTemplate last = workload.withTemplate last := rfl

namespace World

open Program

/-- Every workload has an address of its own. -/
def Distinct (workloads : List Workload) : Prop := (workloads.map Workload.address).Nodup

instance (workloads : List Workload) : Decidable (Distinct workloads) :=
  inferInstanceAs (Decidable (workloads.map Workload.address).Nodup)

/-- The workloads with one of them replaced, which is found by its address. -/
def store (updated : Workload) (workloads : List Workload) : List Workload :=
  workloads.map fun workload => if workload.address = updated.address then updated else workload

theorem sameWorkload_iff {workload other : Workload} :
    sameWorkload workload other = true ↔ workload.address = other.address := by
  simp [sameWorkload, Workload.address, and_assoc]

theorem map_address_store (updated : Workload) (workloads : List Workload) :
    (store updated workloads).map Workload.address = workloads.map Workload.address := by
  rw [store, List.map_map]
  refine List.map_congr_left fun workload _ => ?_
  simp only [Function.comp_apply]
  split
  · rename_i same
    exact same.symm
  · rfl

theorem store_of_not_mem {updated : Workload} {workloads : List Workload}
    (absent : updated.address ∉ workloads.map Workload.address) : store updated workloads = workloads := by
  have same : ∀ workload ∈ workloads,
      (if workload.address = updated.address then updated else workload) = workload := by
    intro workload member
    rw [if_neg fun found => absent (List.mem_map.mpr ⟨workload, member, found⟩)]
  exact (List.map_congr_left same).trans (List.map_id _)

/-- Where addresses are distinct, the first workload that an update matches is the only one. -/
theorem replaceWorkload?_eq_store {updated : Workload} {workloads : List Workload} (distinct : Distinct workloads)
    (present : updated.address ∈ workloads.map Workload.address) :
    replaceWorkload? updated workloads = some (store updated workloads) := by
  induction workloads with
  | nil => simp at present
  | cons workload rest ih =>
    obtain ⟨fresh, later⟩ := List.nodup_cons.mp distinct
    by_cases same : workload.address = updated.address
    · have others := store_of_not_mem (same ▸ fresh)
      rw [replaceWorkload?, if_pos (sameWorkload_iff.mpr same), store, List.map_cons, if_pos same]
      exact congrArg (fun kept => some (updated :: kept)) others.symm
    · have behind := (List.mem_cons.mp present).resolve_left (Ne.symm same)
      have kept : store updated (workload :: rest) = workload :: store updated rest := by
        simp [store, same]
      rw [replaceWorkload?, if_neg (mt sameWorkload_iff.mp same), ih later behind, kept]
      rfl

/-- Workloads that are updated in turn are those that were there with the updates in their places. -/
theorem foldl_store {workloads : List Workload} (distinct : Distinct workloads) (update : Workload → Workload)
    (keeps : ∀ workload, (update workload).address = workload.address) {updated : List Workload}
    (listed : updated ⊆ workloads) :
    updated.foldl (fun stored workload => store (update workload) stored) workloads =
      workloads.map fun workload => if workload ∈ updated then update workload else workload := by
  induction updated using List.reverseRecOn with
  | nil => simp
  | append_singleton earlier last ih =>
    have inside := List.append_subset.mp listed
    rw [List.foldl_append, ih inside.1, List.foldl_cons, List.foldl_nil, store, List.map_map]
    refine List.map_congr_left fun workload member => ?_
    have placed : (if workload ∈ earlier then update workload else workload).address = workload.address := by
      split
      · exact keeps workload
      · rfl
    simp only [Function.comp_apply, placed, keeps, List.mem_append, List.mem_singleton]
    by_cases same : workload.address = last.address
    · have one := List.inj_on_of_nodup_map distinct member (inside.2 List.mem_cons_self) same
      simp [one]
    · have other : workload ≠ last := fun one => same (congrArg _ one)
      simp [same, other]

/-- Whether an enumeration lists a workload. -/
def selects (kind : WorkloadKind) (namespaceName selector : String) (workload : Workload) : Bool :=
  workload.kind = kind && workload.metadata.namespaceName = some namespaceName &&
    LabelSelector.admits selector (workload.metadata.labels.getD .empty)

theorem selected_eq (world : World) (kind : WorkloadKind) (namespaceName selector : String) :
    world.selected kind namespaceName selector = world.workloads.filter (selects kind namespaceName selector) := rfl

/-- A selection looks at nothing that a new pod template changes. -/
@[simp] theorem selects_withTemplate (kind : WorkloadKind) (namespaceName selector : String) (workload : Workload)
    (template : PodTemplate) :
    selects kind namespaceName selector (workload.withTemplate template) =
      selects kind namespaceName selector workload :=
  rfl

/-- A change of workloads that selections do not see changes what they select, but not which. -/
theorem selected_of_map {before after : World} {change : Workload → Workload}
    (changed : after.workloads = before.workloads.map change) {kind : WorkloadKind} {namespaceName selector : String}
    (unseen : ∀ workload, selects kind namespaceName selector (change workload) =
      selects kind namespaceName selector workload) :
    after.selected kind namespaceName selector = (before.selected kind namespaceName selector).map change := by
  rw [selected_eq, selected_eq, changed, List.filter_map]
  congr 1
  exact List.filter_congr fun workload _ => unseen workload

theorem distinct_map {workloads : List Workload} (distinct : Distinct workloads) {change : Workload → Workload}
    (keeps : ∀ workload, (change workload).address = workload.address) : Distinct (workloads.map change) := by
  have same : (workloads.map change).map Workload.address = workloads.map Workload.address := by
    rw [List.map_map]
    exact List.map_congr_left fun workload _ => keeps workload
  rw [Distinct, same]
  exact distinct

/-- Faults are only set from outside. -/
theorem faults_outcome {Value : Type} (program : Program Value) (world : World) :
    (program.outcome answer world).2.faults = world.faults := by
  have step (request : Call) (world : World) : (answer request world).2.faults = world.faults := by
    simp only [answer]
    split
    · rfl
    · cases request with
      | readRegistry cache => simp only [serve]; split <;> rfl
      | updateWorkload workload => simp only [serve]; split <;> rfl
      | _ => rfl
  induction program generalizing world with
  | done result => rfl
  | call request resume ih => exact (ih _ _).trans (step request world)
  | pause duration next ih => exact ih world
  | report workload error next ih => exact ih world

/-- The world after one more call was counted. -/
def counting (world : World) (name : CallName) : World := { world with counted := name :: world.counted }

theorem answer_of_fault {request : Call} {world : World} {e : Error}
    (failure : (world.counting request.name).fault? request.name = some e) :
    answer request world = (.error e, world.counting request.name) := by
  unfold counting at failure
  simp only [answer, failure]
  rfl

theorem answer_of_no_fault {request : Call} {world : World}
    (served : (world.counting request.name).fault? request.name = none) :
    answer request world = (world.counting request.name).serve request := by
  unfold counting at served
  simp only [answer, served]
  rfl

/-- A call fails by a fault and leaves all but the counts alone, or it is served. -/
theorem answer_cases (request : Call) (world : World) :
    (∃ e, answer request world = (.error e, world.counting request.name) ∧ world.faults ≠ []) ∨
      answer request world = (world.counting request.name).serve request := by
  cases failure : (world.counting request.name).fault? request.name with
  | none => exact .inr (answer_of_no_fault failure)
  | some e =>
    refine .inl ⟨e, answer_of_fault failure, ?_⟩
    intro faultless
    simp [fault?, counting, faultless] at failure

/-- Without faults every call is served. -/
theorem answer_of_faultless {world : World} (faultless : world.faults = []) (request : Call) :
    answer request world = (world.counting request.name).serve request :=
  (answer_cases request world).resolve_left fun ⟨_, _, faulty⟩ => faulty faultless

/-- What neither counting nor serving the named calls changes is kept by a run that makes no others. -/
theorem kept_of_callsOnly {Value Kept : Type} {names : List CallName} {program : Program Value}
    (only : CallsOnly names program) {kept : World → Kept}
    (counts : ∀ world name, kept (world.counting name) = kept world)
    (serves : ∀ request world, request.name ∈ names → kept (serve world request).2 = kept world) (world : World) :
    kept (program.outcome answer world).2 = kept world := by
  refine only.preserves (fun request world named => ?_) world
  rcases answer_cases request world with ⟨e, failed, -⟩ | served
  · rw [failed]
    exact counts world request.name
  · rw [served]
    exact (serves request (world.counting request.name) named).trans (counts world request.name)

/-- Calls that only look at a cluster leave all but the counts as it was. -/
theorem frame_of_reads {Value : Type} {names : List CallName} {program : Program Value}
    (only : CallsOnly names program)
    (reads : names ⊆ [.pullImage, .readImageConfig, .controlPlaneVersion, .readRegistry, .listImageEvents,
      .readyReplicas, .listWorkloads]) (world : World) :
    (program.outcome answer world).2.withFaults [] = world.withFaults [] := by
  let facts (world : World) := world.withFaults []
  have serves (request : Call) (world : World) (named : request.name ∈ names) :
      facts (serve world request).2 = facts world := by
    have read := reads named
    cases request with
    | readRegistry cache => simp only [serve]; split <;> rfl
    | pullImage | readImageConfig | controlPlaneVersion | listImageEvents | readyReplicas | listWorkloads => rfl
    | _ => simp [Call.name] at read
  exact kept_of_callsOnly only (fun _ _ => rfl) serves world

end World

end FilterRollout
