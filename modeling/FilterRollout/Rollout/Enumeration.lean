import FilterRollout.Resource.LabelSelector
import FilterRollout.Rollout.Program

/-! Going through the workloads of a selection: each pod template is changed and its workload stored before the next
one is looked at, and the first failure ends it. -/

namespace FilterRollout.Enumeration

open Program

/-- How a pod template is changed. It may make calls of its own. -/
abbrev Mutation := ObjectMeta → PodTemplate → Program PodTemplate

/-- What is done with the outcome of a workload. -/
abbrev Observer := ObjectMeta → Option Error → Program Unit

/-- Pass outcomes on as reports. -/
def reporting : Observer := fun metadata error => report metadata error (done (.ok ()))

/-- Take no notice of outcomes. -/
def silent : Observer := fun _ _ => done (.ok ())

/-- Change the pod template of one workload and store the workload. -/
def mutateOne (mutate : Mutation) (workload : Workload) : Program Unit := do
  let template ← mutate workload.metadata workload.template
  perform (.updateWorkload (workload.withTemplate template))

/-- Go through listed workloads in their order. The observer sees every outcome, also the one that ends it. The value
is the metadata of the workloads, as they were listed. -/
def mutateEach (mutate : Mutation) (observe : Observer) : List Workload → Program (List ObjectMeta)
  | [] => return []
  | workload :: rest => do
    let outcome ← (mutateOne mutate workload).attempt
    observe workload.metadata (match outcome with | .error e => some e | .ok () => none)
    ofExcept outcome
    let others ← mutateEach mutate observe rest
    return workload.metadata :: others

/-- Go through the workloads of a kind in a namespace that have these labels. -/
def mutateSelected (kind : WorkloadKind) (namespaceName : String) (labels : SortedMap String) (mutate : Mutation)
    (observe : Observer) : Program (List ObjectMeta) := do
  mutateEach mutate observe (← perform (.listWorkloads kind namespaceName (LabelSelector.ofLabels labels)))

end FilterRollout.Enumeration
