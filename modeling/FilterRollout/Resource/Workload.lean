import FilterRollout.Resource.PodTemplate
import FilterRollout.Resource.Shape.Workload

/-! Workloads: Deployments, DaemonSets and StatefulSets. A rollout looks at their metadata, selectors and pod
templates, and keeps all else as it is. -/

namespace FilterRollout

open Json (Document)

/-- A workload's own selector for its pods. -/
structure PodSelector where
  matchLabels : Option (SortedMap String)
  others : List (String × Json)
  deriving DecidableEq

structure WorkloadSpec where
  selector : PodSelector
  template : PodTemplate
  others : List (String × Json)
  deriving DecidableEq

structure Workload where
  kind : WorkloadKind
  metadata : ObjectMeta
  spec : Option WorkloadSpec
  status : Option Json
  deriving DecidableEq

namespace PodSelector

def empty : PodSelector := ⟨none, []⟩

def toJson (s : PodSelector) : Json := Json.recordWith [("matchLabels", s.matchLabels.map Json.textMap)] s.others

def ofDocument? (document : Document) : Option PodSelector := do
  let given ← document.loose?
  return {
    matchLabels := ← Document.last? (Document.map? Document.text?) given "matchLabels"
    others := ← Shape.readOptional? Shape.otherSelector given }

end PodSelector

namespace WorkloadSpec

/-- The specification of a workload of which nothing is given but its kind. -/
def empty (kind : WorkloadKind) : WorkloadSpec := ⟨.empty, .empty, Shape.defaults (Shape.requiredWorkloadSpec kind)⟩

def toJson (s : WorkloadSpec) : Json :=
  Json.recordWith [("selector", some s.selector.toJson), ("template", some s.template.toJson)] s.others

def ofDocument? (kind : WorkloadKind) (document : Document) : Option WorkloadSpec := do
  let given ← document.loose?
  return {
    selector := (← Document.last? PodSelector.ofDocument? given "selector").getD .empty
    template := (← Document.last? PodTemplate.ofDocument? given "template").getD .empty
    others := (← Shape.readRequired? (Shape.requiredWorkloadSpec kind) given) ++
      (← Shape.readOptional? (Shape.optionalWorkloadSpec kind) given) }

end WorkloadSpec

namespace Workload

/-- The name, empty if it is not set. -/
def name (w : Workload) : String := w.metadata.name.getD ""

/-- The namespace, empty if it is not set. -/
def namespaceName (w : Workload) : String := w.metadata.namespaceName.getD ""

/-- The pod template, if the workload has a spec. -/
def template? (w : Workload) : Option PodTemplate := w.spec.map (·.template)

/-- The pod template, empty if the workload has no spec. -/
def template (w : Workload) : PodTemplate := w.template?.getD .empty

/-- The workload with another pod template. A missing spec is created; nothing else changes. -/
def withTemplate (w : Workload) (template : PodTemplate) : Workload :=
  { w with spec := some { w.spec.getD (.empty w.kind) with template } }

def toJson (w : Workload) : Json :=
  typedObject "apps/v1" w.kind.objectKind w.metadata
    [("spec", w.spec.map WorkloadSpec.toJson), ("status", w.status)]

def ofDocument? (kind : WorkloadKind) (document : Document) : Option Workload := do
  let (given, metadata) ← readTypedObject? "apps/v1" kind.objectKind document
  return {
    kind
    metadata
    spec := ← Document.last? (WorkloadSpec.ofDocument? kind) given "spec"
    status := ← Document.last? (Shape.workloadStatus kind).read? given "status" }

/-- How many pods the status counts as ready, none if there is no such count. -/
def readyCount (w : Workload) : Int :=
  match w.status with
  | some (.object fields) =>
    match Json.member? "numberReady" fields with
    | some (.number (.integer count _)) => count
    | _ => 0
  | _ => 0

end Workload

end FilterRollout
