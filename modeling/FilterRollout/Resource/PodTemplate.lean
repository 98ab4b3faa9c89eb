import FilterRollout.Resource.ObjectMeta
import FilterRollout.Resource.Shape.Pod

/-! Pod templates: what a workload stamps its pods from. Fields that a rollout does not look at are kept as they
are. -/

namespace FilterRollout

open Json (Document)

structure Container where
  name : String
  image : Option String
  others : List (String × Json)
  deriving DecidableEq

structure PodSpec where
  containers : List Container
  others : List (String × Json)
  deriving DecidableEq

structure PodTemplate where
  metadata : Option ObjectMeta
  spec : Option PodSpec
  deriving DecidableEq

namespace Container

def toJson (c : Container) : Json :=
  Json.recordWith [("name", some (.string c.name)), ("image", c.image.map .string)] c.others

def ofDocument? (document : Document) : Option Container := do
  let given ← document.loose?
  return {
    name := (← Document.last? Document.text? given "name").getD ""
    image := ← Document.last? Document.text? given "image"
    others := ← Shape.readOptional? Shape.otherContainer given }

end Container

namespace PodSpec

def toJson (s : PodSpec) : Json :=
  Json.recordWith [("containers", some (.array (s.containers.map Container.toJson)))] s.others

def ofDocument? (document : Document) : Option PodSpec := do
  let given ← document.loose?
  return {
    containers := (← Document.last? (Document.list? Container.ofDocument?) given "containers").getD []
    others := ← Shape.readOptional? Shape.otherPodSpec given }

end PodSpec

namespace PodTemplate

def empty : PodTemplate := ⟨none, none⟩

instance : Inhabited PodTemplate := ⟨empty⟩

/-- The annotations of the template, none if it has no metadata. -/
def annotations? (t : PodTemplate) : Option (SortedMap String) := t.metadata.bind (·.annotations)

/-- The annotations of the template, empty if it has none. -/
def annotations (t : PodTemplate) : SortedMap String := t.annotations?.getD .empty

/-- The labels of the template, empty if it has none. -/
def labels (t : PodTemplate) : SortedMap String := (t.metadata.bind (·.labels)).getD .empty

/-- The template with these annotations, in metadata that is created if it is missing. -/
def withAnnotations (t : PodTemplate) (annotations : Option (SortedMap String)) : PodTemplate :=
  { t with metadata := some { t.metadata.getD .empty with annotations } }

@[simp] theorem annotations?_withAnnotations (t : PodTemplate) (annotations : Option (SortedMap String)) :
    (t.withAnnotations annotations).annotations? = annotations := rfl

@[simp] theorem labels_withAnnotations (t : PodTemplate) (annotations : Option (SortedMap String)) :
    (t.withAnnotations annotations).labels = t.labels := by
  cases t with
  | mk metadata spec => cases metadata <;> rfl

@[simp] theorem withAnnotations_withAnnotations (t : PodTemplate) (annotations last : Option (SortedMap String)) :
    (t.withAnnotations annotations).withAnnotations last = t.withAnnotations last := rfl

/-- Set one annotation. -/
def annotate (t : PodTemplate) (key value : String) : PodTemplate :=
  t.withAnnotations (some (t.annotations.insert key value))

/-- Remove one annotation. The map stays, even without entries. -/
def unannotate (t : PodTemplate) (key : String) : PodTemplate :=
  t.withAnnotations (some (t.annotations.erase key))

def toJson (t : PodTemplate) : Json :=
  Json.record [("metadata", t.metadata.map ObjectMeta.toJson), ("spec", t.spec.map PodSpec.toJson)]

def ofDocument? (document : Document) : Option PodTemplate := do
  let given ← document.loose?
  return {
    metadata := ← Document.last? ObjectMeta.ofDocument? given "metadata"
    spec := ← Document.last? PodSpec.ofDocument? given "spec" }

end PodTemplate

end FilterRollout
