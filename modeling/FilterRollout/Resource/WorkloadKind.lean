import FilterRollout.Error
import FilterRollout.Json.Record
import FilterRollout.Text.Lowercase

/-! The kinds of workloads that filters are rolled out to. -/

namespace FilterRollout

open Json (Document)

inductive WorkloadKind
  | deployment
  | daemonSet
  | statefulSet
  deriving DecidableEq

namespace WorkloadKind

/-- All kinds, in the order in which messages list them. -/
def all : List WorkloadKind := [deployment, daemonSet, statefulSet]

/-- The lower-case token by which settings name the kind. -/
def token : WorkloadKind → String
  | deployment => "deployment"
  | daemonSet => "daemonset"
  | statefulSet => "statefulset"

/-- The name of the kind in Kubernetes objects. -/
def objectKind : WorkloadKind → String
  | deployment => "Deployment"
  | daemonSet => "DaemonSet"
  | statefulSet => "StatefulSet"

/-- The kind whose token the text is once it is in lower case. -/
def ofText (text : String) : Except Error WorkloadKind :=
  match all.find? (·.token = Text.lowercase text) with
  | some kind => .ok kind
  | none => invalid "kind"
      s!"unknown workload type {text}, must be one of: {Text.listed (all.map token)}"

def toJson (kind : WorkloadKind) : Json := .string kind.token

def ofDocument? (document : Document) : Option WorkloadKind :=
  document.text?.bind fun text => (ofText text).toOption

end WorkloadKind

end FilterRollout
