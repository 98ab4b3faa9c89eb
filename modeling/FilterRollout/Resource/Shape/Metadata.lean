import FilterRollout.Resource.Shape

/-! Fields of the metadata of objects, beside those that a rollout reads, and the selectors of objects. -/

namespace FilterRollout.Shape

def textMap : Shape := .map .text

/-- One manager's claim to fields of an object. -/
def managedFields : Shape :=
  .record [] (text.fields ["apiVersion", "fieldsType", "manager", "operation", "subresource"] ++
    [("fieldsV1", .anything), ("time", .time .seconds)])

def ownerReference : Shape :=
  .record (text.fields ["apiVersion", "kind", "name", "uid"]) (truth.fields ["blockOwnerDeletion", "controller"])

/-- The fields of metadata other than name, namespace, labels, annotations and resource version. -/
def otherMetadata : List (String × Shape) :=
  (Shape.time .seconds).fields ["creationTimestamp", "deletionTimestamp"] ++
  int64.fields ["deletionGracePeriodSeconds", "generation"] ++
  text.fields ["generateName", "selfLink", "uid"] ++
  [("finalizers", .list .text), ("managedFields", .list managedFields), ("ownerReferences", .list ownerReference)]

def metadata : Shape :=
  .record [] (text.fields ["name", "namespace", "resourceVersion"] ++ textMap.fields ["annotations", "labels"] ++
    otherMetadata)

/-- A condition on one key of labels or of a node's fields. -/
def requirement : Shape := .record (text.fields ["key", "operator"]) [("values", .list .text)]

/-- The fields of a label selector other than the labels that have to match. -/
def otherSelector : List (String × Shape) := [("matchExpressions", .list requirement)]

def labelSelector : Shape := .record [] (("matchLabels", textMap) :: otherSelector)

/-- An object that another one mentions. -/
def objectReference : Shape :=
  .record [] (text.fields ["apiVersion", "fieldPath", "kind", "name", "namespace", "resourceVersion", "uid"])

end FilterRollout.Shape
