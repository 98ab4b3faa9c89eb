import FilterRollout.Resource.Shape.Pod
import FilterRollout.Resource.WorkloadKind

/-! Fields of workloads beside their selectors and pod templates. -/

namespace FilterRollout.Shape

/-- How many pods may be missing or surplus during an update. -/
def updateBounds : Shape := .record [] (integerOrText.fields ["maxSurge", "maxUnavailable"])

/-- How a workload replaces its pods. -/
def updateStrategy (gradual : Shape) : Shape := .record [] (text.fields ["type"] ++ [("rollingUpdate", gradual)])

/-- The required fields of a workload's specification other than selector and template. A StatefulSet names its
governing service. -/
def requiredWorkloadSpec : WorkloadKind → List (String × Shape)
  | .statefulSet => text.fields ["serviceName"]
  | .deployment | .daemonSet => []

/-- The optional fields of a workload's specification. -/
def optionalWorkloadSpec : WorkloadKind → List (String × Shape)
  | .deployment =>
    int32.fields ["minReadySeconds", "progressDeadlineSeconds", "replicas", "revisionHistoryLimit"] ++
    truth.fields ["paused"] ++ [("strategy", updateStrategy updateBounds)]
  | .daemonSet =>
    int32.fields ["minReadySeconds", "revisionHistoryLimit"] ++ [("updateStrategy", updateStrategy updateBounds)]
  | .statefulSet =>
    int32.fields ["minReadySeconds", "replicas", "revisionHistoryLimit"] ++ text.fields ["podManagementPolicy"] ++
    [("ordinals", .record [] (int32.fields ["start"])),
      ("persistentVolumeClaimRetentionPolicy", .record [] (text.fields ["whenDeleted", "whenScaled"])),
      ("updateStrategy", updateStrategy
        (.record [] ([("maxUnavailable", .integerOrText)] ++ int32.fields ["partition"]))),
      ("volumeClaimTemplates", .list volumeClaim)]

/-- One of the conditions that a workload is in, with the times that it states. -/
def workloadCondition (times : List String) : Shape :=
  .record (text.fields ["status", "type"])
    (text.fields ["message", "reason"] ++ (Shape.time .seconds).fields times)

/-- What the cluster reports about a workload. -/
def workloadStatus : WorkloadKind → Shape
  | .deployment =>
    .record [] (
      int32.fields ["availableReplicas", "collisionCount", "readyReplicas", "replicas", "unavailableReplicas",
        "updatedReplicas"] ++
      int64.fields ["observedGeneration"] ++
      [("conditions", .list (workloadCondition ["lastTransitionTime", "lastUpdateTime"]))])
  | .daemonSet =>
    .record (int32.fields ["currentNumberScheduled", "desiredNumberScheduled", "numberMisscheduled", "numberReady"]) (
      int32.fields ["collisionCount", "numberAvailable", "numberUnavailable", "updatedNumberScheduled"] ++
      int64.fields ["observedGeneration"] ++ [("conditions", .list (workloadCondition ["lastTransitionTime"]))])
  | .statefulSet =>
    .record (int32.fields ["replicas"]) (
      int32.fields ["availableReplicas", "collisionCount", "currentReplicas", "readyReplicas", "updatedReplicas"] ++
      int64.fields ["observedGeneration"] ++ text.fields ["currentRevision", "updateRevision"] ++
      [("conditions", .list (workloadCondition ["lastTransitionTime"]))])

end FilterRollout.Shape
