import FilterRollout.Resource.Shape.Container

/-! Pods: where they run, and with what. -/

namespace FilterRollout.Shape

/-- Which nodes are meant. -/
def nodeTerm : Shape := .record [] ((list requirement).fields ["matchExpressions", "matchFields"])

def nodeAffinity : Shape :=
  .record [] [
    ("preferredDuringSchedulingIgnoredDuringExecution",
      .list (.record ([("preference", nodeTerm)] ++ int32.fields ["weight"]) [])),
    ("requiredDuringSchedulingIgnoredDuringExecution", .record [("nodeSelectorTerms", .list nodeTerm)] [])]

/-- Which pods are meant, and how near they have to be. -/
def podTerm : Shape :=
  .record (text.fields ["topologyKey"])
    (labelSelector.fields ["labelSelector", "namespaceSelector"] ++
      (list text).fields ["matchLabelKeys", "mismatchLabelKeys", "namespaces"])

def podAffinity : Shape :=
  .record [] [
    ("preferredDuringSchedulingIgnoredDuringExecution",
      .list (.record ([("podAffinityTerm", podTerm)] ++ int32.fields ["weight"]) [])),
    ("requiredDuringSchedulingIgnoredDuringExecution", .list podTerm)]

def affinity : Shape :=
  .record [] ([("nodeAffinity", nodeAffinity)] ++ podAffinity.fields ["podAffinity", "podAntiAffinity"])

def toleration : Shape :=
  .record [] (text.fields ["effect", "key", "operator", "value"] ++ int64.fields ["tolerationSeconds"])

/-- How evenly pods are spread. -/
def spread : Shape :=
  .record (int32.fields ["maxSkew"] ++ text.fields ["topologyKey", "whenUnsatisfiable"])
    (int32.fields ["minDomains"] ++ text.fields ["nodeAffinityPolicy", "nodeTaintsPolicy"] ++
      [("labelSelector", labelSelector), ("matchLabelKeys", .list .text)])

def nameResolution : Shape :=
  .record [] ((list text).fields ["nameservers", "searches"] ++
    [("options", .list (.record [] (text.fields ["name", "value"])))])

/-- The fields of a pod's specification other than its containers. -/
def otherPodSpec : List (String × Shape) :=
  text.fields ["dnsPolicy", "hostname", "nodeName", "preemptionPolicy", "priorityClassName", "restartPolicy",
    "runtimeClassName", "schedulerName", "serviceAccount", "serviceAccountName", "subdomain"] ++
  truth.fields ["automountServiceAccountToken", "enableServiceLinks", "hostIPC", "hostNetwork", "hostPID",
    "hostUsers", "setHostnameAsFQDN", "shareProcessNamespace"] ++
  int32.fields ["priority"] ++ int64.fields ["activeDeadlineSeconds", "terminationGracePeriodSeconds"] ++
  [("affinity", affinity), ("dnsConfig", nameResolution), ("ephemeralContainers", .list ephemeralContainer),
    ("hostAliases", .list (.record (text.fields ["ip"]) [("hostnames", .list .text)])),
    ("imagePullSecrets", .list localReference), ("initContainers", .list container), ("nodeSelector", textMap),
    ("os", .record (text.fields ["name"]) []), ("overhead", amounts),
    ("readinessGates", .list (.record (text.fields ["conditionType"]) [])),
    ("resourceClaims", .list
      (.record (text.fields ["name"]) (text.fields ["resourceClaimName", "resourceClaimTemplateName"]))),
    ("resources", resources), ("schedulingGates", .list (.record (text.fields ["name"]) [])),
    ("securityContext", podSecurity), ("tolerations", .list toleration),
    ("topologySpreadConstraints", .list spread), ("volumes", .list volume)]

end FilterRollout.Shape
