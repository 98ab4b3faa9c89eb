import FilterRollout.Resource.Shape.Volume

/-! Containers: what they run, see and may do. -/

namespace FilterRollout.Shape

/-- A key of a ConfigMap or Secret. -/
def keySelector : Shape := .record (text.fields ["key", "name"]) (truth.fields ["optional"])

/-- A variable in the environment of a container. -/
def environmentVariable : Shape :=
  .record (text.fields ["name"]) (text.fields ["value"] ++
    [("valueFrom", .record []
      (keySelector.fields ["configMapKeyRef", "secretKeyRef"] ++
        [("fieldRef", podField), ("resourceFieldRef", containerResource)]))])

/-- A ConfigMap or Secret all of whose keys become variables. -/
def variableSource : Shape :=
  .record [] (text.fields ["prefix"] ++
    (record (text.fields ["name"]) (truth.fields ["optional"])).fields ["configMapRef", "secretRef"])

/-- A command to run. -/
def command : Shape := .record [] [("command", .list .text)]

def httpRequest : Shape :=
  .record [("port", .integerOrText)]
    (text.fields ["host", "path", "scheme"] ++ [("httpHeaders", .list (.record (text.fields ["name", "value"]) []))])

def connection : Shape := .record [("port", .integerOrText)] (text.fields ["host"])

/-- What is done when a container has started or is about to stop. -/
def handler : Shape :=
  .record [] [("exec", command), ("httpGet", httpRequest), ("sleep", .record (int64.fields ["seconds"]) []),
    ("tcpSocket", connection)]

/-- A check that is repeated while a container runs. -/
def probe : Shape :=
  .record [] (
    int32.fields ["failureThreshold", "initialDelaySeconds", "periodSeconds", "successThreshold", "timeoutSeconds"] ++
    int64.fields ["terminationGracePeriodSeconds"] ++
    [("exec", command), ("grpc", .record (int32.fields ["port"]) (text.fields ["service"])),
      ("httpGet", httpRequest), ("tcpSocket", connection)])

/-- Limits and requests. -/
def resources : Shape :=
  .record [] (amounts.fields ["limits", "requests"] ++
    [("claims", .list (.record (text.fields ["name"]) (text.fields ["request"])))])

/-- A security profile, by its type or as a file of the node. -/
def securityProfile : Shape := .record (text.fields ["type"]) (text.fields ["localhostProfile"])

/-- What pods and containers alike may do. -/
def sharedSecurity : List (String × Shape) :=
  int64.fields ["runAsGroup", "runAsUser"] ++ truth.fields ["runAsNonRoot"] ++
  securityProfile.fields ["appArmorProfile", "seccompProfile"] ++
  [("seLinuxOptions", .record [] (text.fields ["level", "role", "type", "user"])),
    ("windowsOptions", .record []
      (text.fields ["gmsaCredentialSpec", "gmsaCredentialSpecName", "runAsUserName"] ++
        truth.fields ["hostProcess"]))]

def containerSecurity : Shape :=
  .record [] (sharedSecurity ++
    truth.fields ["allowPrivilegeEscalation", "privileged", "readOnlyRootFilesystem"] ++ text.fields ["procMount"] ++
    [("capabilities", .record [] ((list text).fields ["add", "drop"]))])

def podSecurity : Shape :=
  .record [] (sharedSecurity ++ int64.fields ["fsGroup"] ++
    text.fields ["fsGroupChangePolicy", "seLinuxChangePolicy", "supplementalGroupsPolicy"] ++
    [("supplementalGroups", .list .int64), ("sysctls", .list (.record (text.fields ["name", "value"]) []))])

/-- A port that a container listens on. -/
def containerPort : Shape :=
  .record (int32.fields ["containerPort"]) (int32.fields ["hostPort"] ++ text.fields ["hostIP", "name", "protocol"])

def volumeMount : Shape :=
  .record (text.fields ["mountPath", "name"])
    (text.fields ["mountPropagation", "recursiveReadOnly", "subPath", "subPathExpr"] ++ truth.fields ["readOnly"])

/-- The fields of a container other than its name and image. -/
def otherContainer : List (String × Shape) :=
  text.fields ["imagePullPolicy", "restartPolicy", "terminationMessagePath", "terminationMessagePolicy",
    "workingDir"] ++
  truth.fields ["stdin", "stdinOnce", "tty"] ++ (list text).fields ["args", "command"] ++
  probe.fields ["livenessProbe", "readinessProbe", "startupProbe"] ++
  [("env", .list environmentVariable), ("envFrom", .list variableSource),
    ("lifecycle", .record [] (handler.fields ["postStart", "preStop"])), ("ports", .list containerPort),
    ("resizePolicy", .list (.record (text.fields ["resourceName", "restartPolicy"]) [])), ("resources", resources),
    ("securityContext", containerSecurity),
    ("volumeDevices", .list (.record (text.fields ["devicePath", "name"]) [])),
    ("volumeMounts", .list volumeMount)]

def container : Shape := .record (text.fields ["name"]) (text.fields ["image"] ++ otherContainer)

/-- A container that is added to a running pod. -/
def ephemeralContainer : Shape :=
  .record (text.fields ["name"]) (text.fields ["image", "targetContainerName"] ++ otherContainer)

end FilterRollout.Shape
