import FilterRollout.Resource.Shape.Metadata

/-! Volumes, and claims to storage. -/

namespace FilterRollout.Shape

/-- Another object of the same namespace, by its name. -/
def localReference : Shape := .record (text.fields ["name"]) []

/-- Amounts of resources; an amount is a text such as `500m`. -/
def amounts : Shape := textMap

/-- A claim to storage, without its metadata. -/
def claimSpec : Shape :=
  .record [] (
    text.fields ["storageClassName", "volumeAttributesClassName", "volumeMode", "volumeName"] ++
    [("accessModes", .list .text),
      ("dataSource", .record (text.fields ["kind", "name"]) (text.fields ["apiGroup"])),
      ("dataSourceRef", .record (text.fields ["kind", "name"]) (text.fields ["apiGroup", "namespace"])),
      ("resources", .record [] (amounts.fields ["limits", "requests"])),
      ("selector", labelSelector)])

def claimCondition : Shape :=
  .record (text.fields ["status", "type"])
    (text.fields ["message", "reason"] ++ (Shape.time .seconds).fields ["lastProbeTime", "lastTransitionTime"])

def claimStatus : Shape :=
  .record [] (
    text.fields ["currentVolumeAttributesClassName", "phase"] ++
    amounts.fields ["allocatedResources", "capacity"] ++
    [("accessModes", .list .text), ("allocatedResourceStatuses", textMap), ("conditions", .list claimCondition),
      ("modifyVolumeStatus", .record (text.fields ["status"]) (text.fields ["targetVolumeAttributesClassName"]))])

/-- A claim to storage as an object of its own. -/
def volumeClaim : Shape :=
  .object "v1" "PersistentVolumeClaim"
    (.record [("metadata", metadata)] [("spec", claimSpec), ("status", claimStatus)])

/-- A field of the pod itself. -/
def podField : Shape := .record (text.fields ["fieldPath"]) (text.fields ["apiVersion"])

/-- A limit or request of a container. -/
def containerResource : Shape := .record (text.fields ["resource"]) (text.fields ["containerName", "divisor"])

/-- Keys that become files, each with a path and its permissions. -/
def keyFiles : Shape := .list (.record (text.fields ["key", "path"]) (int32.fields ["mode"]))

/-- Facts about the pod that become files. -/
def podFiles : Shape :=
  .list (.record (text.fields ["path"])
    (int32.fields ["mode"] ++ [("fieldRef", podField), ("resourceFieldRef", containerResource)]))

/-- A ConfigMap or Secret that becomes part of a volume. -/
def projectedKeys : Shape :=
  .record (text.fields ["name"]) (truth.fields ["optional"] ++ [("items", keyFiles)])

/-- One of the sources that are projected into one volume. -/
def projection : Shape :=
  .record [] (
    projectedKeys.fields ["configMap", "secret"] ++
    [("clusterTrustBundle", .record (text.fields ["path"])
        (text.fields ["name", "signerName"] ++ truth.fields ["optional"] ++ [("labelSelector", labelSelector)])),
      ("downwardAPI", .record [] [("items", podFiles)]),
      ("serviceAccountToken", .record (text.fields ["path"])
        (text.fields ["audience"] ++ int64.fields ["expirationSeconds"]))])

/-- Volumes that hold what the cluster knows. -/
def clusterVolumes : List (String × Shape) :=
  [("configMap", .record (text.fields ["name"])
      (int32.fields ["defaultMode"] ++ truth.fields ["optional"] ++ [("items", keyFiles)])),
    ("downwardAPI", .record [] (int32.fields ["defaultMode"] ++ [("items", podFiles)])),
    ("projected", .record [] (int32.fields ["defaultMode"] ++ [("sources", .list projection)])),
    ("secret", .record []
      (text.fields ["secretName"] ++ int32.fields ["defaultMode"] ++ truth.fields ["optional"] ++
        [("items", keyFiles)]))]

/-- Volumes that are claimed, or made for the pod. -/
def ownVolumes : List (String × Shape) :=
  [("emptyDir", .record [] (text.fields ["medium", "sizeLimit"])),
    ("ephemeral", .record []
      [("volumeClaimTemplate", .record [("spec", claimSpec)] [("metadata", metadata)])]),
    ("hostPath", .record (text.fields ["path"]) (text.fields ["type"])),
    ("image", .record [] (text.fields ["pullPolicy", "reference"])),
    ("persistentVolumeClaim", .record (text.fields ["claimName"]) (truth.fields ["readOnly"]))]

/-- Volumes on disks of a cloud. -/
def cloudVolumes : List (String × Shape) :=
  [("awsElasticBlockStore", .record (text.fields ["volumeID"])
      (text.fields ["fsType"] ++ int32.fields ["partition"] ++ truth.fields ["readOnly"])),
    ("azureDisk", .record (text.fields ["diskName", "diskURI"])
      (text.fields ["cachingMode", "fsType", "kind"] ++ truth.fields ["readOnly"])),
    ("azureFile", .record (text.fields ["secretName", "shareName"]) (truth.fields ["readOnly"])),
    ("gcePersistentDisk", .record (text.fields ["pdName"])
      (text.fields ["fsType"] ++ int32.fields ["partition"] ++ truth.fields ["readOnly"])),
    ("photonPersistentDisk", .record (text.fields ["pdID"]) (text.fields ["fsType"])),
    ("vsphereVolume", .record (text.fields ["volumePath"])
      (text.fields ["fsType", "storagePolicyID", "storagePolicyName"]))]

/-- Volumes of storage systems in the network. -/
def networkVolumes : List (String × Shape) :=
  [("cephfs", .record [("monitors", .list .text)]
      (text.fields ["path", "secretFile", "user"] ++ truth.fields ["readOnly"] ++ [("secretRef", localReference)])),
    ("cinder", .record (text.fields ["volumeID"])
      (text.fields ["fsType"] ++ truth.fields ["readOnly"] ++ [("secretRef", localReference)])),
    ("csi", .record (text.fields ["driver"])
      (text.fields ["fsType"] ++ truth.fields ["readOnly"] ++
        [("nodePublishSecretRef", localReference), ("volumeAttributes", textMap)])),
    ("fc", .record []
      (text.fields ["fsType"] ++ int32.fields ["lun"] ++ truth.fields ["readOnly"] ++
        (list text).fields ["targetWWNs", "wwids"])),
    ("flexVolume", .record (text.fields ["driver"])
      (text.fields ["fsType"] ++ truth.fields ["readOnly"] ++
        [("options", textMap), ("secretRef", localReference)])),
    ("flocker", .record [] (text.fields ["datasetName", "datasetUUID"])),
    ("gitRepo", .record (text.fields ["repository"]) (text.fields ["directory", "revision"])),
    ("glusterfs", .record (text.fields ["endpoints", "path"]) (truth.fields ["readOnly"])),
    ("iscsi", .record (text.fields ["iqn", "targetPortal"] ++ int32.fields ["lun"])
      (text.fields ["fsType", "initiatorName", "iscsiInterface"] ++
        truth.fields ["chapAuthDiscovery", "chapAuthSession", "readOnly"] ++
        [("portals", .list .text), ("secretRef", localReference)])),
    ("nfs", .record (text.fields ["path", "server"]) (truth.fields ["readOnly"])),
    ("portworxVolume", .record (text.fields ["volumeID"]) (text.fields ["fsType"] ++ truth.fields ["readOnly"])),
    ("quobyte", .record (text.fields ["registry", "volume"])
      (text.fields ["group", "tenant", "user"] ++ truth.fields ["readOnly"])),
    ("rbd", .record (text.fields ["image"] ++ [("monitors", .list .text)])
      (text.fields ["fsType", "keyring", "pool", "user"] ++ truth.fields ["readOnly"] ++
        [("secretRef", localReference)])),
    ("scaleIO", .record (text.fields ["gateway", "system"] ++ [("secretRef", localReference)])
      (text.fields ["fsType", "protectionDomain", "storageMode", "storagePool", "volumeName"] ++
        truth.fields ["readOnly", "sslEnabled"])),
    ("storageos", .record []
      (text.fields ["fsType", "volumeName", "volumeNamespace"] ++ truth.fields ["readOnly"] ++
        [("secretRef", localReference)]))]

/-- A volume, by its name. -/
def volume : Shape :=
  .record (text.fields ["name"]) (clusterVolumes ++ ownVolumes ++ cloudVolumes ++ networkVolumes)

end FilterRollout.Shape
