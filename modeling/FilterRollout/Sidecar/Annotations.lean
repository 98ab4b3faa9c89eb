import FilterRollout.Filter.Image
import FilterRollout.Resource.PodTemplate
import FilterRollout.Sidecar.VolumeList

/-! The annotations by which the proxies of a workload mount the cache. A pod template may already have volumes of
its own there. The required ones are merged in, and the former value is kept under a backup key until the filter is
withdrawn. -/

namespace FilterRollout.SidecarAnnotations

/-- What the key of a backup begins with. -/
def backupMark : String := "wasm-mesh-backup."

def backupKey (key : String) : String := backupMark ++ key

def isBackupKey (key : String) : Bool := backupMark.toList.isPrefixOf key.toList

/-- The key whose value a backup holds. -/
def restoredKey (key : String) : String := String.ofList (key.toList.drop backupMark.toList.length)

/-- The annotations that make a proxy mount the cache directory. -/
def required : SortedMap String := .ofList [
  ("sidecar.istio.io/userVolume",
    s!"[\x7b\"name\":\"cache-dir\",\"hostPath\":\x7b\"path\":\"{cacheDirectory}\"\x7d\x7d]"),
  ("sidecar.istio.io/userVolumeMount",
    s!"[\x7b\"mountPath\":\"{cacheDirectory}\",\"name\":\"cache-dir\"\x7d]")]

/-- Merge one required annotation. A value that is absent or empty is set, the required value itself is left alone,
and any other value is merged after it was saved, unless an older backup exists. -/
def mergeOne (annotations : SortedMap String) (key wanted : String) : Except Error (SortedMap String) :=
  match annotations.get? key with
  | none => .ok (annotations.insert key wanted)
  | some current =>
    if current = wanted then .ok annotations
    else if current = "" then .ok (annotations.insert key wanted)
    else do
      let merged ← VolumeList.merge key current wanted
      let saved :=
        if annotations.contains (backupKey key) then annotations else annotations.insert (backupKey key) current
      return if merged = current then saved else saved.insert key merged

/-- Merge required annotations one after another. The first that fails ends it, with the annotations as they are by
then. -/
def mergeEach (annotations : SortedMap String) : List (String × String) → SortedMap String × Except Error Unit
  | [] => (annotations, .ok ())
  | (key, wanted) :: rest =>
    match mergeOne annotations key wanted with
    | .ok merged => mergeEach merged rest
    | .error e => (annotations, .error e)

/-- Merge the required annotations into a pod template, in the order of their keys. A failure comes with the template
as far as it was changed. -/
def apply (required : SortedMap String) (template : PodTemplate) : PodTemplate × Except Error Unit :=
  let (annotations, result) := mergeEach template.annotations required.toList
  (template.withAnnotations (some annotations), result)

/-- Put a saved value back under the key that it was saved for. -/
def restoreOne (annotations : SortedMap String) (backup : String) : SortedMap String :=
  match annotations.get? backup with
  | some value => (annotations.erase backup).insert (restoredKey backup) value
  | none => annotations

/-- Drop the required annotations, then put back the backups that are left, in the order of their keys. -/
def withdraw (required annotations : SortedMap String) : SortedMap String :=
  let kept := required.keys.foldl SortedMap.erase annotations
  (kept.keys.filter isBackupKey).foldl restoreOne kept

/-- Remove the required annotations from a pod template and restore what they replaced. A template without
annotations is left alone, and one that has none afterwards loses the map. -/
def remove (required : SortedMap String) (template : PodTemplate) : PodTemplate :=
  match template.annotations? with
  | none => template
  | some annotations =>
    let left := withdraw required annotations
    template.withAnnotations (if left.isEmpty then none else some left)

end FilterRollout.SidecarAnnotations
