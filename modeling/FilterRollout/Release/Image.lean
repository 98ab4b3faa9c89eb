import FilterRollout.Error

/-! The version of a control plane, as the image that it runs tells it. -/

namespace FilterRollout

/-- The version in the tag of an image reference: what stands between the colon after the last slash and the first
dash. -/
def versionOfImage (image : String) : Except Error String :=
  match Text.cut? ':' (Text.afterLast '/' image) with
  | none | some (_, "") =>
    .error (.collaborator "version-lookup" s!"istiod image {Text.quoted image} has no version tag")
  | some (_, tag) => .ok ((Text.cut? '-' tag).elim tag (·.1))

example : (versionOfImage "registry:5000/istio/pilot:1.8.2-distroless").toOption = some "1.8.2" := by decide +kernel

end FilterRollout
