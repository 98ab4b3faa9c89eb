import FilterRollout.Resource.ConfigMap
import FilterRollout.Text.Split

/-! The registry of a cache: a ConfigMap that lists the images whose binaries the cache keeps, one a line. -/

namespace FilterRollout.Registry

/-- The entry that holds the list. -/
def imagesKey : String := "images"

/-- The text of the list, empty if there is none. -/
def imagesText (registry : ConfigMap) : String :=
  ((registry.data.getD .empty).get? imagesKey).getD ""

/-- The registered images in their order. Empty lines are none. -/
def images (registry : ConfigMap) : List String :=
  (Text.split '\n' (imagesText registry)).filter (· ≠ "")

/-- Whether one of the lines is exactly this image. -/
def lists (registry : ConfigMap) (image : String) : Bool :=
  (Text.split '\n' (imagesText registry)).contains image

/-- The registry with one image more, or nothing if it lists the image already. -/
def register? (registry : ConfigMap) (image : String) : Option ConfigMap :=
  if lists registry image then none
  else
    let updated := Text.join "\n" (images registry ++ [image])
    some { registry with data := some ((registry.data.getD .empty).insert imagesKey updated) }

end FilterRollout.Registry
