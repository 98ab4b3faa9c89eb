import FilterRollout.Cache.Registry

/-! What registering an image does to the list of a registry. The list has one line an image, so an image with a line
break in it is never found again. -/

namespace FilterRollout.Registry

theorem lists_iff {registry : ConfigMap} {image : String} :
    lists registry image = true ↔ image ∈ Text.split '\n' (imagesText registry) := by
  simp [lists]

/-- No registry lists an image with a line break. -/
theorem not_lists_of_lineBreak {image : String} (broken : '\n' ∈ image.toList) (registry : ConfigMap) :
    lists registry image = false := by
  rw [Bool.eq_false_iff, Ne, lists_iff]
  exact fun listed => Text.not_mem_of_mem_split listed broken

theorem register?_eq_none_iff {registry : ConfigMap} {image : String} :
    register? registry image = none ↔ lists registry image = true := by
  unfold register?
  split <;> simp_all

theorem lineBreak_not_mem_of_mem_images {registry : ConfigMap} {image : String} (member : image ∈ images registry) :
    '\n' ∉ image.toList :=
  Text.not_mem_of_mem_split (List.mem_filter.mp member).1

/-- The lines of a registry after a registration: the images it had, and the new one behind them. -/
theorem split_imagesText_of_register? {registry updated : ConfigMap} {image : String}
    (registered : register? registry image = some updated) (oneLine : '\n' ∉ image.toList) :
    Text.split '\n' (imagesText updated) = images registry ++ [image] := by
  unfold register? at registered
  split at registered
  · cases registered
  · obtain rfl := Option.some.inj registered
    have text : imagesText { registry with
        data := some ((registry.data.getD .empty).insert imagesKey (Text.join "\n" (images registry ++ [image]))) } =
        Text.join (String.singleton '\n') (images registry ++ [image]) := by
      have lineBreak : String.singleton '\n' = "\n" := by decide
      simp [imagesText, lineBreak]
    rw [text]
    refine Text.split_join (by simp) fun piece member => ?_
    rcases List.mem_append.mp member with earlier | new
    · exact lineBreak_not_mem_of_mem_images earlier
    · exact List.mem_singleton.mp new ▸ oneLine

/-- A registration leaves the metadata of a registry as they are, with the version that was read. -/
theorem metadata_of_register? {registry updated : ConfigMap} {image : String}
    (registered : register? registry image = some updated) : updated.metadata = registry.metadata := by
  unfold register? at registered
  split at registered
  · cases registered
  · obtain rfl := Option.some.inj registered
    rfl

/-- A registration changes the entry with the images and nothing else. -/
theorem frame_of_register? {registry updated : ConfigMap} {image : String}
    (registered : register? registry image = some updated) :
    updated = { registry with data := updated.data } ∧
      ∀ key ≠ imagesKey, (updated.data.getD .empty).get? key = (registry.data.getD .empty).get? key := by
  unfold register? at registered
  split at registered
  · cases registered
  · obtain rfl := Option.some.inj registered
    exact ⟨rfl, fun key other => by simp [SortedMap.get?_insert, Ne.symm other]⟩

theorem mem_images_iff {registry : ConfigMap} {image : String} (nonempty : image ≠ "") :
    image ∈ images registry ↔ lists registry image = true := by
  simp [images, lists_iff, nonempty]

theorem images_of_register? {registry updated : ConfigMap} {image : String}
    (registered : register? registry image = some updated) (nonempty : image ≠ "") (oneLine : '\n' ∉ image.toList) :
    images updated = images registry ++ [image] := by
  rw [images, split_imagesText_of_register? registered oneLine, List.filter_append]
  simp [images, nonempty]

theorem lists_of_register? {registry updated : ConfigMap} {image : String}
    (registered : register? registry image = some updated) (oneLine : '\n' ∉ image.toList) :
    lists updated image = true := by
  rw [lists_iff, split_imagesText_of_register? registered oneLine]
  simp

end FilterRollout.Registry
