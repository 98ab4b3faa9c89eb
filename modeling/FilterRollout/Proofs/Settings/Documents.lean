import FilterRollout.Filter.Image
import FilterRollout.Filter.Spec
import FilterRollout.Proofs.Settings.Saving

/-! Documents that describe filters, images, targets, caches and settings. What is read of one, with its fields in any
order, others between them and some left out, is read again from what is written for it. Main statement:
`documents_stable`. -/

namespace FilterRollout

open Json (Document Recovers recovers_text exists_shows Form Plain Reloads Stable stable_of_reload?)

theorem FilterSpec.recovers : Recovers toJson ofDocument? := by
  intro filter layout
  obtain ⟨given, read, -, -, shows⟩ :=
    exists_shows layout ["id", "image", "config", "rootId", "patchContext"] (rfl : filter.toJson = _) rfl (by simp)
  have id : Document.required? Document.text? given "id" = some filter.id :=
    (recovers_text _).required? shows rfl
  have image : Document.required? Document.text? given "image" = some filter.image :=
    (recovers_text _).required? shows rfl
  have config : Document.optional? Document.text? given "config" = some filter.config :=
    recovers_text.optional? rfl shows rfl
  have rootId : Document.optional? Document.text? given "rootId" = some filter.rootId :=
    recovers_text.optional? rfl shows rfl
  have patchContext : Document.defaulted? "" Document.text? given "patchContext" = some filter.patchContext :=
    (recovers_text _).defaulted? shows rfl (.inl rfl)
  simp [ofDocument?, read, id, image, config, rootId, patchContext]

theorem FilterSpec.plain_toJson {height : Nat} (filter : FilterSpec) : Plain (height + 1) filter.toJson := by
  refine .record ?_
  simp only [List.forall_mem_cons, Option.mem_def, Option.map_eq_some_iff, Option.some.injEq]
  refine ⟨?_, ?_, ?_, ?_, ?_, ?_⟩ <;> simp

theorem ImageConfig.recovers : Recovers toJson ofDocument? := by
  intro image layout
  obtain ⟨given, read, -, -, shows⟩ := exists_shows layout ["abiVersions"] (rfl : image.toJson = _) rfl (by simp)
  have abiVersions : Document.defaulted? [] (Document.list? Document.text?) given "abiVersions" =
      some image.abiVersions := (recovers_text.list _).defaulted? shows rfl (.inl rfl)
  simp [ofDocument?, read, abiVersions]

theorem ImageConfig.plain_toJson {height : Nat} (image : ImageConfig) : Plain (height + 2) image.toJson := by
  have versions : Plain (height + 1) (.array (image.abiVersions.map .string)) := .array (by simp)
  exact .record (by simp [versions])

/-- A field of settings has its default, or what is read of a count in one word. -/
theorem exists_of_defaulted?_count {ofCount : Nat → Duration} {default d : Duration} {given : List (String × Document)}
    {name : String}
    (read : Document.defaulted? default (fun document => (Settings.wordCount? document).map ofCount) given name = some d) :
    d = default ∨ ∃ count, d = ofCount count := by
  unfold Document.defaulted? at read
  split at read
  · obtain ⟨count, -, rfl⟩ := Option.map_eq_some_iff.mp read
    exact .inr ⟨count, rfl⟩
  · exact .inl (Option.some.inj read).symm

/-- Settings that are read have their durations in whole units. -/
theorem Settings.inUnits_of_ofDocument? {document : Document} {s : Settings} (read : ofDocument? document = some s) :
    s.inUnits = s := by
  simp only [ofDocument?, Option.bind_eq_bind, Option.bind_eq_some_iff] at read
  obtain ⟨given, -, target, -, cache, -, istioNamespace, -, ignoreVersionCheck, -, cacheTimeout, timeout, pollInterval,
    interval, fieldManager, -, ended⟩ := read
  cases ended
  have seconds : ∃ count, cacheTimeout = .ofSeconds count := by
    rcases exists_of_defaulted?_count timeout with rfl | counted
    · exact ⟨60, rfl⟩
    · exact counted
  have milliseconds : ∃ count, pollInterval = .ofMilliseconds count := by
    rcases exists_of_defaulted?_count interval with rfl | counted
    · exact ⟨1000, rfl⟩
    · exact counted
  obtain ⟨count, rfl⟩ := seconds
  obtain ⟨polls, rfl⟩ := milliseconds
  have inWord : (Duration.ofMilliseconds polls).milliseconds < Word.count64 := by
    rw [Duration.milliseconds_ofMilliseconds]
    exact Nat.mod_lt _ (by decide)
  exact inUnits_eq_self inWord (Nat.dvd_mul_left _ _) (Nat.dvd_mul_left _ _)

theorem FilterSpec.reloads : Reloads toJson ofDocument? :=
  fun form filter => Form.reload?_eq filter.plain_toJson (recovers filter) form

theorem ImageConfig.reloads : Reloads toJson ofDocument? :=
  fun form image => Form.reload?_eq image.plain_toJson (recovers image) form

theorem Target.reloads : Reloads toJson ofDocument? :=
  fun form target => Form.reload?_eq target.plain_toJson (recovers target) form

theorem CacheLocation.reloads : Reloads toJson ofDocument? :=
  fun form cache => Form.reload?_eq cache.plain_toJson (recovers cache) form

theorem Settings.stable : Stable toJson ofDocument? := by
  refine stable_of_reload? fun document s read form => ?_
  rw [reload?_eq, inUnits_of_ofDocument? read]

/-- Documents that are accepted are stable. Filters, images, targets and caches are recovered from what is saved for them
also where they were not read before; settings need not be, for they may have durations that are not in whole units. -/
theorem documents_stable :
    (Stable FilterSpec.toJson FilterSpec.ofDocument? ∧ Stable ImageConfig.toJson ImageConfig.ofDocument? ∧
        Stable Target.toJson Target.ofDocument? ∧ Stable CacheLocation.toJson CacheLocation.ofDocument? ∧
        Stable Settings.toJson Settings.ofDocument?) ∧
      Reloads FilterSpec.toJson FilterSpec.ofDocument? ∧ Reloads ImageConfig.toJson ImageConfig.ofDocument? ∧
        Reloads Target.toJson Target.ofDocument? ∧ Reloads CacheLocation.toJson CacheLocation.ofDocument? :=
  ⟨⟨FilterSpec.reloads.stable, ImageConfig.reloads.stable, Target.reloads.stable, CacheLocation.reloads.stable,
      Settings.stable⟩,
    FilterSpec.reloads, ImageConfig.reloads, Target.reloads, CacheLocation.reloads⟩

/-- Settings that someone wrote by hand: a part that is unknown here, the longest timeout, a kind with capitals, and all
else left out. -/
def handwritten : String :=
  "\x7b\"remark\":null, \"cacheTimeout\":18446744073709551615," ++
    " \"workload\":\x7b\"namespace\":\"shop\", \"kind\":\"StatefulSet\"\x7d\x7d"

/-- What those settings are read as. -/
def handwrittenSettings : Settings :=
  { Settings.default with
    target := ⟨.statefulSet, "shop", .empty⟩
    cacheTimeout := .ofSeconds 18446744073709551615 }

theorem documents_stable_handwritten :
    (Document.read? handwritten).bind Settings.ofDocument? = some handwrittenSettings ∧
      (Form.text .asPut).reload? Settings.toJson Settings.ofDocument? handwrittenSettings = some handwrittenSettings ∧
      (Form.text .asPut).reload? Target.toJson Target.ofDocument? handwrittenSettings.target =
        some handwrittenSettings.target := by
  have accepted : (Document.read? handwritten).bind Settings.ofDocument? = some handwrittenSettings := by
    decide +kernel
  obtain ⟨⟨-, -, -, -, stable⟩, -, -, reloads, -⟩ := documents_stable
  exact ⟨accepted, stable.reloaded (.text .asPut) (.text .asPut) handwritten handwrittenSettings accepted,
    reloads _ handwrittenSettings.target⟩

end FilterRollout
