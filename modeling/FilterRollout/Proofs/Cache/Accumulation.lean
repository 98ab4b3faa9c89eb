import FilterRollout.Proofs.Rollout.Barrier

/-! What publishing does to the list of a registry. An image that is not on it is put at its end, in one update that
leaves the rest of the registry alone; so a series of publications puts each new image behind the earlier ones once, in
the order in which they were first published. Main statement: `publish_accumulates`. -/

namespace FilterRollout.CacheSync

open Program Registry

/-- A registry with one image more, behind those that it had. -/
structure Appends (registry : ConfigMap) (image : String) (updated : ConfigMap) : Prop where
  /-- Nothing but the entry with the list is new. The data and the entry are created if they are missing. -/
  replaced : updated = { registry with
    data := some ((registry.data.getD .empty).insert imagesKey (Text.join "\n" (images registry ++ [image]))) }
  others : ∀ key ≠ imagesKey, (updated.data.getD .empty).get? key = (registry.data.getD .empty).get? key
  lines : Text.split '\n' (imagesText updated) = images registry ++ [image]
  /-- No line is blank: not the first one, not the last one, and none between. -/
  unblank : ∀ line ∈ Text.split '\n' (imagesText updated), line ≠ ""
  distinct : (images registry).Nodup → (Text.split '\n' (imagesText updated)).Nodup

/-- How an image is published on a registry that was read: a registry that lists it is left alone, any other one is
written with the image behind its list, and the image is new if that is accepted. Given are the exchanges, the result
and the state that is left. -/
inductive Published {State : Type} (answer : Answerer State) (cache : CacheLocation) (image : String)
    (registry : ConfigMap) (middle : State) : List Exchange → Except Error Bool → State → Prop
  | listed (present : image ∈ Text.split '\n' (imagesText registry)) :
      Published answer cache image registry middle [⟨.readRegistry cache, .ok registry⟩] (.ok false) middle
  | added {updated : ConfigMap} {written : Except Error Unit} {after : State}
      (absent : image ∉ Text.split '\n' (imagesText registry)) (appends : Appends registry image updated)
      (answered : answer (.writeRegistry updated) middle = (written, after)) :
      Published answer cache image registry middle
        [⟨.readRegistry cache, .ok registry⟩, ⟨.writeRegistry updated, written⟩] (written.map fun _ => true) after

/-- An answerer at which the images of a cache are kept: a registry that is read lists what is kept, and what a registry
lists is kept when it is written. It may refuse anything, and then nothing has changed. -/
structure KeepsImages {State : Type} (answer : Answerer State) (cache : CacheLocation)
    (kept : State → List String) : Prop where
  read : ∀ {state registry}, (answer (.readRegistry cache) state).1 = .ok registry → images registry = kept state
  reading : ∀ state, kept (answer (.readRegistry cache) state).2 = kept state
  accepted : ∀ {state registry}, (answer (.writeRegistry registry) state).1 = .ok () →
    kept (answer (.writeRegistry registry) state).2 = images registry
  refused : ∀ {state registry e}, (answer (.writeRegistry registry) state).1 = .error e →
    kept (answer (.writeRegistry registry) state).2 = kept state

variable {State : Type} {answer : Answerer State} {cache : CacheLocation}

section

variable {image : String} {registry : ConfigMap}

theorem appends_of_register? {updated : ConfigMap} (registered : register? registry image = some updated)
    (nonempty : image ≠ "") (oneLine : '\n' ∉ image.toList) : Appends registry image updated := by
  have lines := split_imagesText_of_register? registered oneLine
  have absent : image ∉ images registry := by
    rw [mem_images_iff nonempty, ← register?_eq_none_iff, registered]
    exact Option.some_ne_none updated
  refine ⟨?_, (frame_of_register? registered).2, lines, ?_, ?_⟩
  · unfold register? at registered
    split at registered
    · cases registered
    · exact (Option.some.inj registered).symm
  · intro line member
    rw [lines] at member
    rcases List.mem_append.mp member with earlier | new
    · simpa using (List.mem_filter.mp earlier).2
    · exact List.mem_singleton.mp new ▸ nonempty
  · intro distinct
    rw [lines, ← List.concat_eq_append]
    exact distinct.concat absent

/-- Publishing on a registry that was read. -/
theorem published_of_read (nonempty : image ≠ "") (oneLine : '\n' ∉ image.toList) {state middle : State}
    (read : answer (.readRegistry cache) state = (.ok registry, middle)) :
    Published answer cache image registry middle ((publish cache image).exchanges answer state)
      ((publish cache image).outcome answer state).1 ((publish cache image).outcome answer state).2 := by
  rcases publish_inversion answer cache image state with ⟨e, other, failed, -, -⟩ |
    ⟨found, other, again, registered, ended, calls⟩ |
    ⟨found, updated, written, other, after, again, registered, answered, ended, calls⟩
  · rw [read] at failed
    cases failed
  · rw [read] at again
    cases again
    rw [ended, calls]
    exact .listed (lists_iff.mp (register?_eq_none_iff.mp registered))
  · rw [read] at again
    cases again
    have absent : image ∉ Text.split '\n' (imagesText registry) := by
      rw [← lists_iff, ← register?_eq_none_iff, registered]
      exact Option.some_ne_none updated
    rw [ended, calls]
    exact .added absent (appends_of_register? registered nonempty oneLine) answered

variable {exchanges : List Exchange} {middle after : State} {result : Except Error Bool}

/-- An image is reported as listed, and nothing is written, exactly if a line of the list is the image. -/
theorem Published.unwritten_iff (published : Published answer cache image registry middle exchanges result after) :
    result = .ok false ∧ (∀ exchange ∈ exchanges, exchange.request.name ≠ .writeRegistry) ↔
      image ∈ Text.split '\n' (imagesText registry) := by
  cases published with
  | listed present => simp [present, Call.name]
  | added absent => simp [absent, Call.name]

/-- An image is reported as new exactly if its update succeeded. -/
theorem Published.new_iff (published : Published answer cache image registry middle exchanges result after) :
    result = .ok true ↔ ∃ updated, (⟨.writeRegistry updated, .ok ()⟩ : Exchange) ∈ exchanges := by
  cases published with
  | listed present => simp
  | @added updated written after absent appends answered =>
    constructor
    · intro new
      cases written with
      | error e => cases new
      | ok value => exact ⟨updated, List.mem_cons_of_mem _ List.mem_cons_self⟩
    · rintro ⟨other, member⟩
      rcases List.mem_cons.mp member with first | second
      · cases first
      · cases List.mem_singleton.mp second
        rfl

end

/-- The state after images were published one after another, whether or not all of it succeeds. -/
def afterPublishing (answer : Answerer State) (cache : CacheLocation) : List String → State → State
  | [], state => state
  | image :: rest, state => afterPublishing answer cache rest ((publish cache image).outcome answer state).2

/-- The images of these whose publication succeeds. -/
def publishedOf (answer : Answerer State) (cache : CacheLocation) : List String → State → List String
  | [], _ => []
  | image :: rest, state =>
    match (publish cache image).outcome answer state with
    | (.ok _, after) => image :: publishedOf answer cache rest after
    | (.error _, after) => publishedOf answer cache rest after

/-- A publication that succeeds puts its image behind those that are kept, if they lack it; one that fails changes
nothing. -/
theorem kept_publish {kept : State → List String} (keeps : KeepsImages answer cache kept) {image : String}
    (nonempty : image ≠ "") (oneLine : '\n' ∉ image.toList) (state : State) :
    (∃ e after, (publish cache image).outcome answer state = (.error e, after) ∧ kept after = kept state) ∨
      ∃ isNew after, (publish cache image).outcome answer state = (.ok isNew, after) ∧
        kept after = if image ∈ kept state then kept state else kept state ++ [image] := by
  have reading := keeps.reading state
  rcases publish_inversion answer cache image state with ⟨e, middle, read, ended, -⟩ |
    ⟨registry, middle, read, registered, ended, -⟩ |
    ⟨registry, updated, written, middle, after, read, registered, answered, ended, -⟩
  · rw [read] at reading
    exact .inl ⟨e, middle, ended, reading⟩
  · rw [read] at reading
    have lines : images registry = kept state := keeps.read (congrArg Prod.fst read)
    have member : image ∈ kept state := lines ▸ (mem_images_iff nonempty).mpr (register?_eq_none_iff.mp registered)
    refine .inr ⟨false, middle, ended, ?_⟩
    rw [if_pos member]
    exact reading
  · rw [read] at reading
    have lines : images registry = kept state := keeps.read (congrArg Prod.fst read)
    have absent : image ∉ kept state := by
      rw [← lines, mem_images_iff nonempty, ← register?_eq_none_iff, registered]
      exact Option.some_ne_none updated
    cases written with
    | error e =>
      have refused := keeps.refused (congrArg Prod.fst answered)
      rw [answered] at refused
      exact .inl ⟨e, after, ended, refused.trans reading⟩
    | ok value =>
      have accepted := keeps.accepted (congrArg Prod.fst answered)
      rw [answered] at accepted
      refine .inr ⟨true, after, ended, ?_⟩
      rw [if_neg absent, ← lines]
      exact accepted.trans (images_of_register? registered nonempty oneLine)

/-- The images that are not among the earlier ones, each where it stands first. -/
def newImages (earlier images : List String) : List String := (images.filter (· ∉ earlier)).eraseDups

theorem newImages_cons_of_mem {earlier : List String} {image : String} (member : image ∈ earlier)
    (rest : List String) : newImages earlier (image :: rest) = newImages earlier rest := by
  rw [newImages, List.filter_cons_of_neg (by simpa using member), newImages]

theorem newImages_cons_of_not_mem {earlier : List String} {image : String} (absent : image ∉ earlier)
    (rest : List String) : newImages earlier (image :: rest) = image :: newImages (earlier ++ [image]) rest := by
  have others : (rest.filter (· ∉ earlier)).filter (fun other => !other == image) =
      rest.filter (· ∉ earlier ++ [image]) := by
    rw [List.filter_filter]
    refine List.filter_congr fun other _ => ?_
    rw [Bool.eq_iff_iff]
    simp [and_comm]
  rw [newImages, List.filter_cons_of_pos (by simpa using absent), List.eraseDups_cons, others, newImages]

/-- A series of publications puts the new images behind the earlier ones. -/
theorem kept_afterPublishing {kept : State → List String} (keeps : KeepsImages answer cache kept)
    {series : List String} (plain : ∀ image ∈ series, image ≠ "" ∧ '\n' ∉ image.toList) (state : State) :
    kept (afterPublishing answer cache series state) =
      kept state ++ newImages (kept state) (publishedOf answer cache series state) := by
  induction series generalizing state with
  | nil => simp [afterPublishing, publishedOf, newImages]
  | cons image rest ih =>
    obtain ⟨nonempty, oneLine⟩ := plain image List.mem_cons_self
    have later := ih fun other member => plain other (List.mem_cons_of_mem _ member)
    rcases kept_publish keeps nonempty oneLine state with ⟨e, after, ended, same⟩ | ⟨isNew, after, ended, more⟩
    · rw [afterPublishing, publishedOf, ended, later after, same]
    · rw [afterPublishing, publishedOf, ended, later after, more]
      by_cases member : image ∈ kept state
      · rw [if_pos member, newImages_cons_of_mem member]
      · rw [if_neg member, newImages_cons_of_not_mem member, List.append_assoc]
        rfl

theorem nodup_newImages (earlier images : List String) (distinct : earlier.Nodup) :
    (earlier ++ newImages earlier images).Nodup := by
  induction images generalizing earlier with
  | nil => simpa [newImages] using distinct
  | cons image rest ih =>
    by_cases member : image ∈ earlier
    · rw [newImages_cons_of_mem member]
      exact ih earlier distinct
    · have longer := ih (earlier ++ [image]) (List.concat_eq_append ▸ distinct.concat member)
      rwa [newImages_cons_of_not_mem member, List.append_cons]

/-- What publishing does to a registry that was read, and what a series of publications leaves. -/
theorem publish_accumulates (answer : Answerer State) (cache : CacheLocation) :
    (∀ image registry state middle, image ≠ "" → '\n' ∉ image.toList →
      answer (.readRegistry cache) state = (.ok registry, middle) →
        let exchanges := (publish cache image).exchanges answer state
        let ending := (publish cache image).outcome answer state
        Published answer cache image registry middle exchanges ending.1 ending.2 ∧
          (ending.1 = .ok false ∧ (∀ exchange ∈ exchanges, exchange.request.name ≠ .writeRegistry) ↔
            image ∈ Text.split '\n' (imagesText registry)) ∧
          (ending.1 = .ok true ↔ ∃ updated, (⟨.writeRegistry updated, .ok ()⟩ : Exchange) ∈ exchanges)) ∧
      ∀ kept, KeepsImages answer cache kept →
        ∀ series, (∀ image ∈ series, image ≠ "" ∧ '\n' ∉ image.toList) → ∀ state,
          let last := afterPublishing answer cache series state
          kept last = kept state ++ newImages (kept state) (publishedOf answer cache series state) ∧
            ((kept state).Nodup → (kept last).Nodup) := by
  constructor
  · intro image registry state middle nonempty oneLine read exchanges ending
    have published := published_of_read nonempty oneLine read
    exact ⟨published, published.unwritten_iff, published.new_iff⟩
  · intro kept keeps series plain state last
    have grown := kept_afterPublishing keeps plain state
    refine ⟨grown, fun distinct => ?_⟩
    rw [show kept last = _ from grown]
    exact nodup_newImages _ _ distinct

/-- The images of the registry that is kept, none if there is no registry. -/
theorem keepsImages_of_keepsRegistry {stored : State → Option ConfigMap} (keeps : KeepsRegistry answer cache stored) :
    KeepsImages answer cache fun state => ((stored state).map images).getD [] where
  read := by
    intro state registry read
    rw [keeps.read read]
    rfl
  reading := by
    intro state
    rw [keeps.others (by simp [Call.name])]
  accepted := by
    intro state registry accepted
    rw [keeps.accepted accepted]
    rfl
  refused := by
    intro state registry e refused
    rw [keeps.refused refused]

/-- A registry with blank lines in its list, and a second update of it that fails. -/
def spaced : World where
  version := "1.8.0"
  digest := "sha256:ab"
  abiVersions := []
  registry := some ⟨.empty, some (.ofList [("images", "\nfilters/auth:1\n\n"), ("note", "kept")]), none, none⟩
  events := []
  ready := []
  workloads := []
  filters := .empty
  faults := [⟨.writeRegistry, 2, .validation "conflict" none⟩]
  counted := []

/-- There a series with repeated images leaves each of them once, at the place of its first success. -/
theorem publish_accumulates_spaced :
    let cache := Settings.default.cache
    let series := ["filters/trace:1", "filters/log:1", "filters/auth:1", "filters/trace:1", "filters/stats:1",
      "filters/log:1"]
    let last := afterPublishing World.answer cache series spaced
    (∀ image ∈ series, image ≠ "" ∧ '\n' ∉ image.toList) ∧
      (∃ registry middle, World.answer (.readRegistry cache) spaced = (.ok registry, middle) ∧
        Published World.answer cache "filters/trace:1" registry middle
          ((publish cache "filters/trace:1").exchanges World.answer spaced) (.ok true)
          ((publish cache "filters/trace:1").outcome World.answer spaced).2) ∧
      publishedOf World.answer cache series spaced =
        ["filters/trace:1", "filters/auth:1", "filters/trace:1", "filters/stats:1", "filters/log:1"] ∧
      (last.registry.map images).getD [] =
        ["filters/auth:1", "filters/trace:1", "filters/stats:1", "filters/log:1"] := by
  intro cache series last
  have plain : ∀ image ∈ series, image ≠ "" ∧ '\n' ∉ image.toList := by decide +kernel
  obtain ⟨single, many⟩ := publish_accumulates World.answer cache
  obtain ⟨grown, -⟩ := many _ (keepsImages_of_keepsRegistry (World.keepsRegistry cache)) series plain spaced
  have published : publishedOf World.answer cache series spaced =
      ["filters/trace:1", "filters/auth:1", "filters/trace:1", "filters/stats:1", "filters/log:1"] := by
    decide +kernel
  refine ⟨plain, ⟨_, _, rfl, ?_⟩, published, ?_⟩
  · obtain ⟨one, -⟩ := single "filters/trace:1" _ spaced _ (by decide) (by decide) rfl
    have new : ((publish cache "filters/trace:1").outcome World.answer spaced).1 = .ok true := by decide +kernel
    rwa [new] at one
  · rw [published] at grown
    exact grown.trans (by decide +kernel)

end FilterRollout.CacheSync
