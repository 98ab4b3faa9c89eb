import FilterRollout.Proofs.Cache.Registry
import FilterRollout.Proofs.Cluster.Revisions
import FilterRollout.Proofs.Program.Interleaving
import FilterRollout.Proofs.Rollout.Stages

/-! Publishers side by side at one registry, which they read and write back in two calls. Of several that read the same
registry only the first can write it, so that no registration is lost. Main statement: `Registry.published_grow`. -/

namespace FilterRollout

open Program Versioned

namespace Registry

variable {State : Type} {answer : Answerer State} {cache : CacheLocation} {image : String}

/-- An answerer that keeps a registry under versions: it reads what is stored, and accepts what names the current
version. It may refuse anything, and then nothing has changed. -/
structure Versions (answer : Answerer State) (cache : CacheLocation) (kept : State → Revisions ConfigMap) : Prop where
  read : ∀ {state registry}, (answer (.readRegistry cache) state).1 = .ok registry →
    (kept state).current = some registry
  reading : ∀ state, kept (answer (.readRegistry cache) state).2 = kept state
  accepted : ∀ {state registry}, (answer (.writeRegistry registry) state).1 = .ok () →
    (kept state).Accepts registry (kept (answer (.writeRegistry registry) state).2)
  refused : ∀ {state registry e}, (answer (.writeRegistry registry) state).1 = .error e →
    kept (answer (.writeRegistry registry) state).2 = kept state

/-- The images of the registry that is stored. Without a registry there are none. -/
def storedImages (revisions : Revisions ConfigMap) : List String := (revisions.current.map images).getD []

theorem images_stamped (resourceVersion : String) (registry : ConfigMap) :
    images (stamped resourceVersion registry) = images registry := rfl

theorem storedImages_of_current {revisions : Revisions ConfigMap} {registry : ConfigMap}
    (current : revisions.current = some registry) : storedImages revisions = images registry := by
  rw [storedImages, current]
  rfl

/-- A registry may have got images behind those that it had, and no image twice. -/
structure Grows (before after : Revisions ConfigMap) : Prop where
  images : storedImages before <+: storedImages after
  distinct : (storedImages before).Nodup → (storedImages after).Nodup
  held : ∀ {registry}, before.Held registry → after.Held registry

theorem Grows.refl (revisions : Revisions ConfigMap) : Grows revisions revisions :=
  ⟨List.prefix_rfl, fun distinct => distinct, fun held => held⟩

theorem Grows.trans {first middle last : Revisions ConfigMap} (earlier : Grows first middle)
    (later : Grows middle last) : Grows first last where
  images := earlier.images.trans later.images
  distinct := fun distinct => later.distinct (earlier.distinct distinct)
  held := fun held => later.held (earlier.held held)

/-- A registration that is accepted was made on the current registry. -/
theorem grows_of_accepts {before after : Revisions ConfigMap} {found updated : ConfigMap} (held : before.Held found)
    (registered : register? found image = some updated) (nonempty : image ≠ "") (oneLine : '\n' ∉ image.toList)
    (accepts : before.Accepts updated after) : Grows before after ∧ image ∈ storedImages after := by
  have current : before.current = some found :=
    held.current_of_accepts accepts (congrArg ObjectMeta.resourceVersion (metadata_of_register? registered))
  obtain ⟨resourceVersion, replaced⟩ := accepts.stored
  have listed : storedImages after = storedImages before ++ [image] := by
    rw [storedImages_of_current replaced.current, storedImages_of_current current, images_stamped]
    exact images_of_register? registered nonempty oneLine
  have absent : image ∉ storedImages before := by
    rw [storedImages_of_current current, mem_images_iff nonempty, ← register?_eq_none_iff, registered]
    simp
  refine ⟨⟨⟨[image], listed.symm⟩, fun distinct => ?_, fun held => held.replaced replaced⟩, by simp [listed]⟩
  rw [listed, List.nodup_append]
  refine ⟨distinct, List.pairwise_singleton _ _, fun other member last here same => absent ?_⟩
  rwa [same, List.mem_singleton.mp here] at member

/-- How far a publisher has come: it has done nothing, it has read a registry that does not list its image and is about
to write it, or it has ended. If it returned, its image is listed. -/
inductive Publishes (cache : CacheLocation) (image : String) (revisions : Revisions ConfigMap) : Program Bool → Prop
  | idle : Publishes cache image revisions (CacheSync.publish cache image)
  | writing {found updated : ConfigMap} (held : revisions.Held found)
      (registered : register? found image = some updated) :
      Publishes cache image revisions ((perform (.writeRegistry updated)).bind fun _ => done (.ok true))
  | returned (isNew : Bool) (listed : image ∈ storedImages revisions) :
      Publishes cache image revisions (done (.ok isNew))
  | failed (e : Error) : Publishes cache image revisions (done (.error e))

/-- What others register takes nothing from a publisher. -/
theorem Publishes.grown {before after : Revisions ConfigMap} {program : Program Bool}
    (publishes : Publishes cache image before program) (grows : Grows before after) :
    Publishes cache image after program := by
  cases publishes with
  | idle => exact .idle
  | writing held registered => exact .writing (grows.held held) registered
  | returned isNew listed => exact .returned isNew (grows.images.subset listed)
  | failed e => exact .failed e

/-- One turn of a publisher. -/
theorem Publishes.turn {kept : State → Revisions ConfigMap} {state : State} {program : Program Bool}
    (versions : Versions answer cache kept) (nonempty : image ≠ "") (oneLine : '\n' ∉ image.toList)
    (publishes : Publishes cache image (kept state) program) :
    Publishes cache image (kept (program.turn answer state).2) (program.turn answer state).1 ∧
      Grows (kept state) (kept (program.turn answer state).2) := by
  cases publishes with
  | idle =>
    have same : kept ((CacheSync.publish cache image).turn answer state).2 = kept state := versions.reading state
    rw [same]
    refine ⟨?_, .refl _⟩
    rw [CacheSync.publish_eq]
    simp only [perform, Program.bind, Program.turn]
    cases read : (answer (.readRegistry cache) state).1 with
    | error e => exact .failed e
    | ok found =>
      have current := versions.read read
      cases registered : register? found image with
      | none =>
        have listed := (mem_images_iff nonempty).mpr (register?_eq_none_iff.mp registered)
        simp only [bind_done_ok, registered]
        exact .returned false (by rwa [storedImages_of_current current])
      | some updated =>
        simp only [bind_done_ok, registered]
        exact .writing (.inl current) registered
  | @writing found updated held registered =>
    simp only [perform, Program.bind, Program.turn]
    cases written : (answer (.writeRegistry updated) state).1 with
    | error e =>
      rw [versions.refused written]
      exact ⟨.failed e, .refl _⟩
    | ok value =>
      obtain ⟨grows, listed⟩ := grows_of_accepts held registered nonempty oneLine (versions.accepted written)
      exact ⟨.returned true listed, grows⟩
  | returned isNew listed => exact ⟨.returned isNew listed, .refl _⟩
  | failed e => exact ⟨.failed e, .refl _⟩

variable {ι : Type} [DecidableEq ι]

/-- However publishers come in between each other, the list of the registry only grows at its end, has no image twice,
and has the image of every publisher that returned. -/
theorem published_grow {kept : State → Revisions ConfigMap} (versions : Versions answer cache kept)
    (publishers : ι → String) (nonempty : ∀ who, publishers who ≠ "")
    (oneLine : ∀ who, '\n' ∉ (publishers who).toList) (start : State) (distinct : (storedImages (kept start)).Nodup)
    (earlier later : List ι) :
    let begun : Pool ι Bool State := ⟨fun who => CacheSync.publish cache (publishers who), start⟩
    let now := begun.run answer earlier
    let next := begun.run answer (earlier ++ later)
    storedImages (kept start) <+: storedImages (kept now.state) ∧
      storedImages (kept now.state) <+: storedImages (kept next.state) ∧
      (storedImages (kept now.state)).Nodup ∧
      ∀ who isNew, now.programs who = done (.ok isNew) → publishers who ∈ storedImages (kept now.state) := by
  intro begun now next
  have goes (pool : Pool ι Bool State)
      (fits : ∀ who, Publishes cache (publishers who) (kept pool.state) (pool.programs who)) (turns : List ι) :
      (∀ who, Publishes cache (publishers who) (kept (pool.run answer turns).state)
        ((pool.run answer turns).programs who)) ∧ Grows (kept pool.state) (kept (pool.run answer turns).state) :=
    Pool.run_keeps (fun who program state => Publishes cache (publishers who) (kept state) program)
      (fun before after => Grows (kept before) (kept after)) (fun _ => .refl _) .trans
      (fun {who _ _} fits => fits.turn versions (nonempty who) (oneLine who)) .grown fits turns
  obtain ⟨fits, grows⟩ := goes begun (fun _ => .idle) earlier
  refine ⟨grows.images, ?_, grows.distinct distinct, fun who isNew ended => ?_⟩
  · rw [show next = now.run answer later from Pool.run_append ..]
    exact (goes now fits later).2.images
  · have ends := fits who
    rw [show (begun.run answer earlier).programs who = _ from ended] at ends
    cases ends with
    | returned _ listed => exact listed

/-- A store that keeps one registry and numbers its versions. Other calls are not served. -/
def keeper : Answerer (Revisions ConfigMap)
  | .readRegistry cache, revisions =>
    match revisions.current with
    | some registry => (.ok registry, revisions)
    | none => (.error (.notFound "ConfigMap" cache.namespaceName cache.name), revisions)
  | .writeRegistry registry, revisions =>
    match revisions.put? (toString (revisions.versions.length + 1)) registry with
    | some after => (.ok (), after)
    | none => (.error (.kubernetes .conflict), revisions)
  | _, revisions => (.error (.collaborator "registry" "not served"), revisions)

theorem keeper_versions (cache : CacheLocation) : Versions keeper cache id where
  read := by
    intro revisions registry read
    simp only [keeper] at read
    split at read
    · rename_i current
      exact current.trans (congrArg some (Except.ok.inj read))
    · cases read
  reading := by
    intro revisions
    simp only [keeper]
    split <;> rfl
  accepted := by
    intro revisions registry accepted
    simp only [keeper] at accepted ⊢
    split at accepted
    · rename_i after stored
      exact Revisions.accepts_of_put? stored
    · cases accepted
  refused := by
    intro revisions registry e refused
    simp only [keeper] at refused ⊢
    split at refused
    · cases refused
    · rfl

/-- Three publishers, two of them with the same image. -/
def rivals : Fin 3 → String
  | 0 => "filters/auth:2"
  | 1 => "filters/quota:1"
  | 2 => "filters/auth:2"

/-- A registry with one image, before anybody has written it. -/
def contested : Revisions ConfigMap := .first <| some
  ⟨{ ObjectMeta.empty with resourceVersion := some "1" }, some (.ofList [("images", "filters/auth:1\n")]), none, none⟩

/-- Two publishers read the same registry, and the first of them to write it is the only one: the other is refused and
its image is not lost to the list, but put there by the third one. -/
theorem published_grow_rivals :
    let begun : Pool (Fin 3) Bool (Revisions ConfigMap) :=
      ⟨fun who => CacheSync.publish Settings.default.cache (rivals who), contested⟩
    let now := begun.run keeper [0, 1, 1, 0]
    let next := begun.run keeper ([0, 1, 1, 0] ++ [2, 2])
    storedImages now.state = ["filters/auth:1", "filters/quota:1"] ∧
      storedImages next.state = ["filters/auth:1", "filters/quota:1", "filters/auth:2"] ∧
      storedImages contested <+: storedImages now.state ∧ storedImages now.state <+: storedImages next.state ∧
      (storedImages now.state).Nodup ∧
      ∀ who isNew, now.programs who = done (.ok isNew) → rivals who ∈ storedImages now.state :=
  ⟨by decide +kernel, by decide +kernel,
    published_grow (keeper_versions Settings.default.cache) rivals (by decide) (by decide) contested (by decide)
      [0, 1, 1, 0] [2, 2]⟩

end Registry

end FilterRollout
