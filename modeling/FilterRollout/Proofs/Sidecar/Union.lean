import FilterRollout.Proofs.Json.Rereading
import FilterRollout.Sidecar.VolumeList

/-! Merging one list of volumes into another. What is written for volumes that were read is read as the same volumes,
each with its numbers as their own texts are read. Main statements: `merge_union`, by which a merge is the union by name
that leaves a complete list as it is written, and `merge_merge`, by which it is made once. -/

namespace FilterRollout.VolumeList

open Json (RoundTrips rereadMembers)

/-- One volume stands for another: they have equal names, or neither has one. -/
def StandsFor (existing wanted : Volume) : Prop :=
  Option.Rel (fun name other => name.same other = true) (Json.member? identityKey existing)
    (Json.member? identityKey wanted)

theorem sameIdentity_iff {existing wanted : Volume} :
    sameIdentity existing wanted = true ↔ StandsFor existing wanted := by
  unfold sameIdentity StandsFor
  cases Json.member? identityKey existing with
  | none => cases Json.member? identityKey wanted <;> simp
  | some name => cases Json.member? identityKey wanted <;> simp

instance (existing wanted : Volume) : Decidable (StandsFor existing wanted) := decidable_of_iff _ sameIdentity_iff

theorem StandsFor.refl (volume : Volume) : StandsFor volume volume := by
  unfold StandsFor
  cases Json.member? identityKey volume with
  | none => exact .none
  | some name => exact .some name.same_self

/-- Volumes stand for each other also once they were written and read again. -/
theorem StandsFor.reread {existing wanted : Volume} (stands : StandsFor existing wanted) :
    StandsFor (rereadMembers existing) (rereadMembers wanted) := by
  unfold StandsFor at stands ⊢
  rw [Json.member?_rereadMembers, Json.member?_rereadMembers]
  generalize Json.member? identityKey existing = name at stands ⊢
  generalize Json.member? identityKey wanted = other at stands ⊢
  cases stands with
  | none => exact .none
  | some same => exact .some (Json.same_reread same)

/-- What is missing are the volumes for which no current one stands. -/
theorem missing_eq (current required : List Volume) :
    missing current required = required.filter fun volume => ∀ existing ∈ current, ¬ StandsFor existing volume := by
  refine List.filter_congr fun volume _ => Bool.eq_iff_iff.mpr ?_
  simp [← sameIdentity_iff]

theorem missing_eq_nil_iff {current required : List Volume} :
    missing current required = [] ↔ ∀ volume ∈ required, ∃ existing ∈ current, StandsFor existing volume := by
  simp [missing_eq]

theorem mapM_volume? (volumes : List Volume) : (volumes.map Json.object).mapM volume? = some volumes := by
  induction volumes with
  | nil => rfl
  | cons volume rest ih => simp [ih, volume?]

theorem eq_map_object {items : List Json} {volumes : List Volume} (objects : items.mapM volume? = some volumes) :
    items = volumes.map Json.object := by
  induction items generalizing volumes with
  | nil =>
    cases objects
    rfl
  | cons item rest ih =>
    simp only [List.mapM_cons, Option.bind_eq_bind, Option.bind_eq_some_iff] at objects
    obtain ⟨volume, first, others, later, ended⟩ := objects
    cases ended
    cases item with
    | object members =>
      cases first
      rw [List.map_cons, ← ih later]
    | _ => cases first

theorem read?_iff {text : String} {volumes : List Volume} :
    read? text = some volumes ↔ Json.read? text = some (.array (volumes.map .object)) := by
  unfold read?
  constructor
  · intro success
    split at success
    · rename_i items found
      rw [found, eq_map_object success]
    · cases success
  · intro found
    rw [found]
    exact mapM_volume? volumes

/-- Volumes from lists that were read are read from their text, with their numbers as those are read. -/
theorem read?_write {volumes : List Volume}
    (origin : ∀ volume ∈ volumes, ∃ text others, read? text = some others ∧ volume ∈ others) :
    read? (write volumes) = some (volumes.map rereadMembers) := by
  have listed : ∀ item ∈ volumes.map Json.object,
      ∃ text items, Json.read? text = some (.array items) ∧ item ∈ items := by
    intro item member
    obtain ⟨volume, listed, rfl⟩ := List.mem_map.mp member
    obtain ⟨text, others, read, found⟩ := origin volume listed
    exact ⟨text, _, read?_iff.mp read, List.mem_map_of_mem found⟩
  have read := Json.read?_text_of_items_eq_reread listed
  rw [Json.rereadItems_eq_map, List.map_map] at read
  rw [read?_iff, List.map_map]
  exact read

/-- The volumes of a text that is read again as it is printed do not change either. -/
theorem rereadMembers_of_roundTrips {text : String} {volumes : List Volume} (roundTrips : RoundTrips text)
    (read : read? text = some volumes) : ∀ volume ∈ volumes, rereadMembers volume = volume := by
  have same := roundTrips.reread_eq (read?_iff.mp read)
  rw [Json.reread, Json.rereadItems_eq_map, List.map_map] at same
  have each := List.map_inj_left.mp (Json.array.inj same)
  exact fun volume member => Json.object.inj (each volume member)

/-- Nothing is missing once what was missing is there. -/
theorem missing_append_missing (current required : List Volume) :
    missing (current ++ missing current required) required = [] := by
  refine missing_eq_nil_iff.mpr fun volume member => ?_
  by_cases present : ∃ existing ∈ current, StandsFor existing volume
  · obtain ⟨existing, listed, stands⟩ := present
    exact ⟨existing, List.mem_append_left _ listed, stands⟩
  · have added : volume ∈ missing current required := by
      rw [missing_eq]
      exact List.mem_filter.mpr ⟨member, by simpa using present⟩
    exact ⟨volume, List.mem_append_right _ added, .refl volume⟩

theorem readAnnotation_ok_iff {key text : String} {volumes : List Volume} :
    readAnnotation key text = .ok volumes ↔ read? text = some volumes := by
  unfold readAnnotation
  cases read? text with
  | none => simp [invalid]
  | some found => simp

/-- The error about an annotation that is no list blames it. -/
theorem readAnnotation_error {key text : String} {e : Error} (failed : readAnnotation key text = .error e) :
    read? text = none ∧ ∃ message, e = .validation message (some key) := by
  unfold readAnnotation at failed
  cases read : read? text with
  | none =>
    rw [read] at failed
    exact ⟨rfl, _, (Except.error.inj failed).symm⟩
  | some found =>
    rw [read] at failed
    cases failed

/-- A merge succeeds if both texts are lists, and then it adds what is missing. -/
theorem merge_ok_iff {key current required merged : String} :
    merge key current required = .ok merged ↔ ∃ volumes wanted, read? current = some volumes ∧
      read? required = some wanted ∧
        merged = if (missing volumes wanted).isEmpty then current else write (volumes ++ missing volumes wanted) := by
  unfold merge
  constructor
  · intro success
    cases first : readAnnotation key current with
    | error e =>
      rw [first] at success
      cases success
    | ok volumes =>
      cases second : readAnnotation key required with
      | error e =>
        rw [first, second] at success
        cases success
      | ok wanted =>
        rw [first, second] at success
        exact ⟨volumes, wanted, readAnnotation_ok_iff.mp first, readAnnotation_ok_iff.mp second,
          (Except.ok.inj success).symm⟩
  · rintro ⟨volumes, wanted, first, second, rfl⟩
    have opened : readAnnotation key current = .ok volumes := readAnnotation_ok_iff.mpr first
    have asked : readAnnotation key required = .ok wanted := readAnnotation_ok_iff.mpr second
    rw [opened, asked]
    rfl

/-- A merge that fails does so for want of a list, and blames the annotation. -/
theorem merge_error {key current required : String} {e : Error} (failed : merge key current required = .error e) :
    (read? current = none ∨ read? required = none) ∧ ∃ message, e = .validation message (some key) := by
  unfold merge at failed
  cases first : readAnnotation key current with
  | error other =>
    rw [first] at failed
    obtain rfl : other = e := Except.error.inj failed
    exact (readAnnotation_error first).imp .inl id
  | ok volumes =>
    cases second : readAnnotation key required with
    | error other =>
      rw [first, second] at failed
      obtain rfl : other = e := Except.error.inj failed
      exact (readAnnotation_error second).imp .inr id
    | ok wanted =>
      rw [first, second] at failed
      cases failed

theorem merge_error_iff {key current required : String} :
    (∃ e, merge key current required = .error e) ↔ read? current = none ∨ read? required = none := by
  constructor
  · rintro ⟨e, failed⟩
    exact (merge_error failed).1
  · intro unreadable
    cases ended : merge key current required with
    | error e => exact ⟨e, rfl⟩
    | ok merged =>
      obtain ⟨volumes, wanted, first, second, -⟩ := merge_ok_iff.mp ended
      simp [first, second] at unreadable

/-- The volumes of a merge come from the two lists. -/
theorem origin_of_mem {current required : String} {volumes wanted : List Volume} (first : read? current = some volumes)
    (second : read? required = some wanted) :
    ∀ volume ∈ volumes ++ missing volumes wanted, ∃ text others, read? text = some others ∧ volume ∈ others := by
  intro volume member
  rcases List.mem_append.mp member with present | added
  · exact ⟨current, volumes, first, present⟩
  · exact ⟨required, wanted, second, (List.mem_filter.mp added).1⟩

/-- What was merged once has nothing to add any more. Only the required list has to be read as it is printed: a volume
that stands for a required one still does so with its numbers as they are read. -/
theorem merge_merge {key current required merged : String} (roundTrips : RoundTrips required)
    (success : merge key current required = .ok merged) : merge key merged required = .ok merged := by
  obtain ⟨volumes, wanted, first, second, rfl⟩ := merge_ok_iff.mp success
  by_cases complete : missing volumes wanted = []
  · rw [if_pos (List.isEmpty_iff.mpr complete)] at success ⊢
    exact success
  · rw [if_neg (mt List.isEmpty_iff.mp complete)]
    have written := read?_write (origin_of_mem first second)
    have nothing : missing ((volumes ++ missing volumes wanted).map rereadMembers) wanted = [] := by
      refine missing_eq_nil_iff.mpr fun volume member => ?_
      obtain ⟨existing, listed, stands⟩ :=
        missing_eq_nil_iff.mp (missing_append_missing volumes wanted) volume member
      have again := stands.reread
      rw [rereadMembers_of_roundTrips roundTrips second volume member] at again
      exact ⟨_, List.mem_map_of_mem listed, again⟩
    refine merge_ok_iff.mpr ⟨_, wanted, written, second, ?_⟩
    rw [nothing]
    rfl

/-- Merging never yields the empty text, which is no list. -/
theorem ne_empty_of_merge {key current required : String} (success : merge key current required = .ok current) :
    current ≠ "" := by
  rintro rfl
  obtain ⟨volumes, _, read, -⟩ := merge_ok_iff.mp success
  have unreadable : read? "" = none := by decide +kernel
  rw [unreadable] at read
  cases read

/-- A merge is the union of two lists by name. A list for which nothing is missing stays as it is written; otherwise the
current volumes are followed by those for which none of them stands. It fails exactly if a text is no list. -/
theorem merge_union {key current required : String} (roundTrips : ∀ text ∈ [current, required], RoundTrips text) :
    (∀ volumes wanted, read? current = some volumes → read? required = some wanted →
      ((∀ volume ∈ wanted, ∃ existing ∈ volumes, StandsFor existing volume) →
        merge key current required = .ok current) ∧
      ((∃ volume ∈ wanted, ∀ existing ∈ volumes, ¬ StandsFor existing volume) →
        ∃ merged, merge key current required = .ok merged ∧ read? merged =
          some (volumes ++ wanted.filter fun volume => ∀ existing ∈ volumes, ¬ StandsFor existing volume))) ∧
    ((∃ e, merge key current required = .error e) ↔ read? current = none ∨ read? required = none) ∧
    ∀ e, merge key current required = .error e → ∃ message, e = .validation message (some key) := by
  refine ⟨fun volumes wanted first second => ⟨fun complete => ?_, fun incomplete => ?_⟩, merge_error_iff,
    fun e failed => (merge_error failed).2⟩
  · refine merge_ok_iff.mpr ⟨volumes, wanted, first, second, ?_⟩
    rw [missing_eq_nil_iff.mpr complete]
    rfl
  · have lacking : ¬ (missing volumes wanted).isEmpty = true := by
      rw [List.isEmpty_iff, missing_eq_nil_iff]
      simpa using incomplete
    refine ⟨_, merge_ok_iff.mpr ⟨volumes, wanted, first, second, rfl⟩, ?_⟩
    have same : ∀ volume ∈ volumes ++ missing volumes wanted, rereadMembers volume = id volume := by
      intro volume member
      rcases List.mem_append.mp member with present | added
      · exact rereadMembers_of_roundTrips (roundTrips current (by simp)) first volume present
      · exact rereadMembers_of_roundTrips (roundTrips required (by simp)) second volume (List.mem_filter.mp added).1
    rw [if_neg lacking, read?_write (origin_of_mem first second), List.map_congr_left same, List.map_id, missing_eq]

/-- A list with a name, a volume without one, and a number that is a double. -/
def stocked : String := "[\x7b\"name\":\"data\",\"size\":1.5\x7d, \x7b\"readOnly\":true\x7d]"

/-- A list that asks for two names that `stocked` lacks, one of them a number, and for two volumes that it has. -/
def wished : String :=
  "[\x7b\"name\":\"cache\"\x7d,\x7b\"name\":\"data\"\x7d,\x7b\"mode\":420\x7d,\x7b\"name\":7\x7d]"

theorem merge_union_stocked : (∀ text ∈ [stocked, wished], RoundTrips text) ∧
    ∃ merged, merge "volumes" stocked wished = .ok merged ∧
      read? merged = read? ("[\x7b\"name\":\"data\",\"size\":1.5\x7d,\x7b\"readOnly\":true\x7d," ++
        "\x7b\"name\":\"cache\"\x7d,\x7b\"name\":7\x7d]") := by
  have roundTrips : ∀ text ∈ [stocked, wished], RoundTrips text := by decide +kernel
  obtain ⟨unites, -⟩ := @merge_union "volumes" stocked wished roundTrips
  obtain ⟨-, grows⟩ :=
    unites ((read? stocked).getD []) ((read? wished).getD []) (by decide +kernel) (by decide +kernel)
  obtain ⟨merged, success, read⟩ := grows (by decide +kernel)
  exact ⟨roundTrips, merged, success, read.trans (by decide +kernel)⟩

end FilterRollout.VolumeList
