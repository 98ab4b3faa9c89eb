import FilterRollout.Proofs.Json.Forms
import FilterRollout.Settings.Codec

/-! Settings that are saved and read again. All is as it was but for the two durations, which are saved in whole seconds
and whole milliseconds: what is below the unit is dropped, so that a short duration is read again as zero, where zero has a
meaning of its own. Main statements: `Settings.reload?_eq` and `Settings.reload_keeps`. -/

namespace FilterRollout

open Json (Document Recovers ReadAs recovers_text recovers_bool recovers_textMap exists_shows Form Plain)

namespace Duration

theorem ext {d other : Duration} (same : d.nanoseconds = other.nanoseconds) : d = other := by
  cases d
  cases other
  cases same
  rfl

theorem ofSeconds_mod (count : Nat) : ofSeconds (count % Word.count64) = ofSeconds count :=
  ext (congrArg (· * perSecond) (Nat.mod_mod count Word.count64))

theorem ofMilliseconds_mod (count : Nat) : ofMilliseconds (count % Word.count64) = ofMilliseconds count :=
  ext (congrArg (· * perMillisecond) (Nat.mod_mod count Word.count64))

theorem nanoseconds_ofSeconds_seconds (d : Duration) :
    (ofSeconds d.seconds).nanoseconds = d.nanoseconds / perSecond * perSecond := by
  have bounded := d.bounded
  have counted : d.nanoseconds / perSecond < Word.count64 := Nat.div_lt_of_lt_mul (by rwa [Nat.mul_comm])
  exact congrArg (· * perSecond) (Nat.mod_eq_of_lt counted)

theorem nanoseconds_ofMilliseconds_milliseconds {d : Duration} (counted : d.milliseconds < Word.count64) :
    (ofMilliseconds d.milliseconds).nanoseconds = d.nanoseconds / perMillisecond * perMillisecond :=
  congrArg (· * perMillisecond) (Nat.mod_eq_of_lt counted)

theorem milliseconds_ofMilliseconds (count : Nat) : (ofMilliseconds count).milliseconds = count % Word.count64 :=
  Nat.mul_div_cancel _ (by decide)

theorem ofSeconds_seconds {d : Duration} (whole : perSecond ∣ d.nanoseconds) : ofSeconds d.seconds = d :=
  ext ((nanoseconds_ofSeconds_seconds d).trans (Nat.div_mul_cancel whole))

theorem ofMilliseconds_milliseconds {d : Duration} (counted : d.milliseconds < Word.count64)
    (whole : perMillisecond ∣ d.nanoseconds) : ofMilliseconds d.milliseconds = d :=
  ext ((nanoseconds_ofMilliseconds_milliseconds counted).trans (Nat.div_mul_cancel whole))

/-- Only a duration below the unit has none of it. -/
theorem div_mul_eq_zero_iff {nanoseconds unit : Nat} (positive : 0 < unit) :
    nanoseconds / unit * unit = 0 ↔ nanoseconds < unit := by
  rw [Nat.mul_eq_zero, or_iff_left (Nat.ne_of_gt positive), Nat.div_eq_zero_iff_lt positive]

theorem isZero_ofSeconds_seconds_iff (d : Duration) :
    (ofSeconds d.seconds).isZero = true ↔ d.nanoseconds < perSecond := by
  rw [isZero, beq_iff_eq, nanoseconds_ofSeconds_seconds, div_mul_eq_zero_iff (by decide)]

theorem isZero_ofMilliseconds_milliseconds_iff {d : Duration} (counted : d.milliseconds < Word.count64) :
    (ofMilliseconds d.milliseconds).isZero = true ↔ d.nanoseconds < perMillisecond := by
  rw [isZero, beq_iff_eq, nanoseconds_ofMilliseconds_milliseconds counted, div_mul_eq_zero_iff (by decide)]

end Duration

theorem WorkloadKind.recovers : Recovers toJson ofDocument? := by
  intro kind layout
  cases layout <;> cases kind <;> rfl

theorem CacheLocation.recovers : Recovers toJson ofDocument? := by
  intro cache layout
  obtain ⟨given, read, -, -, shows⟩ := exists_shows layout ["name", "namespace"] (rfl : cache.toJson = _) rfl (by simp)
  have name : Document.required? Document.text? given "name" = some cache.name :=
    (recovers_text _).required? shows rfl
  have namespaceName : Document.required? Document.text? given "namespace" = some cache.namespaceName :=
    (recovers_text _).required? shows rfl
  simp [ofDocument?, read, name, namespaceName]

theorem CacheLocation.plain_toJson {height : Nat} (cache : CacheLocation) : Plain (height + 1) cache.toJson :=
  .record (by simp)

theorem Target.recovers : Recovers toJson ofDocument? := by
  intro target layout
  obtain ⟨given, read, -, -, shows⟩ :=
    exists_shows layout ["kind", "namespace", "labels"] (rfl : target.toJson = _) rfl (by simp)
  have kind : Document.required? WorkloadKind.ofDocument? given "kind" = some target.kind :=
    (WorkloadKind.recovers _).required? shows rfl
  have namespaceName : Document.required? Document.text? given "namespace" = some target.namespaceName :=
    (recovers_text _).required? shows rfl
  have labels : Document.defaulted? .empty (Document.map? Document.text?) given "labels" = some target.labels :=
    (recovers_textMap _).defaulted? shows rfl (.inl rfl)
  simp [ofDocument?, read, kind, namespaceName, labels]

theorem Target.plain_toJson {height : Nat} (target : Target) : Plain (height + 2) target.toJson :=
  .record (by simp [WorkloadKind.toJson, Plain.textMap])

namespace Settings

/-- A count that is written is read modulo 2⁶⁴. -/
theorem wordCount?_natural (count : Nat) (layout : Json.Layout) :
    wordCount? (.ofJson ((Json.natural count).laidOut layout)) = some (count % Word.count64) := by
  have below : 0 ≤ ((count % Word.count64 : Nat) : Int) ∧ ((count % Word.count64 : Nat) : Int) < Word.count64 := by
    unfold Word.count64
    omega
  cases layout <;>
    simp only [Json.laidOut, Json.natural, Json.normalize, Document.ofJson, wordCount?, Document.naturalBelow?,
      Document.integerBetween?, if_pos below, Option.map_some, Int.toNat_natCast]

/-- A duration is read of a count, of which only what one word holds matters. -/
theorem readAs_count {ofCount : Nat → Duration} (inWord : ∀ count, ofCount (count % Word.count64) = ofCount count)
    (count : Nat) : ReadAs (fun d => (wordCount? d).map ofCount) (.natural count) (ofCount count) := by
  intro layout
  exact (congrArg (Option.map ofCount) (wordCount?_natural count layout)).trans (congrArg some (inWord count))

/-- What settings are once they are saved: the durations in whole units, as far as one word counts them. -/
def inUnits (s : Settings) : Settings :=
  { s with
    cacheTimeout := .ofSeconds s.cacheTimeout.seconds
    pollInterval := .ofMilliseconds s.pollInterval.milliseconds }

theorem readAs_inUnits (s : Settings) : ReadAs ofDocument? s.toJson s.inUnits := by
  intro layout
  obtain ⟨given, read, -, -, shows⟩ :=
    exists_shows layout ["workload", "cache", "istioNamespace", "ignoreVersionCheck", "cacheTimeout",
      "cachePollInterval", "fieldManager"] (rfl : s.toJson = _) rfl (by simp)
  have target : Document.defaulted? default.target Target.ofDocument? given "workload" = some s.target :=
    (Target.recovers _).defaulted? shows rfl (.inl rfl)
  have cache : Document.defaulted? default.cache CacheLocation.ofDocument? given "cache" = some s.cache :=
    (CacheLocation.recovers _).defaulted? shows rfl (.inl rfl)
  have istioNamespace : Document.defaulted? default.istioNamespace Document.text? given "istioNamespace" =
      some s.istioNamespace := (recovers_text _).defaulted? shows rfl (.inl rfl)
  have ignoreVersionCheck : Document.defaulted? default.ignoreVersionCheck Document.bool? given "ignoreVersionCheck" =
      some s.ignoreVersionCheck := (recovers_bool _).defaulted? shows rfl (.inl rfl)
  have cacheTimeout : Document.defaulted? default.cacheTimeout (fun d => (wordCount? d).map .ofSeconds) given
      "cacheTimeout" = some (.ofSeconds s.cacheTimeout.seconds) :=
    (readAs_count Duration.ofSeconds_mod _).defaulted? shows rfl (.inl rfl)
  have pollInterval : Document.defaulted? default.pollInterval (fun d => (wordCount? d).map .ofMilliseconds) given
      "cachePollInterval" = some (.ofMilliseconds s.pollInterval.milliseconds) :=
    (readAs_count Duration.ofMilliseconds_mod _).defaulted? shows rfl (.inl rfl)
  have fieldManager : Document.defaulted? default.fieldManager Document.text? given "fieldManager" =
      some s.fieldManager := (recovers_text _).defaulted? shows rfl (.inl rfl)
  simp [ofDocument?, read, target, cache, istioNamespace, ignoreVersionCheck, cacheTimeout, pollInterval, fieldManager,
    inUnits]

theorem plain_toJson (s : Settings) : Plain Document.maxDepth s.toJson := by
  have target : Plain 126 s.target.toJson := s.target.plain_toJson
  have cache : Plain 126 s.cache.toJson := s.cache.plain_toJson
  exact .record (by simp [target, cache])

/-- Settings that are saved, in whatever form, are read again in whole units. -/
theorem reload?_eq (s : Settings) (form : Form) : form.reload? toJson ofDocument? s = some s.inUnits :=
  Form.reload?_eq s.plain_toJson s.readAs_inUnits form

theorem validate_eq_ok_iff (s : Settings) :
    s.validate = .ok () ↔ s.target.namespaceName ≠ "" ∧ (s.cache.name ≠ "" ∧ s.cache.namespaceName ≠ "") ∧
      s.pollInterval.isZero = false := by
  unfold validate
  split
  · simp_all [invalid]
  · split
    · simp_all [invalid]
      tauto
    · split
      · simp_all [invalid]
      · simp_all

/-- Only the poll interval can make settings unusable by being saved. -/
theorem validate_inUnits_iff {s : Settings} (valid : s.validate = .ok ()) :
    s.inUnits.validate = .ok () ↔ s.inUnits.pollInterval.isZero = false := by
  obtain ⟨target, cache, -⟩ := s.validate_eq_ok_iff.mp valid
  rw [validate_eq_ok_iff]
  exact ⟨fun accepted => accepted.2.2, fun nonzero => ⟨target, cache, nonzero⟩⟩

theorem inUnits_eq_self {s : Settings} (counted : s.pollInterval.milliseconds < Word.count64)
    (seconds : Duration.perSecond ∣ s.cacheTimeout.nanoseconds)
    (milliseconds : Duration.perMillisecond ∣ s.pollInterval.nanoseconds) : s.inUnits = s := by
  rw [inUnits, Duration.ofSeconds_seconds seconds, Duration.ofMilliseconds_milliseconds counted milliseconds]

/-- Settings that are saved, in whatever form, are read again. The timeout is then zero exactly if it is shorter than a
second. A poll interval that one word counts in milliseconds makes usable settings unusable only if it is shorter than a
millisecond, and with durations in whole units the settings are as they were. -/
theorem reload_keeps (s : Settings) (form : Form) :
    ∃ again, form.reload? toJson ofDocument? s = some again ∧
      (again.cacheTimeout.isZero = true ↔ s.cacheTimeout.nanoseconds < Duration.perSecond) ∧
      (s.pollInterval.milliseconds < Word.count64 →
        (s.validate = .ok () →
          (again.validate = .ok () ↔ Duration.perMillisecond ≤ s.pollInterval.nanoseconds)) ∧
        (Duration.perSecond ∣ s.cacheTimeout.nanoseconds → Duration.perMillisecond ∣ s.pollInterval.nanoseconds →
          again = s)) := by
  refine ⟨s.inUnits, s.reload?_eq form, s.cacheTimeout.isZero_ofSeconds_seconds_iff, fun counted => ?_⟩
  refine ⟨fun valid => ?_, ?_⟩
  · have zero := Duration.isZero_ofMilliseconds_milliseconds_iff counted
    rw [validate_inUnits_iff valid, ← Nat.not_lt, ← zero, Bool.not_eq_true]
    rfl
  · exact inUnits_eq_self counted

/-- Usable settings with durations in whole units. -/
def prompt : Settings := { default with cacheTimeout := .ofSeconds 90, pollInterval := .ofMilliseconds 250 }

theorem reload_keeps_prompt :
    prompt.pollInterval.milliseconds < Word.count64 ∧ prompt.validate = .ok () ∧
      Duration.perMillisecond ≤ prompt.pollInterval.nanoseconds ∧
      Duration.perSecond ∣ prompt.cacheTimeout.nanoseconds ∧
      Duration.perMillisecond ∣ prompt.pollInterval.nanoseconds ∧
      (Form.text .asPut).reload? toJson ofDocument? prompt = some prompt := by
  have counted : prompt.pollInterval.milliseconds < Word.count64 := by decide
  have valid : prompt.validate = .ok () := rfl
  have seconds : Duration.perSecond ∣ prompt.cacheTimeout.nanoseconds := by decide
  have milliseconds : Duration.perMillisecond ∣ prompt.pollInterval.nanoseconds := by decide
  obtain ⟨again, read, -, kept⟩ := prompt.reload_keeps (.text .asPut)
  obtain ⟨accepted, same⟩ := kept counted
  refine ⟨counted, valid, ?_, seconds, milliseconds, ?_⟩
  · rw [← accepted valid, same seconds milliseconds]
    exact valid
  · rw [read, same seconds milliseconds]

/-- Usable settings with durations below their units: half a second, and half a millisecond. -/
def brief : Settings := { default with cacheTimeout := .ofParts 0 500000000, pollInterval := .ofParts 0 500000 }

/-- Usable settings with a poll interval of as many whole milliseconds as one word has values. -/
def patient : Settings := { default with pollInterval := .ofParts 18446744073709551 616000000 }

/-- Short durations are read again as zero, and so is one that no word counts. -/
theorem reload_zeroes :
    let reload (s : Settings) := (Form.text .asPut).reload? toJson ofDocument? s
    let refusal : Except Error Unit := invalid "cachePollInterval" "poll interval must be greater than zero"
    (brief.validate = .ok () ∧ brief.cacheTimeout.isZero = false ∧
        (reload brief).map validate = some refusal ∧
        (reload brief).map (·.cacheTimeout.isZero) = some true) ∧
      patient.validate = .ok () ∧ Duration.perSecond ∣ patient.cacheTimeout.nanoseconds ∧
        Duration.perMillisecond ∣ patient.pollInterval.nanoseconds ∧ (reload patient).map validate = some refusal ∧
        reload patient ≠ some patient := by
  intro reload refusal
  have short : reload brief = some brief.inUnits := brief.reload?_eq (.text .asPut)
  have long : reload patient = some patient.inUnits := patient.reload?_eq (.text .asPut)
  rw [short, long]
  exact ⟨⟨rfl, rfl, rfl, rfl⟩, rfl, by decide, by decide, rfl, by decide⟩

end Settings

end FilterRollout
