import FilterRollout.Proofs.Text.LetterCase
import FilterRollout.Proofs.Text.Pieces
import FilterRollout.Settings.Environment

/-! Settings from the environment. Five fields have a variable of their own, two of which are read by a grammar and may
be malformed. Main statement: `ofEnvironment_overlays`. -/

namespace FilterRollout

theorem Duration.ofSeconds_eq_iff {seconds : Nat} {d : Duration} (small : seconds < 2 ^ 64) :
    ofSeconds seconds = d ↔ d.nanoseconds = seconds * perSecond := by
  have counted : seconds % Word.count64 = seconds := Nat.mod_eq_of_lt small
  rw [ofSeconds, Duration.mk.injEq, counted, eq_comm]

namespace Environment

/-- The variable is set to the bytes of a text. -/
def Holds (environment : Environment) (name text : String) : Prop :=
  environment.bindings.lookup name = some text.toUTF8

/-- The variable holds a text that gives no value. -/
def Malformed {Value : Type} (environment : Environment) (name : String) (Gives : String → Value → Prop) : Prop :=
  ∃ text, environment.Holds name text ∧ ∀ value, ¬ Gives text value

/-- What a field has: the value that the text of its own variable gives, and its default if that holds no text. -/
inductive Overlaid {Value : Type} (environment : Environment) (name : String) (default : Value)
    (Gives : String → Value → Prop) : Value → Prop
  | given {text : String} {value : Value} (held : environment.Holds name text) (gives : Gives text value) :
    Overlaid environment name default Gives value
  | absent (unheld : ∀ text, ¬ environment.Holds name text) : Overlaid environment name default Gives default

theorem text?_eq_some_iff {environment : Environment} {name text : String} :
    environment.text? name = some text ↔ environment.Holds name text := by
  rw [text?, Holds, Option.bind_eq_some_iff]
  constructor
  · rintro ⟨bytes, set, read⟩
    unfold String.fromUTF8? at read
    split at read
    · rw [set, ← Option.some.inj read]
      rfl
    · cases read
  · intro set
    exact ⟨_, set, dif_pos text.isValidUTF8⟩

section

variable {Value : Type} {environment : Environment} {name : String} {Gives : String → Value → Prop}

theorem exists_overlaid_iff (default : Value) :
    (∃ value, environment.Overlaid name default Gives value) ↔ ¬ environment.Malformed name Gives := by
  constructor
  · rintro ⟨value, ⟨held, gives⟩ | unheld⟩ ⟨text, holds, strange⟩
    · cases Option.some.inj ((text?_eq_some_iff.mpr held).symm.trans (text?_eq_some_iff.mpr holds))
      exact strange value gives
    · exact unheld text holds
  · intro wellFormed
    by_cases held : ∃ text, environment.Holds name text
    · obtain ⟨text, holds⟩ := held
      by_contra none
      exact wellFormed ⟨text, holds, fun value gives => none ⟨value, .given holds gives⟩⟩
    · exact ⟨default, .absent (not_exists.mp held)⟩

end

end Environment

namespace Settings

/-- A text gives a timeout if without the blanks around it there are digits, possibly after a plus sign, and their value
is a number of seconds below 2⁶⁴. -/
inductive GivesTimeout (raw : String) (timeout : Duration) : Prop
  | intro {core digits : List Char} (trimmed : Text.TrimmedFrom raw.toList core)
      (signed : core = digits ∨ core = '+' :: digits) (some : digits ≠ [])
      (decimal : ∀ c ∈ digits, c.isDigit = true) (small : Text.decimalValue digits < 2 ^ 64)
      (lasts : timeout.nanoseconds = Text.decimalValue digits * Duration.perSecond)

/-- The words for yes and for no. -/
def switchWords : Bool → List String
  | true => ["1", "true", "yes"]
  | false => ["0", "false", "no", ""]

/-- A text gives a yes or a no if without the blanks around it there is a word for it, in any case of ASCII letters. -/
inductive GivesSwitch (raw : String) (value : Bool) : Prop
  | intro {core word : String} (trimmed : Text.TrimmedFrom raw.toList core.toList)
      (variant : Text.CaseVariant core word) (listed : word ∈ switchWords value)

/-- A reader takes the texts that give a value for it, and blames a variable for all others. -/
structure ReadsFor {Value : Type} (read : String → Except Error Value) (name : String)
    (Gives : String → Value → Prop) : Prop where
  accepts : ∀ {raw value}, read raw = .ok value ↔ Gives raw value
  refuses : ∀ {raw}, (∀ value, ¬ Gives raw value) → ∃ message, read raw = .error (.validation message (some name))

theorem givesTimeout_iff {raw : String} {timeout : Duration} : GivesTimeout raw timeout ↔
    ∃ seconds, Text.numeralBelow? Word.count64 (Text.trim raw) = some seconds ∧ .ofSeconds seconds = timeout := by
  constructor
  · rintro ⟨trimmed, signed, some, decimal, small, lasts⟩
    refine ⟨_, Text.numeralBelow?_eq_some_iff.mpr ⟨?_, small⟩, (Duration.ofSeconds_eq_iff small).mpr lasts⟩
    rw [Text.trim, String.toList_ofList, Text.trimmedFrom_iff.mp trimmed]
    exact Text.numeral?_eq_some_iff.mpr ⟨_, signed, some, decimal, rfl⟩
  · rintro ⟨seconds, read, lasts⟩
    obtain ⟨numeral, small⟩ := Text.numeralBelow?_eq_some_iff.mp read
    rw [Text.trim, String.toList_ofList] at numeral
    obtain ⟨digits, signed, some, decimal, rfl⟩ := Text.numeral?_eq_some_iff.mp numeral
    exact ⟨Text.trimmedFrom_trimChars _, signed, some, decimal, small, (Duration.ofSeconds_eq_iff small).mp lasts⟩

theorem readsFor_readSeconds : ReadsFor readSeconds cacheTimeoutVariable GivesTimeout where
  accepts := by
    intro raw timeout
    rw [givesTimeout_iff, readSeconds]
    cases Text.numeralBelow? Word.count64 (Text.trim raw) <;> simp [invalid]
  refuses := by
    intro raw strange
    rw [readSeconds]
    split
    · rename_i seconds read
      exact absurd (givesTimeout_iff.mpr ⟨seconds, read, rfl⟩) (strange _)
    · exact ⟨_, rfl⟩

theorem givesSwitch_iff {raw : String} {value : Bool} :
    GivesSwitch raw value ↔ Text.asciiLowercase (Text.trim raw) ∈ switchWords value := by
  have plain : ∀ word ∈ switchWords value, ∀ d ∈ word.toList, d.isUpper = false := by
    cases value <;> simp [switchWords, ← Bool.not_eq_true, Text.isUpper_iff]
  constructor
  · rintro ⟨trimmed, variant, listed⟩
    rw [Text.trim, Text.trimmedFrom_iff.mp trimmed, String.ofList_toList]
    rwa [(Text.asciiLowercase_eq_iff (plain _ listed)).mpr variant]
  · intro listed
    refine ⟨?_, (Text.asciiLowercase_eq_iff (plain _ listed)).mp rfl, listed⟩
    rw [Text.trim, String.toList_ofList]
    exact Text.trimmedFrom_trimChars _

theorem readSwitch_ok_iff {raw : String} {value : Bool} :
    readSwitch raw = .ok value ↔ Text.asciiLowercase (Text.trim raw) ∈ switchWords value := by
  rw [readSwitch]
  split <;> cases value <;> simp_all [switchWords, invalid]

theorem readsFor_readSwitch : ReadsFor readSwitch ignoreVersionCheckVariable GivesSwitch where
  accepts := readSwitch_ok_iff.trans givesSwitch_iff.symm
  refuses := by
    intro raw strange
    have unread (value : Bool) : readSwitch raw ≠ .ok value := fun read =>
      strange value (givesSwitch_iff.mpr (readSwitch_ok_iff.mp read))
    rw [readSwitch] at unread ⊢
    split at unread
    -- All branches but the last one give a value.
    case h_8 => exact ⟨_, rfl⟩
    all_goals exact absurd rfl (unread _)

section

variable {Value : Type} {environment : Environment} {name : String} {default : Value}
  {read : String → Except Error Value} {Gives : String → Value → Prop}

theorem overlay_ok_iff (reads : ReadsFor read name Gives) {value : Value} :
    overlay default read (environment.text? name) = .ok value ↔ environment.Overlaid name default Gives value := by
  constructor
  · intro overlaid
    cases held : environment.text? name with
    | none =>
      rw [held] at overlaid
      obtain rfl := Except.ok.inj overlaid
      refine .absent fun text holds => ?_
      rw [Environment.text?_eq_some_iff.mpr holds] at held
      cases held
    | some text =>
      rw [held] at overlaid
      exact .given (Environment.text?_eq_some_iff.mp held) (reads.accepts.mp overlaid)
  · rintro (⟨held, gives⟩ | unheld)
    · rw [Environment.text?_eq_some_iff.mpr held]
      exact reads.accepts.mpr gives
    · have none : environment.text? name = none :=
        Option.eq_none_iff_forall_ne_some.mpr fun text held => unheld text (Environment.text?_eq_some_iff.mp held)
      rw [none, overlay]

theorem overlay_of_malformed (default : Value) (reads : ReadsFor read name Gives)
    (malformed : environment.Malformed name Gives) :
    ∃ message, overlay default read (environment.text? name) = .error (.validation message (some name)) := by
  obtain ⟨text, held, strange⟩ := malformed
  rw [Environment.text?_eq_some_iff.mpr held]
  exact reads.refuses strange

/-- A text that is taken as it is. -/
theorem overlaid_eq_iff {default value : String} : environment.Overlaid name default Eq value ↔
    value = (environment.text? name).getD default := by
  have reads : ReadsFor .ok name Eq :=
    ⟨by simp, fun strange => absurd rfl (strange _)⟩
  rw [← overlay_ok_iff reads]
  cases environment.text? name <;> simp [overlay, eq_comm]

end

variable {environment : Environment} {settings : Settings}

/-- The settings of an environment: five fields go by variables of their own, and all others have their defaults. -/
structure Overlays (environment : Environment) (settings : Settings) : Prop where
  istioNamespace : environment.Overlaid istioNamespaceVariable default.istioNamespace Eq settings.istioNamespace
  cacheName : environment.Overlaid cacheNameVariable default.cache.name Eq settings.cache.name
  cacheNamespace :
    environment.Overlaid cacheNamespaceVariable default.cache.namespaceName Eq settings.cache.namespaceName
  cacheTimeout : environment.Overlaid cacheTimeoutVariable default.cacheTimeout GivesTimeout settings.cacheTimeout
  ignoreVersionCheck : environment.Overlaid ignoreVersionCheckVariable default.ignoreVersionCheck GivesSwitch
    settings.ignoreVersionCheck
  target : settings.target = default.target
  pollInterval : settings.pollInterval = default.pollInterval
  fieldManager : settings.fieldManager = default.fieldManager

theorem ofEnvironment_ok_iff : ofEnvironment environment = .ok settings ↔ Overlays environment settings := by
  constructor
  · intro loaded
    rw [ofEnvironment, ofVariables] at loaded
    cases timeout : overlay default.cacheTimeout readSeconds (environment.text? cacheTimeoutVariable) with
    | error failure =>
      rw [timeout] at loaded
      cases loaded
    | ok cacheTimeout =>
      cases switch : overlay default.ignoreVersionCheck readSwitch (environment.text? ignoreVersionCheckVariable) with
      | error failure =>
        rw [timeout, switch] at loaded
        cases loaded
      | ok ignoreVersionCheck =>
        rw [timeout, switch] at loaded
        obtain rfl := Except.ok.inj loaded
        exact {
          istioNamespace := overlaid_eq_iff.mpr rfl
          cacheName := overlaid_eq_iff.mpr rfl
          cacheNamespace := overlaid_eq_iff.mpr rfl
          cacheTimeout := (overlay_ok_iff readsFor_readSeconds).mp timeout
          ignoreVersionCheck := (overlay_ok_iff readsFor_readSwitch).mp switch
          target := rfl
          pollInterval := rfl
          fieldManager := rfl }
  · intro overlays
    have timeout := (overlay_ok_iff readsFor_readSeconds).mpr overlays.cacheTimeout
    have switch := (overlay_ok_iff readsFor_readSwitch).mpr overlays.ignoreVersionCheck
    rw [ofEnvironment, ofVariables, timeout, switch]
    refine congrArg Except.ok ?_
    dsimp only
    rw [← overlaid_eq_iff.mp overlays.istioNamespace, ← overlaid_eq_iff.mp overlays.cacheName,
      ← overlaid_eq_iff.mp overlays.cacheNamespace, ← overlays.target, ← overlays.pollInterval, ← overlays.fieldManager]

theorem exists_ok_iff : (∃ settings, ofEnvironment environment = .ok settings) ↔
    ¬ environment.Malformed cacheTimeoutVariable GivesTimeout ∧
      ¬ environment.Malformed ignoreVersionCheckVariable GivesSwitch := by
  rw [← Environment.exists_overlaid_iff default.cacheTimeout,
    ← Environment.exists_overlaid_iff default.ignoreVersionCheck]
  constructor
  · rintro ⟨settings, loaded⟩
    have overlays := ofEnvironment_ok_iff.mp loaded
    exact ⟨⟨_, overlays.cacheTimeout⟩, _, overlays.ignoreVersionCheck⟩
  · rintro ⟨⟨timeout, first⟩, switch, second⟩
    rw [ofEnvironment, ofVariables, (overlay_ok_iff readsFor_readSeconds).mpr first,
      (overlay_ok_iff readsFor_readSwitch).mpr second]
    exact ⟨_, rfl⟩

/-- The timeout is looked at first, whatever the switch. -/
theorem ofEnvironment_of_malformed_timeout (malformed : environment.Malformed cacheTimeoutVariable GivesTimeout) :
    ∃ message, ofEnvironment environment = .error (.validation message (some cacheTimeoutVariable)) := by
  obtain ⟨message, refused⟩ := overlay_of_malformed default.cacheTimeout readsFor_readSeconds malformed
  rw [ofEnvironment, ofVariables, refused]
  exact ⟨message, rfl⟩

theorem ofEnvironment_of_malformed_switch (wellFormed : ¬ environment.Malformed cacheTimeoutVariable GivesTimeout)
    (malformed : environment.Malformed ignoreVersionCheckVariable GivesSwitch) :
    ∃ message, ofEnvironment environment = .error (.validation message (some ignoreVersionCheckVariable)) := by
  obtain ⟨timeout, given⟩ := (Environment.exists_overlaid_iff default.cacheTimeout).mpr wellFormed
  obtain ⟨message, refused⟩ := overlay_of_malformed default.ignoreVersionCheck readsFor_readSwitch malformed
  rw [ofEnvironment, ofVariables, (overlay_ok_iff readsFor_readSeconds).mpr given, refused]
  exact ⟨message, rfl⟩

/-- An environment gives settings exactly if neither its timeout nor its switch is malformed. The settings then have in
five fields what the variables of these say, each in its own field, and the defaults in all others. Otherwise the
malformed variable is blamed, the timeout if both are malformed. -/
theorem ofEnvironment_overlays (environment : Environment) :
    ((∃ settings, ofEnvironment environment = .ok settings) ↔
        ¬ environment.Malformed cacheTimeoutVariable GivesTimeout ∧
          ¬ environment.Malformed ignoreVersionCheckVariable GivesSwitch) ∧
      (∀ settings, ofEnvironment environment = .ok settings ↔ Overlays environment settings) ∧
      (environment.Malformed cacheTimeoutVariable GivesTimeout →
        ∃ message, ofEnvironment environment = .error (.validation message (some cacheTimeoutVariable))) ∧
      (¬ environment.Malformed cacheTimeoutVariable GivesTimeout →
        environment.Malformed ignoreVersionCheckVariable GivesSwitch →
          ∃ message, ofEnvironment environment = .error (.validation message (some ignoreVersionCheckVariable))) :=
  ⟨exists_ok_iff, fun _ => ofEnvironment_ok_iff, ofEnvironment_of_malformed_timeout, ofEnvironment_of_malformed_switch⟩

/-- A timeout with blanks, a sign and zeros that it needs not have, and a switch that is neither yes nor no. If the
timeout is a sign alone, the same switch is not blamed. -/
theorem ofEnvironment_overlays_undecided :
    let environment : Environment :=
      ⟨[(ignoreVersionCheckVariable, "maybe".toUTF8), (cacheTimeoutVariable, "\t+007\u2003".toUTF8)]⟩
    let other : Environment :=
      ⟨[(ignoreVersionCheckVariable, "maybe".toUTF8), (cacheTimeoutVariable, "+".toUTF8)]⟩
    (GivesTimeout "\t+007\u2003" (.ofSeconds 7) ∧ environment.Malformed ignoreVersionCheckVariable GivesSwitch ∧
      ∃ message, ofEnvironment environment = .error (.validation message (some ignoreVersionCheckVariable))) ∧
      other.Malformed cacheTimeoutVariable GivesTimeout ∧
        ∃ message, ofEnvironment other = .error (.validation message (some cacheTimeoutVariable)) := by
  intro environment other
  have gives : GivesTimeout "\t+007\u2003" (.ofSeconds 7) :=
    givesTimeout_iff.mpr ⟨7, by decide +kernel, rfl⟩
  have wellFormed : ¬ environment.Malformed cacheTimeoutVariable GivesTimeout :=
    (Environment.exists_overlaid_iff default.cacheTimeout).mp ⟨_, .given rfl gives⟩
  have malformed : environment.Malformed ignoreVersionCheckVariable GivesSwitch := by
    refine ⟨"maybe", rfl, fun value gives => ?_⟩
    have listed := givesSwitch_iff.mp gives
    revert listed
    cases value <;> decide +kernel
  have signOnly : other.Malformed cacheTimeoutVariable GivesTimeout := by
    refine ⟨"+", rfl, fun timeout gives => ?_⟩
    obtain ⟨seconds, read, -⟩ := givesTimeout_iff.mp gives
    have unread : Text.numeralBelow? Word.count64 (Text.trim "+") = none := by decide +kernel
    rw [unread] at read
    cases read
  obtain ⟨-, -, -, switch⟩ := ofEnvironment_overlays environment
  obtain ⟨-, -, timeout, -⟩ := ofEnvironment_overlays other
  exact ⟨⟨gives, malformed, switch wellFormed malformed⟩, signOnly, timeout signOnly⟩

end Settings

end FilterRollout
