import FilterRollout.Duration
import FilterRollout.Text.Quoted

/-! What can go wrong. An error says what failed; each stage that passes it on wraps it with a description of itself,
and the classification for callers looks through these wrappers. -/

namespace FilterRollout

/-- What the Kubernetes API answers to a request that it refuses. -/
structure ApiStatus where
  status : String
  message : String
  reason : String
  code : Nat
  deriving DecidableEq

/-- Why a request to the Kubernetes API brought no usable answer. -/
inductive ApiError
  | refused (status : ApiStatus)
  | unreadableAnswer
  | unsendableRequest
  deriving DecidableEq

inductive Error
  | kubernetes (source : ApiError)
  | collaborator (name message : String)
  | notFound (kind namespaceName name : String)
  | validation (message : String) (field : Option String)
  | compatibility (image version message : String)
  | syncTimeout (image : String) (timeout : Duration) (lastMismatch : String)
  | serialization (message : String) (kind : Option String)
  | context (stage : String) (source : Error)
  deriving DecidableEq

/-- The families of failures that callers tell apart. -/
inductive ErrorCategory
  | validation
  | compatibility
  | syncTimeout
  | collaborator
  deriving DecidableEq

def ApiStatus.text (s : ApiStatus) : String :=
  s!"ErrorResponse \x7b status: {Text.quoted s.status}, message: {Text.quoted s.message}, " ++
    s!"reason: {Text.quoted s.reason}, code: {s.code} \x7d"

def ApiError.message : ApiError → String
  | refused s => s!"ApiError: {s.message}: {s.reason} ({s.text})"
  | unreadableAnswer => "the answer cannot be read"
  | unsendableRequest => "the request cannot be sent"

namespace Error

/-- The whole text, stages outermost first. -/
def message : Error → String
  | kubernetes source => "kubernetes error: " ++ source.message
  | collaborator name text => s!"upstream error [{name}]: {text}"
  | notFound kind namespaceName name => s!"{kind} {namespaceName}/{name} not found"
  | validation text _ => "validation error: " ++ text
  | compatibility image version text => s!"image {image} not supported by istio version {version}: {text}"
  | syncTimeout image timeout lastMismatch =>
    s!"timed out after {timeout.text} waiting for cache events for {image} (last err: {lastMismatch})"
  | serialization text _ => "serialization error: " ++ text
  | context stage source => stage ++ ": " ++ source.message

/-- The innermost error, without the stages around it. -/
def root : Error → Error
  | context _ source => source.root
  | other => other

theorem root_ne_context (e : Error) (stage : String) (source : Error) : e.root ≠ context stage source := by
  induction e with
  | context _ _ ih => exact ih
  | _ => exact nofun

/-- The family of an error that is inside no stage. -/
def ownCategory? : Error → Option ErrorCategory
  | validation .. | serialization .. => some .validation
  | compatibility .. => some .compatibility
  | syncTimeout .. => some .syncTimeout
  | kubernetes _ | collaborator .. | notFound .. => some .collaborator
  | context .. => none

/-- The innermost error is inside no stage. -/
theorem isSome_ownCategory?_root (e : Error) : e.root.ownCategory?.isSome = true := by
  cases shape : e.root with
  | context stage source => exact absurd shape (e.root_ne_context stage source)
  | _ => rfl

/-- The family of the innermost error. -/
def category (e : Error) : ErrorCategory := e.root.ownCategory?.get e.isSome_ownCategory?_root

/-- Whether the error says that something was missing. -/
def isNotFound (e : Error) : Bool :=
  match e.root with
  | notFound .. => true
  | kubernetes (.refused status) => status.code == 404
  | _ => false

/-- Whether the same call may succeed later. Among the API's refusals, conflicts and all that do not blame the
client are worth another try. -/
def isRetryable (e : Error) : Bool :=
  match e.root with
  | kubernetes (.refused status) => !(400 ≤ status.code && status.code < 500 && status.code != 409)
  | kubernetes _ => true
  | collaborator .. => true
  | syncTimeout .. => true
  | notFound .. | validation .. | compatibility .. | serialization .. | context .. => false

/-- The field that the innermost error blames, if it names one. -/
def field? (e : Error) : Option String :=
  match e.root with
  | validation _ field => field
  | _ => none

end Error

/-- Name the stage in which a computation failed. -/
def inStage {Value : Type} (stage : String) (result : Except Error Value) : Except Error Value :=
  result.mapError (Error.context stage)

/-- Refuse a request because of the given field. -/
def invalid {Value : Type} (field message : String) : Except Error Value :=
  .error (.validation message (some field))

end FilterRollout
