import FilterRollout.Settings.Environment

/-! How a program that embeds the rollout sets up its log. -/

namespace FilterRollout

structure LogSettings where
  /-- One JSON object per event instead of a line of text. -/
  json : Bool
  /-- What is logged unless the environment says otherwise. -/
  filter : String
  deriving DecidableEq

namespace LogSettings

def formatVariable : String := "WASM_MESH_LOG_FORMAT"

def defaultFilter : String := "info,wasm_mesh=debug,kube=info,tower=warn,hyper=warn"

/-- Logs are JSON if the environment asks for it, in any case of ASCII letters. -/
def ofEnvironment (environment : Environment) : LogSettings where
  json := (environment.text? formatVariable).any fun format => Text.asciiLowercase format = "json"
  filter := defaultFilter

end LogSettings

/-- The log of a process, which can be set up once. -/
inductive LogState
  | unset
  | installed (settings : LogSettings)
  deriving DecidableEq

/-- Set up the log, and say whether it worked. An earlier set-up stays in place. -/
def LogState.install : LogState → LogSettings → Bool × LogState
  | unset, settings => (true, installed settings)
  | installed earlier, _ => (false, installed earlier)

end FilterRollout
