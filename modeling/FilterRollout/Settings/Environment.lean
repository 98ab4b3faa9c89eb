import FilterRollout.Settings.Basic
import FilterRollout.Text.Blank
import FilterRollout.Text.Numeral

/-! Settings from the environment: each variable that is set overlays one of the defaults. -/

namespace FilterRollout

/-- Environment variables, as the bytes that they hold. -/
structure Environment where
  bindings : List (String × ByteArray)

/-- The text of a variable. One whose bytes are no text counts as not set. -/
def Environment.text? (environment : Environment) (name : String) : Option String :=
  (environment.bindings.lookup name).bind String.fromUTF8?

namespace Settings

def istioNamespaceVariable : String := "WASM_MESH_ISTIO_NAMESPACE"
def cacheNameVariable : String := "WASM_MESH_CACHE_NAME"
def cacheNamespaceVariable : String := "WASM_MESH_CACHE_NAMESPACE"
def cacheTimeoutVariable : String := "WASM_MESH_CACHE_TIMEOUT_SECS"
def ignoreVersionCheckVariable : String := "WASM_MESH_IGNORE_VERSION_CHECK"

/-- Whole seconds with blanks around them. -/
def readSeconds (raw : String) : Except Error Duration :=
  match Text.numeralBelow? Word.count64 (Text.trim raw) with
  | some seconds => .ok (.ofSeconds seconds)
  | none => invalid cacheTimeoutVariable s!"expected whole seconds, got {Text.quoted raw}"

/-- A word for yes or no with blanks around it, in any case of ASCII letters. The empty text is a no. -/
def readSwitch (raw : String) : Except Error Bool :=
  match Text.asciiLowercase (Text.trim raw) with
  | "1" | "true" | "yes" => .ok true
  | "0" | "false" | "no" | "" => .ok false
  | _ => invalid ignoreVersionCheckVariable s!"expected a boolean, got {Text.quoted raw}"

/-- What a variable is read as, or the default if it is not set. -/
def overlay {Value : Type} (default : Value) (read : String → Except Error Value) (text : Option String) :
    Except Error Value :=
  match text with
  | some raw => read raw
  | none => .ok default

/-- The defaults overlaid with what `text?` finds for each variable. The timeout is looked at before the switch. -/
def ofVariables (text? : String → Option String) : Except Error Settings := do
  let cacheTimeout ← overlay default.cacheTimeout readSeconds (text? cacheTimeoutVariable)
  let ignoreVersionCheck ← overlay default.ignoreVersionCheck readSwitch (text? ignoreVersionCheckVariable)
  return { default with
    cacheTimeout
    ignoreVersionCheck
    istioNamespace := (text? istioNamespaceVariable).getD default.istioNamespace
    cache := {
      name := (text? cacheNameVariable).getD default.cache.name
      namespaceName := (text? cacheNamespaceVariable).getD default.cache.namespaceName } }

def ofEnvironment (environment : Environment) : Except Error Settings := ofVariables environment.text?

end Settings

end FilterRollout
