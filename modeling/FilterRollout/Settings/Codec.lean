import FilterRollout.Settings.Basic

/-! The JSON form of settings. Every field has a default; durations are whole seconds or milliseconds. -/

namespace FilterRollout

open Json (Document)

namespace Target

def toJson (t : Target) : Json :=
  Json.record [("kind", some t.kind.toJson), ("namespace", some (.string t.namespaceName)),
    ("labels", some (Json.textMap t.labels))]

def ofDocument? (document : Document) : Option Target := do
  let given ← document.strict? ["kind", "namespace", "labels"]
  return {
    kind := ← Document.required? WorkloadKind.ofDocument? given "kind"
    namespaceName := ← Document.required? Document.text? given "namespace"
    labels := ← Document.defaulted? .empty (Document.map? Document.text?) given "labels" }

end Target

namespace Settings

/-- A count of one machine word. -/
def wordCount? : Document → Option Nat := Document.naturalBelow? Word.count64

/-- Durations lose what is below their unit, and milliseconds are counted modulo 2⁶⁴. -/
def toJson (s : Settings) : Json :=
  Json.record [
    ("workload", some s.target.toJson), ("cache", some s.cache.toJson),
    ("istioNamespace", some (.string s.istioNamespace)), ("ignoreVersionCheck", some (.bool s.ignoreVersionCheck)),
    ("cacheTimeout", some (.natural s.cacheTimeout.seconds)),
    ("cachePollInterval", some (.natural s.pollInterval.milliseconds)),
    ("fieldManager", some (.string s.fieldManager))]

def ofDocument? (document : Document) : Option Settings := do
  let given ← document.strict? ["workload", "cache", "istioNamespace", "ignoreVersionCheck", "cacheTimeout",
    "cachePollInterval", "fieldManager"]
  return {
    target := ← Document.defaulted? default.target Target.ofDocument? given "workload"
    cache := ← Document.defaulted? default.cache CacheLocation.ofDocument? given "cache"
    istioNamespace := ← Document.defaulted? default.istioNamespace Document.text? given "istioNamespace"
    ignoreVersionCheck := ← Document.defaulted? default.ignoreVersionCheck Document.bool? given "ignoreVersionCheck"
    cacheTimeout := ← Document.defaulted? default.cacheTimeout (fun d => (wordCount? d).map .ofSeconds) given
      "cacheTimeout"
    pollInterval := ← Document.defaulted? default.pollInterval (fun d => (wordCount? d).map .ofMilliseconds) given
      "cachePollInterval"
    fieldManager := ← Document.defaulted? default.fieldManager Document.text? given "fieldManager" }

end Settings

end FilterRollout
