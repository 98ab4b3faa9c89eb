import FilterRollout.Text.Lowercase
import FilterRollout.Text.Split

/-! How the Kubernetes API addresses a kind of objects: by group, version and the plural of the kind. -/

namespace FilterRollout

structure ApiResource where
  group : String
  version : String
  kind : String
  apiVersion : String
  plural : String
  deriving DecidableEq

namespace ApiResource

/-- Group and version of an API version. Without a slash it is a version of the core group, which has no name. -/
def groupVersion (apiVersion : String) : String × String :=
  (Text.cut? '/' apiVersion).getD ("", apiVersion)

/-- Whether a word has this ending. -/
def endsWith (ending word : String) : Bool := ending.toList.isSuffixOf word.toList

/-- The lower-case plural of a kind: `es` after a hissing sound, `ies` for a final `y` except after `a` and `e`,
otherwise `s`. -/
def pluralOf (kind : String) : String :=
  let lower := Text.lowercase kind
  if endsWith "s" lower || endsWith "ch" lower || endsWith "sh" lower then lower ++ "es"
  else if endsWith "y" lower && !endsWith "ay" lower && !endsWith "ey" lower then
    String.ofList lower.toList.dropLast ++ "ies"
  else lower ++ "s"

def ofKind (apiVersion kind : String) : ApiResource :=
  let (group, version) := groupVersion apiVersion
  { group, version, kind, apiVersion, plural := pluralOf kind }

example : pluralOf "EnvoyFilter" = "envoyfilters" ∧ pluralOf "NetworkPolicy" = "networkpolicies" := by decide +kernel

example : pluralOf "Ingress" = "ingresses" ∧ pluralOf "Gateway" = "gateways" := by decide +kernel

end ApiResource

end FilterRollout
