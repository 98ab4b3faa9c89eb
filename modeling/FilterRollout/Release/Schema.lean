import FilterRollout.Text.Blank
import FilterRollout.Text.Numeral
import FilterRollout.Text.Split
import FilterRollout.Word

/-! The two shapes in which control planes of different releases take the configuration of a filter. -/

namespace FilterRollout

inductive ConfigSchema
  /-- An untyped structure, before release 1.7. -/
  | legacy
  /-- A typed structure, from release 1.7 on. -/
  | typed
  deriving DecidableEq

namespace ConfigSchema

def token : ConfigSchema → String
  | legacy => "legacy"
  | typed => "typed"

/-- The components of a version: what stands between its points, after blanks around it and leading `v`s. -/
def components (version : String) : List String :=
  (Text.splitChars '.' ((Text.trimChars version.toList).dropWhile (· == 'v'))).map String.ofList

/-- The first minor release that takes typed configuration. -/
def typedMinor : Nat := 7

/-- The generation for a control plane version, by its minor component. A version without a minor number below 2³²
is taken for a recent one. -/
def ofVersion (version : String) : ConfigSchema :=
  match (components version)[1]?.bind (Text.numeralBelow? Word.count32) with
  | some minor => if minor < typedMinor then legacy else typed
  | none => typed

example : ofVersion " v1.6.14-asm" = legacy ∧ ofVersion "1.7" = typed := by decide +kernel

end ConfigSchema

end FilterRollout
