import FilterRollout.Error
import FilterRollout.Release.Schema
import FilterRollout.SortedMap

/-! Which binary interfaces the releases of the control plane support, and the gate that a filter image has to
pass. -/

namespace FilterRollout

/-- The interface versions that each `major.minor` line of releases supports. -/
structure AbiSupport where
  lines : SortedMap (List String)
  deriving DecidableEq

namespace AbiSupport

/-- The lines that are known from the start. -/
def known : AbiSupport where
  lines := .ofList [
    ("1.5", ["v0-541b2c1155fffb15ccde92b8324f3e38f7339ba6"]),
    ("1.6", ["v0-097b7f2e4cc1fb490cc1943d0d633655ac3c522f", "v0-4689a30309abf31aee9ae36e73d34b1bb182685f"]),
    ("1.7", ["v0.2.1"]), ("1.8", ["v0.2.1"]), ("1.9", ["v0.2.1"])]

/-- Add a line, or replace what it supports. -/
def withLine (support : AbiSupport) (line : String) (abiVersions : List String) : AbiSupport :=
  ⟨support.lines.insert line abiVersions⟩

/-- The line of a version: its first two components, if neither is missing nor empty. -/
def line? (version : String) : Option String :=
  match ConfigSchema.components version with
  | major :: minor :: _ => if major = "" || minor = "" then none else some s!"{major}.{minor}"
  | _ => none

/-- Whether one of the interface versions is supported by the line of the control plane. -/
def validate (support : AbiSupport) (abiVersions : List String) (version : String) : Except Error Unit :=
  match line? version with
  | none => invalid "istioVersion" s!"cannot parse istio version {Text.quoted version}"
  | some line =>
    match support.lines.get? line with
    | none => .error (.validation s!"istio {line} is not a supported release line" none)
    | some supported =>
      if abiVersions.any supported.contains then .ok ()
      else .error (.validation (s!"abi versions [{Text.listed abiVersions}] not in supported set " ++
        s!"[{Text.listed supported}] for istio {line}") none)

end AbiSupport

/-- Whether an image passes. An ignored check and an image that names no interface versions pass; every other
failure becomes an incompatibility of the image with the version. -/
def abiGate (support : AbiSupport) (ignored : Bool) (image : String) (abiVersions : List String)
    (version : String) : Except Error Unit :=
  if ignored || abiVersions.isEmpty then .ok ()
  else (support.validate abiVersions version).mapError fun e => .compatibility image version e.message

end FilterRollout
