import CloudFlags.Error
import CloudFlags.Resource.FeatureGate

/-! Whether the cluster runs a cloud provider from outside the core components. Two platforms have
no other; on the five with a built-in provider it is a feature, off unless the feature gate asks for
it; everywhere else it is not an option. A cluster without a feature gate stays with what is built
in. -/

namespace CloudFlags.OutOfTree

open Resource

/-- The feature that asks for an external provider. -/
def feature : String := "ExternalCloudProvider"

/-- A feature is switched on by a selection: never in the plain sets, in the preview set only this
one, and in the custom set if it is enabled and not disabled as well. -/
def isEnabled (selection : FeatureSelection) (name : String) : Except Error Bool :=
  match selection.featureSet with
  | "" => .ok false
  | "Default" => .ok false
  | "LatencySensitive" => .ok false
  | "TechPreviewNoUpgrade" => .ok (name == feature)
  | "CustomNoUpgrade" =>
    match selection.custom with
    | some custom => .ok (custom.enabled.contains name && !custom.disabled.contains name)
    | none => .ok false
  | other => .error (.unknownFeatureSet other)

/-- The decision under a feature gate. -/
def isExternalUnder (gate : FeatureGate) (status : Option Platform) : Except Error Bool :=
  match status with
  | none => .error .missingPlatformStatus
  | some platform =>
    match platform with
    | .alibabaCloud => .ok true
    | .ibmCloud => .ok true
    | .aws => isEnabled gate.selection feature
    | .azure => isEnabled gate.selection feature
    | .gcp => isEnabled gate.selection feature
    | .openStack => isEnabled gate.selection feature
    | .vSphere => isEnabled gate.selection feature
    | _ => .ok false

/-- The decision after the gate has been looked up. -/
def isExternal (gate : Except Error (Option FeatureGate)) (status : Option Platform) :
    Except Error Bool :=
  match gate with
  | .error e => .error (.featureGateLookup e)
  | .ok none => .ok false
  | .ok (some gate) => (isExternalUnder gate status).mapError .externalProviderState

end CloudFlags.OutOfTree
