import CloudFlags.Error
import CloudFlags.Event
import CloudFlags.Platform
import CloudFlags.Resource.Infrastructure

/-! The events that an observation can record. -/

namespace CloudFlags.Observation

/-- Name of the object that the events are about, as their messages write it. -/
def infrastructureName : String := "infrastructures." ++ Resource.configGroup ++ "/cluster"

def observeReason : String := "ObserveCloudProviderNames"

def changeReason : String := "ObserveCloudProviderNamesChanges"

def platformReason : String := "ObserveCloudProvidersFailed"

def missingInfrastructure : Event :=
  ⟨.warning, observeReason, "Required " ++ infrastructureName ++ " not found"⟩

def undecidedProvider (e : Error) : Event :=
  ⟨.warning, observeReason, "Could not determine external cloud provider state: " ++ e.message⟩

/-- The warning that a platform gives rise to, if it says nothing of a provider. -/
def platformWarning? : Platform → Option Event
  | .unset =>
    some ⟨.warning, platformReason,
      "Required status.platform field is not set in " ++ infrastructureName⟩
  | .unrecognized _ =>
    some ⟨.warning, platformReason,
      "No recognized cloud provider platform found in " ++ infrastructureName ++
        ".status.platform"⟩
  | _ => none

def fileChanged (file : String) : Event :=
  ⟨.normal, changeReason, "CloudProvider config file changed to " ++ file⟩

end CloudFlags.Observation
