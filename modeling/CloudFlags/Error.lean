import CloudFlags.Api.Failure
import CloudFlags.Json.Parser

/-! Everything that can go wrong, as causes; `Error.message` is the one place that words them. -/

namespace CloudFlags

inductive Error where
  /-- A request to the API server failed. -/
  | api (failure : Api.Failure)
  /-- A stored text is not JSON. -/
  | malformed (fault : Json.Fault)
  | lookup (kind name reason : String)
  | featureGateLookup (cause : Error)
  | externalProviderState (cause : Error)
  | missingPlatformStatus
  | unknownFeatureSet (name : String)
  | invalidSyncDestination (location : String)
  | invalidKeyPath (path : String)
  /-- A value in a configuration tree is not what its path promises. -/
  | undecodable (path reason : String)
  | invalidSetting (reason : String)
  /-- A pass ended with these errors. -/
  | observation (errors : List Error)
  deriving Inhabited

namespace Error

mutual

def message : Error → String
  | .api failure => "Kubernetes API error: " ++ failure.message
  | .malformed fault => "Serialization error: " ++ fault.message
  | .lookup kind name reason => "Failed to look up " ++ kind ++ " " ++ name ++ ": " ++ reason
  | .featureGateLookup cause => "could not fetch featuregate: " ++ message cause
  | .externalProviderState cause =>
    "could not determine if cloud provider is external from featuregate: " ++ message cause
  | .missingPlatformStatus =>
    "platform status is not set in infrastructures.config.openshift.io/cluster"
  | .unknownFeatureSet name => "unknown feature set " ++ Text.quote name
  | .invalidSyncDestination location =>
    "Invalid config map sync destination " ++ Text.quote location
  | .invalidKeyPath path => "Invalid key path " ++ Text.quote path
  | .undecodable path reason => "Failed to decode observed config at " ++ path ++ ": " ++ reason
  | .invalidSetting reason => "Invalid configuration: " ++ reason
  | .observation errors =>
    "Observation failed with " ++ toString errors.length ++ " error(s): " ++
      String.intercalate "; " (messages errors)

def messages : List Error → List String
  | [] => []
  | error :: rest => message error :: messages rest

end

/-- The messages of the causes, outermost first. -/
def causes : Error → List String
  | .api failure => failure.message :: failure.causes
  | .featureGateLookup cause => message cause :: causes cause
  | .externalProviderState cause => message cause :: causes cause
  | _ => []

end Error

end CloudFlags
