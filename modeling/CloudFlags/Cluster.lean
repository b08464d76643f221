import CloudFlags.SyncRule
import CloudFlags.Resource.ConfigMap
import CloudFlags.Resource.FeatureGate

/-! What can be looked up in a cluster: its `Infrastructure`, its `FeatureGate` and its config maps.
Looking up ends with the object, with nothing, or with an error. -/

namespace CloudFlags

open Resource

inductive ResourceKind where
  | infrastructure
  | featureGate
  | configMap
  deriving DecidableEq, Repr

def ResourceKind.name : ResourceKind → String
  | .infrastructure => "Infrastructure"
  | .featureGate => "FeatureGate"
  | .configMap => "ConfigMap"

/-- The end of looking up an object. -/
abbrev Lookup (α : Type) := Except Error (Option α)

structure Cluster where
  infrastructure : Lookup Infrastructure
  featureGate : Lookup FeatureGate
  configMap : Location → Lookup ConfigMap

/-- The cluster in which nothing exists. -/
def Cluster.empty : Cluster := ⟨.ok none, .ok none, fun _ => .ok none⟩

end CloudFlags
