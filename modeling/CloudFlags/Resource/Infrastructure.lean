import CloudFlags.Json.Shape.Record
import CloudFlags.Platform
import CloudFlags.Resource.Metadata

/-! The cluster's `Infrastructure`: where its cloud configuration stands and which platform it runs
on, said twice, in the older `status.platform` and in `status.platformStatus`. -/

namespace CloudFlags.Resource

open Json

/-- API group of the cluster's configuration resources. -/
def configGroup : String := "config.openshift.io"

/-- The version under which they are written. -/
def configVersion : String := configGroup ++ "/v1"

/-- Name of the one `Infrastructure` and of the one `FeatureGate`. -/
def clusterName : String := "cluster"

/-- A key in a config map of the configuration namespace. -/
structure FileReference where
  name : String
  key : String
  deriving DecidableEq, Repr

def FileReference.none : FileReference := ⟨"", ""⟩

def FileReference.record : Record FileReference where
  name := "ConfigMapFileReference"
  default := .none
  slots :=
    [.field .defaulted "name" Shape.string fun s r => { r with name := s },
      .field .defaulted "key" Shape.string fun s r => { r with key := s }]

def FileReference.toJson (r : FileReference) : Json :=
  ofFields [("name", some (.str r.name)), ("key", some (.str r.key))]

def platformShape : Shape Platform := Shape.string.map Platform.ofName

/-- The platform in a `platformStatus`. -/
def platformStatusRecord : Record Platform where
  name := "PlatformStatus"
  default := .unset
  slots := [.field .defaulted "type" platformShape fun p _ => p]

structure InfrastructureStatus where
  platform : Platform
  platformStatus : Option Platform
  deriving DecidableEq, Repr

def InfrastructureStatus.record : Record InfrastructureStatus where
  name := "InfrastructureStatus"
  default := ⟨.unset, none⟩
  slots :=
    [.field .defaulted "platform" platformShape fun p s => { s with platform := p },
      .field .optional "platformStatus" platformStatusRecord.shape.optional
        fun p s => { s with platformStatus := p }]

def InfrastructureStatus.toJson (s : InfrastructureStatus) : Json :=
  let platformStatus := match s.platformStatus with
    | some platform => ofFields [("type", some (.str platform.name))]
    | none => .null
  ofFields [("platform", some (.str s.platform.name)), ("platformStatus", some platformStatus)]

/-- The reference to the cloud configuration in a `spec`. -/
def infrastructureSpecRecord : Record FileReference where
  name := "InfrastructureSpec"
  default := .none
  slots := [.field .defaulted "cloudConfig" FileReference.record.shape fun r _ => r]

structure Infrastructure where
  metadata : Metadata
  cloudConfig : FileReference
  status : Option InfrastructureStatus
  deriving DecidableEq

namespace Infrastructure

def record : Record Infrastructure where
  name := "Infrastructure"
  default := ⟨{}, .none, none⟩
  slots :=
    [.field .required "metadata" Metadata.shape fun m i => { i with metadata := m },
      .field .required "spec" infrastructureSpecRecord.shape fun r i => { i with cloudConfig := r },
      .field .optional "status" InfrastructureStatus.record.shape.optional
        fun s i => { i with status := s }]

def ofJson : Reader Infrastructure := record.shape.ofTree

def toJson (i : Infrastructure) : Json :=
  ofFields
    [("apiVersion", some (.str configVersion)),
      ("kind", some (.str "Infrastructure")),
      ("metadata", some i.metadata.toJson),
      ("spec", some (ofFields [("cloudConfig", some i.cloudConfig.toJson)])),
      ("status", i.status.map InfrastructureStatus.toJson)]

/-- The platform of the older field. -/
def platform (i : Infrastructure) : Platform := (i.status.map (·.platform)).getD .unset

def platformStatus (i : Infrastructure) : Option Platform := i.status.bind (·.platformStatus)

end Infrastructure

end CloudFlags.Resource
