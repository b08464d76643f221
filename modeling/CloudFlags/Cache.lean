import CloudFlags.Cluster
import CloudFlags.Observation.ConfigSource

/-! A local copy of the objects that observations look up, kept up to date by the changes that a
watch reports. There is one shelf for each cluster-wide kind and one for the config maps of each
namespace that is watched; looking for a config map anywhere else is an error. -/

namespace CloudFlags

open Resource

namespace Cache

/-- Name and namespace of an object; one without a name goes under the empty name. -/
abbrev Key := String × Option String

def keyOf (metadata : Metadata) : Key := (metadata.name.getD "", metadata.space)

/-- What a watch reports. A full listing begins, brings objects, and ends. -/
inductive Change (α : Type) where
  | applied (object : α)
  | deleted (object : α)
  | listing
  | listed (object : α)
  | listingDone

/-- The objects of one kind, and those of a listing that has not ended. -/
structure Shelf (α : Type) where
  held : List (Key × α) := []
  incoming : List (Key × α) := []

namespace Shelf

variable {α : Type}

def put (key : Key) (object : α) (entries : List (Key × α)) : List (Key × α) :=
  (key, object) :: Entries.erase key entries

/-- The shelf after a change; the key of an object is given by its metadata. -/
def update (metadata : α → Metadata) (shelf : Shelf α) : Change α → Shelf α
  | .applied object => { shelf with held := put (keyOf (metadata object)) object shelf.held }
  | .deleted object =>
    { shelf with held := Entries.erase (keyOf (metadata object)) shelf.held }
  | .listing => { shelf with incoming := [] }
  | .listed object =>
    { shelf with incoming := put (keyOf (metadata object)) object shelf.incoming }
  | .listingDone => ⟨shelf.incoming, []⟩

/-- The object with a name in a namespace, or else the one with this name and no namespace. -/
def find? (shelf : Shelf α) (name : String) (space : Option String) : Option α :=
  (Entries.find? (name, space) shelf.held).or (Entries.find? (name, none) shelf.held)

end Shelf

end Cache

structure Cache where
  infrastructures : Cache.Shelf Infrastructure
  featureGates : Cache.Shelf FeatureGate
  /-- The config maps of each namespace that is watched. -/
  configMaps : Table String (Cache.Shelf ConfigMap)

namespace Cache

/-- Nothing is held of the namespaces that are watched. -/
def watching (spaces : List String) : Cache :=
  ⟨{}, {}, Table.ofList (spaces.map (·, {}))⟩

/-- The namespaces that observations need. -/
def standard : Cache := watching ConfigSource.spaces

def infrastructure (cache : Cache) (name : String) : Lookup Infrastructure :=
  .ok (cache.infrastructures.find? name none)

def featureGate (cache : Cache) (name : String) : Lookup FeatureGate :=
  .ok (cache.featureGates.find? name none)

def configMap (cache : Cache) (location : Location) : Lookup ConfigMap :=
  match cache.configMaps.find? location.space with
  | some shelf => .ok (shelf.find? location.name (some location.space))
  | none =>
    .error (.lookup ResourceKind.configMap.name location.text "namespace is not watched")

/-- The cluster as the cache shows it. -/
def cluster (cache : Cache) : Cluster :=
  ⟨cache.infrastructure clusterName, cache.featureGate clusterName, cache.configMap⟩

end Cache

end CloudFlags
