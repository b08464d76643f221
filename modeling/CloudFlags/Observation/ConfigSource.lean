import CloudFlags.SyncRule
import CloudFlags.Platform
import CloudFlags.Resource.Infrastructure

/-! Where the configuration of a built-in provider comes from: a config map and a key in it. The
config map that the cluster itself maintains goes before the one that its administrator names. Only
a built-in provider has a source, and the administrator may name none. -/

namespace CloudFlags

open Resource

/-- A config map and the key of the configuration in it. -/
structure ConfigSource where
  location : Location
  key : String
  deriving DecidableEq, Repr

namespace ConfigSource

/-- The namespace in which the administrator's config map stands. -/
def userSpace : String := "openshift-config"

/-- The config map that the cluster maintains. -/
def managed : ConfigSource := ⟨⟨"openshift-config-managed", "kube-cloud-config"⟩, "cloud.conf"⟩

/-- The namespaces in which sources can stand. -/
def spaces : List String := [userSpace, managed.location.space]

/-- The config map that the administrator names. -/
def named (reference : FileReference) : ConfigSource := ⟨⟨userSpace, reference.name⟩, reference.key⟩

/-- The source for a provider, given whether the maintained config map exists. -/
def choose? (provider : Option InTreeProvider) (managedExists : Bool) (reference : FileReference) :
    Option ConfigSource :=
  if provider.any (InTreeProvider.synced.contains ·) then
    if managedExists then some managed
    else if reference.name.isEmpty then none
    else some (named reference)
  else none

/-- The directory into which the operand mounts its copy of the config map. -/
def mountPath : String := "/etc/kubernetes/static-pod-resources/configmaps/cloud-config"

/-- The file in which the operand finds the configuration. -/
def file (source : ConfigSource) : String := mountPath ++ "/" ++ source.key

/-- Where a source is copied from; without a source, nowhere. -/
def locationOf : Option ConfigSource → Location
  | some source => source.location
  | none => .nowhere

end ConfigSource

end CloudFlags
