import CloudFlags.Api.Store
import CloudFlags.Cache
import CloudFlags.Observation.Observer
import CloudFlags.Settings

/-! A server that does what it is asked, but whose answers can be lost on their way; and a cluster
on AWS for an operand with the default settings. -/

namespace CloudFlags.Scenario

open Api Resource

/-- A server, and whether its answers arrive. -/
structure LossyServer where
  store : Store := Table.empty
  isMute : Bool := false

namespace LossyServer

/-- What a client is told when an answer is lost. -/
def lostReply : Reply := .unreachable "connection closed before message completed"

def answer (request : Request) (server : LossyServer) : Reply × LossyServer :=
  let (reply, store) := server.store.answer request
  (if server.isMute then lostReply else reply, { server with store })

def api : Api LossyServer := ⟨answer⟩

def mute (server : LossyServer) : LossyServer := { server with isMute := true }

def unmute (server : LossyServer) : LossyServer := { server with isMute := false }

end LossyServer

/-- The observer for the default settings. -/
def standardObserver : Observer where
  space := Settings.defaultSpace
  paths :=
    { name := ⟨["extendedArguments", "cloud-provider"], by decide, by decide⟩
      config := ⟨["extendedArguments", "cloud-config"], by decide, by decide⟩
      apart := by decide }

/-- The default settings. -/
def standardSettings : Settings where
  space := Settings.defaultSpace
  paths := standardObserver.paths
  interval := Settings.defaultInterval
  interval_pos := Settings.defaultInterval_pos
  appliesFlowControl := true

/-- A cluster on AWS whose administrator names this config map. -/
def awsInfrastructure (configName : String) : Infrastructure where
  metadata := { name := some clusterName }
  cloudConfig := ⟨configName, "config"⟩
  status := some ⟨.aws, some .aws⟩

/-- What is cached of it, with a feature set. -/
def awsCache (configName featureSet : String) : Cache where
  infrastructures := { held := [((clusterName, none), awsInfrastructure configName)] }
  featureGates :=
    { held := [((clusterName, none), ⟨{ name := some clusterName }, ⟨featureSet, none⟩⟩)] }
  configMaps := Cache.standard.configMaps

end CloudFlags.Scenario
