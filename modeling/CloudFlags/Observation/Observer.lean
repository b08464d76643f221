import CloudFlags.Cluster
import CloudFlags.Flags
import CloudFlags.OutOfTree
import CloudFlags.Traced
import CloudFlags.Observation.ConfigSource
import CloudFlags.Observation.Report

/-! An observation: the flags of an operand as they follow from the cluster, with the rule by which
the cloud configuration is copied for it. The stages are a lookup of the `Infrastructure`, the
decision about an external provider, a lookup of the maintained config map and the request for the
rule. A stage that fails ends the observation with what was observed before; what goes wrong in
reading the previous file is reported, but changes nothing. The trace tells what was looked up,
recorded, asked for and warned of, in order. -/

namespace CloudFlags

open Resource

/-- What an observation notes on its way. -/
inductive Notice where
  | lookedUp (kind : ResourceKind) (name : String)
  | recorded (event : Event)
  /-- A rule was asked for, and accepted or refused. -/
  | requested (rule : SyncRule) (accepted : Bool)
  | warned (text : String)
  deriving DecidableEq, Repr

/-- The flags observed. After a failure the part of the previous tree that is kept stands beside
them. -/
structure Observation where
  flags : Flags := {}
  retained : Option Json := none
  errors : List Error := []

/-- The tree to publish. -/
def Observation.tree (paths : FlagPaths) (observation : Observation) : Except Error Json :=
  match observation.retained with
  | some tree => .ok tree
  | none => paths.write observation.flags

/-- Who observes: for an operand in a namespace, with the places of its flags. -/
structure Observer where
  space : String
  paths : FlagPaths

namespace Observer

open Traced Observation

/-- The provider name that stands for an external provider. -/
def externalName : String := "external"

/-- Name of the operand's copy of the cloud configuration. -/
def copyName : String := "cloud-config"

/-- Where the operand's copy stands. -/
def copyLocation (o : Observer) : Location := ⟨o.space, copyName⟩

/-- The rule that makes the operand's copy. -/
def copyRule (o : Observer) (source : Option ConfigSource) : SyncRule :=
  ⟨o.copyLocation, ConfigSource.locationOf source⟩

def providerName (external : Bool) (provider : Option InTreeProvider) : Option String :=
  if external then some externalName else provider.map InTreeProvider.name

/-- Ends an observation after an error: everything stays as it was. -/
def keep (o : Observer) (existing : Json) (e : Error) : Traced Notice Observation :=
  let (flags, errors) := o.paths.read existing
  ⟨⟨flags, some (o.paths.restrict existing), [e]⟩,
    errors.map fun e => .warned ("Failed to read previously observed value: " ++ e.message)⟩

/-- What stands at the path of the configuration file. -/
def previousFile (o : Observer) (existing : Json) :
    Traced Notice (Option (List String) × List Error) :=
  match o.paths.config.readList existing with
  | .ok previous => return (previous, [])
  | .error e => do
    note (.warned ("Failed to read previously observed cloud config: " ++ e.message))
    return (none, [e])

/-- Ends an observation in which nothing failed. -/
def settle (o : Observer) (existing : Json) (name : Option String) :
    Option ConfigSource → Traced Notice Observation
  | none => return { flags := ⟨name, none⟩ }
  | some source => do
    let (previous, errors) ← o.previousFile existing
    if previous ≠ some [source.file] then note (.recorded (fileChanged source.file))
    return { flags := ⟨name, some source.file⟩, errors }

/-- The stages after the decision about an external provider. -/
def arrange (o : Observer) (cluster : Cluster) (accept : SyncRule → Except Error Unit)
    (existing : Json) (infrastructure : Infrastructure) (external : Bool) :
    Traced Notice Observation := do
  match platformWarning? infrastructure.platform with
  | some event => note (.recorded event)
  | none => pure ()
  note (.lookedUp .configMap ConfigSource.managed.location.text)
  match cluster.configMap ConfigSource.managed.location with
  | .error e => o.keep existing e
  | .ok managed =>
    let provider := infrastructure.platform.inTree?
    let source := ConfigSource.choose? provider managed.isSome infrastructure.cloudConfig
    match accept (o.copyRule source) with
    | .error e => do
      note (.requested (o.copyRule source) false)
      o.keep existing e
    | .ok () => do
      note (.requested (o.copyRule source) true)
      o.settle existing (providerName external provider) source

/-- Observes a cluster, given who accepts rules and the tree observed before. -/
def observe (o : Observer) (cluster : Cluster) (accept : SyncRule → Except Error Unit)
    (existing : Json) : Traced Notice Observation := do
  note (.lookedUp .infrastructure clusterName)
  match cluster.infrastructure with
  | .error e => o.keep existing e
  | .ok none => do
    note (.recorded missingInfrastructure)
    return {}
  | .ok (some infrastructure) =>
    note (.lookedUp .featureGate clusterName)
    match OutOfTree.isExternal cluster.featureGate infrastructure.platformStatus with
    | .error e => do
      note (.recorded (undecidedProvider e))
      o.keep existing e
    | .ok external => o.arrange cluster accept existing infrastructure external

end Observer

end CloudFlags
