import CloudFlags.Observation.Observer

/-! Rehearsing observations: a cluster is set up by hand, changed before every pass, and observed
with the events, lookups and requests for rules laid open. The tree of a pass is the previous tree
of the next. -/

namespace CloudFlags.Scenario

open Resource Json

/-- A cluster set up by hand, what was observed of it, and the rules that came out. -/
structure Stage where
  infrastructure : Option Infrastructure := none
  featureGate : Option FeatureGate := none
  /-- The config maps that exist. -/
  maps : List Location := []
  /-- Why lookups fail, if they do. -/
  infrastructureFault : Option String := none
  featureGateFault : Option String := none
  mapFault : Option String := none
  /-- Every rule is refused. -/
  refusesRules : Bool := false
  existing : Json := Json.empty
  rules : SyncRules := Table.empty

/-- What to change on a stage; what is not given stays. Objects are given as they are written, with
null for none. -/
structure StageChange where
  infrastructure? : Option Json := none
  featureGate? : Option Json := none
  maps? : Option (List Location) := none
  infrastructureFault? : Option (Option String) := none
  featureGateFault? : Option (Option String) := none
  mapFault? : Option (Option String) := none
  refusesRules? : Option Bool := none
  existing? : Option Json := none

namespace Stage

/-- The stage after a change. If an object cannot be read nothing is changed. -/
def change (stage : Stage) (c : StageChange) : Except Mismatch Stage := do
  let infrastructure ← match c.infrastructure? with
    | some tree => Infrastructure.record.shape.optional.ofTree tree
    | none => pure stage.infrastructure
  let featureGate ← match c.featureGate? with
    | some tree => FeatureGate.record.shape.optional.ofTree tree
    | none => pure stage.featureGate
  return {
    infrastructure
    featureGate
    maps := c.maps?.getD stage.maps
    infrastructureFault := c.infrastructureFault?.getD stage.infrastructureFault
    featureGateFault := c.featureGateFault?.getD stage.featureGateFault
    mapFault := c.mapFault?.getD stage.mapFault
    refusesRules := c.refusesRules?.getD stage.refusesRules
    existing := c.existing?.getD stage.existing
    rules := stage.rules }

/-- The end of a lookup that fails for a reason, if there is one. -/
def lookup {α : Type} (kind : ResourceKind) (name : String) (fault : Option String)
    (found : Option α) : Lookup α :=
  match fault with
  | some reason => .error (.lookup kind.name name reason)
  | none => .ok found

/-- A config map of which no more is known than that it exists. -/
def bareMap (location : Location) : ConfigMap :=
  ⟨Metadata.named location.space location.name, none, none, none⟩

def cluster (stage : Stage) : Cluster where
  infrastructure :=
    lookup .infrastructure clusterName stage.infrastructureFault stage.infrastructure
  featureGate := lookup .featureGate clusterName stage.featureGateFault stage.featureGate
  configMap location :=
    lookup .configMap location.text stage.mapFault
      (if stage.maps.contains location then some (bareMap location) else none)

/-- Who accepts rules on the stage. -/
def accept (stage : Stage) (rule : SyncRule) : Except Error Unit :=
  if stage.refusesRules then .error (.invalidSyncDestination rule.destination.text)
  else rule.check

end Stage

/-- An observation with all that came with it. -/
structure Rehearsal where
  observation : Observation
  rendered : Except Error Json
  changed : Bool
  events : List Event
  lookups : List (ResourceKind × String)
  requests : List SyncRule
  rules : SyncRules
  logs : List LogLine

/-- The rules after a notice, and what is logged. -/
def follow (rules : SyncRules) : Notice → SyncRules × List LogLine
  | .requested rule true => (rules.enforce rule, rules.enforcementLog rule)
  | .warned text => (rules, [⟨.warn, text⟩])
  | _ => (rules, [])

def followAll (rules : SyncRules) : List Notice → SyncRules × List LogLine
  | [] => (rules, [])
  | notice :: rest =>
    let (rules, logs) := follow rules notice
    let (rules, later) := followAll rules rest
    (rules, logs ++ later)

/-- Observes a stage. -/
def rehearse (o : Observer) (stage : Stage) : Rehearsal × Stage :=
  let seen := o.observe stage.cluster stage.accept stage.existing
  let (rules, logs) := followAll stage.rules seen.trace
  let rendered := seen.value.tree o.paths
  let existing := match rendered with
    | .ok tree => tree
    | .error _ => stage.existing
  let changed := match rendered with
    | .ok tree => tree ≠ stage.existing
    | .error _ => true
  ({ observation := seen.value
     rendered
     changed
     events := seen.trace.filterMap fun
       | .recorded event => some event
       | _ => none
     lookups := seen.trace.filterMap fun
       | .lookedUp kind name => some (kind, name)
       | _ => none
     requests := seen.trace.filterMap fun
       | .requested rule _ => some rule
       | _ => none
     rules
     logs },
    { stage with existing, rules })

end CloudFlags.Scenario
