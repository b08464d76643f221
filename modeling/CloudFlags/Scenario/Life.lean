import CloudFlags.Cache
import CloudFlags.Operator.FlowControl
import CloudFlags.Operator.Schedule
import CloudFlags.Scenario.ScriptedServer

/-! The life of an operator, step by step: changes of the server and of the cache, single requests,
starts, passes, and windows of time in which it runs by itself. Rules and events outlast a restart;
the tree and the count of failures do not. -/

namespace CloudFlags.Scenario

open Api Resource Json Operator

/-- What a watch reports, its object as it is written. -/
inductive WatchReport where
  | applied (object : Json)
  | deleted (object : Json)
  | listing
  | listed (object : Json)
  | listingDone

/-- The change that a report stands for. -/
def WatchReport.change {α : Type} (read : Reader α) :
    WatchReport → Except Mismatch (Cache.Change α)
  | .applied object => (read object).map .applied
  | .deleted object => (read object).map .deleted
  | .listing => .ok .listing
  | .listed object => (read object).map .listed
  | .listingDone => .ok .listingDone

inductive Step where
  | put (location : Location) (map : StoredMap)
  | remove (location : Location)
  | fail (failure : ScriptedFailure)
  | heal
  /-- A watch reports a change of an object; the namespace is that of the watch. -/
  | watch (kind : ResourceKind) (space : String) (report : WatchReport)
  | lookup (kind : ResourceKind) (location : Location)
  | request (rule : SyncRule)
  | load
  /-- Starts the operator with a tree, or with the one that was published. -/
  | start (existing : Option Json)
  | observe
  | run (window : Nat)
  | reconcile
  | flowControl
  | emit
  | stopEmitter

/-- How a step ends. -/
inductive StepResult where
  | done
  | existed (before : Bool)
  | running
  | loaded (tree : Json)
  | foundInfrastructure (object : Option Infrastructure)
  | foundFeatureGate (object : Option FeatureGate)
  | foundMap (object : Option ConfigMap)
  | failed (e : Error)
  | unfit (mismatch : Mismatch)
  | notWatched
  | notStarted

/-- The result of work that ends with nothing or an error. -/
def StepResult.ofExcept : Except Error Unit → StepResult
  | .ok () => .done
  | .error e => .failed e

/-- Nobody waits in a scenario: time is skipped to the end of every wait, but by no more than thirty
years of 365 days, after which a wait is over in any case. -/
def skippingClock : Clock where
  lasts wait := min wait.val 946080000
  lasts_pos wait := Nat.lt_min.2 ⟨wait.property, by decide⟩

/-- Everything there is. -/
structure Life where
  settings : Settings
  host : Option String
  cache : Cache
  server : ScriptedServer
  rules : SyncRules
  queue : EventQueue
  /-- The tree and the count of failures of an operator that was started. -/
  started : Option (Json × UInt32)

/-- How a step ends, and what it leaves in sight; in a window of time with the second. -/
structure StepOutcome where
  result : StepResult
  entries : List (Option Nat × Entry) := []

namespace Life

def begin (source : String → Option String) (host : Option String)
    (watched : Option (List String)) : Except Error Life := do
  let settings ← Settings.read source
  return {
    settings
    host
    cache := (watched.map Cache.watching).getD Cache.standard
    server := ⟨Table.empty, []⟩
    rules := Table.empty
    queue := {}
    started := none }

/-- What stands for the time of day in the names of events. -/
def stamp : String := "<hex>"

def reporter (life : Life) : Reporter := ⟨life.settings.space, life.host, stamp⟩

def untimed (entries : List Entry) : List (Option Nat × Entry) := entries.map (none, ·)

/-- Does work with the server, and keeps what came of it. -/
def exchange {α : Type} (life : Life) (work : Exchange ScriptedServer α)
    (keep : Life → α → StepResult × Life) : StepOutcome × Life :=
  let done := work life.server
  let (result, life) := keep { life with server := done.value.2 } done.value.1
  (⟨result, untimed done.trace⟩, life)

def memory (life : Life) (tree : Json) : Memory := ⟨tree, life.rules, life.queue⟩

def remember (life : Life) (memory : Memory) (failures : UInt32) : Life :=
  { life with
    rules := memory.rules
    queue := memory.queue
    started := some (memory.tree, failures) }

/-- Ends a step without a trace. -/
def still (result : StepResult) (life : Life) : StepOutcome × Life := (⟨result, []⟩, life)

def watch (life : Life) (kind : ResourceKind) (space : String) (report : WatchReport) :
    StepResult × Life :=
  let cache := life.cache
  match kind with
  | .infrastructure =>
    match report.change Infrastructure.ofJson with
    | .ok change =>
      let infrastructures := cache.infrastructures.update (·.metadata) change
      (.done, { life with cache := { cache with infrastructures } })
    | .error mismatch => (.unfit mismatch, life)
  | .featureGate =>
    match report.change FeatureGate.ofJson with
    | .ok change =>
      let featureGates := cache.featureGates.update (·.metadata) change
      (.done, { life with cache := { cache with featureGates } })
    | .error mismatch => (.unfit mismatch, life)
  | .configMap =>
    match cache.configMaps.find? space with
    | none => (.notWatched, life)
    | some shelf =>
      match report.change ConfigMap.ofJson with
      | .ok change =>
        let configMaps := cache.configMaps.insert space (shelf.update (·.metadata) change)
        (.done, { life with cache := { cache with configMaps } })
      | .error mismatch => (.unfit mismatch, life)

def lookup (life : Life) (kind : ResourceKind) (location : Location) : StepResult :=
  let result := match kind with
    | .infrastructure =>
      (life.cache.infrastructure location.name).map StepResult.foundInfrastructure
    | .featureGate => (life.cache.featureGate location.name).map StepResult.foundFeatureGate
    | .configMap => (life.cache.configMap location).map StepResult.foundMap
  match result with
  | .ok result => result
  | .error e => .failed e

/-- One pass of an operator that was started. -/
def observe (life : Life) (tree : Json) (failures : UInt32) : StepOutcome × Life :=
  life.exchange
    (pass life.settings.observer ScriptedServer.api life.cache.cluster (life.memory tree))
    fun life (result, memory) => (StepResult.ofExcept result, life.remember memory failures)

/-- A window of time for an operator that was started. -/
def run (life : Life) (window : Nat) (tree : Json) (failures : UInt32) : StepOutcome × Life :=
  let done := Operator.run life.settings ScriptedServer.api skippingClock life.cache.cluster window
    ⟨life.memory tree, failures⟩ life.server
  let session := done.value.1
  let life := { life with server := done.value.2 }
  (⟨.running, done.trace.map fun timed => (some timed.second, timed.entry)⟩,
    life.remember session.memory session.failures)

def perform (life : Life) : Step → StepOutcome × Life
  | .put location map =>
    let server := { life.server with store := life.server.store.insert location map }
    still .done { life with server }
  | .remove location =>
    let before := (life.server.store.find? location).isSome
    let server := { life.server with store := life.server.store.erase location }
    still (.existed before) { life with server }
  | .fail failure =>
    let server := { life.server with failures := life.server.failures ++ [failure] }
    still .done { life with server }
  | .heal => still .done { life with server := { life.server with failures := [] } }
  | .watch kind space report =>
    let (result, life) := life.watch kind space report
    still result life
  | .lookup kind location => still (life.lookup kind location) life
  | .request rule =>
    match rule.check with
    | .error e => still (.failed e) life
    | .ok () =>
      let enforced := (life.memory Json.empty).enforce rule
      (⟨.done, untimed enforced.trace⟩, { life with rules := enforced.value.rules })
  | .load =>
    life.exchange (restore ScriptedServer.api life.settings.space) fun life loaded =>
      match loaded with
      | .ok tree => (.loaded tree, life)
      | .error e => (.failed e, life)
  | .start (some tree) => still .done { life with started := some (tree, 0) }
  | .start none =>
    life.exchange (restore ScriptedServer.api life.settings.space) fun life loaded =>
      match loaded with
      | .ok tree => (.loaded tree, { life with started := some (tree, 0) })
      | .error e => (.failed e, life)
  | .observe =>
    match life.started with
    | some (tree, failures) => life.observe tree failures
    | none => still .notStarted life
  | .run window =>
    match life.started with
    | some (tree, failures) => life.run window tree failures
    | none => still .notStarted life
  | .reconcile =>
    life.exchange (Operator.reconcile ScriptedServer.api life.rules) fun life result =>
      (StepResult.ofExcept result, life)
  | .flowControl =>
    life.exchange (installFlowControl ScriptedServer.api) fun life result =>
      (StepResult.ofExcept result, life)
  | .emit =>
    life.exchange (life.reporter.drain ScriptedServer.api life.queue) fun life queue =>
      (.done, { life with queue })
  | .stopEmitter => still .done { life with queue := life.queue.close }

end Life

/-- How often each counter was raised, in the order of their first time. -/
def tally (counters : List Counter) : List (Counter × Nat) :=
  counters.eraseDups.map fun counter => (counter, counters.count counter)

end CloudFlags.Scenario
