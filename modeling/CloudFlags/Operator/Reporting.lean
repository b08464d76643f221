import CloudFlags.Api.Exchange
import CloudFlags.Observation.Observer

/-! Events on their way to the API server. Recording one logs it, counts it and puts it in the
queue; the emitter takes events from the queue and creates one object for each. An event that comes
after the queue was closed is logged and counted all the same, and dropped. -/

namespace CloudFlags.Operator

open Resource Exchange

/-- Records an event. -/
def record (queue : EventQueue) (event : Event) : Traced Entry EventQueue :=
  ⟨queue.record event,
    [.logged event.logLine, .counted (.events event.type event.reason),
      if queue.isOpen then .recorded event
      else .logged ⟨.warn, "Event emitter has stopped, dropping event"⟩]⟩

/-- Where and by whom events are reported. -/
structure Reporter where
  space : String
  /-- The host, if its name is known. -/
  host : Option String
  /-- What sets the names of the objects apart. -/
  stamp : String

namespace Reporter

def clusterEvent (reporter : Reporter) (event : Event) : ClusterEvent :=
  ⟨event, reporter.space, reporter.host.getD "unknown", reporter.stamp⟩

variable {σ : Type}

/-- Creates the object for an event; a failure is logged and leaves no other trace. -/
def emit (reporter : Reporter) (api : Api σ) (event : Event) : Exchange σ Unit := do
  match ← createEvent api (reporter.clusterEvent event) with
  | .ok () => return ()
  | .error failure => log .warn ("Failed to create event: " ++ failure.full)

/-- Emits events in order. -/
def emitAll (reporter : Reporter) (api : Api σ) : List Event → Exchange σ Unit
  | [] => return ()
  | event :: rest => do
    reporter.emit api event
    reporter.emitAll api rest

/-- Emits what waits in a queue to which nothing more is added, and ends. -/
def drain (reporter : Reporter) (api : Api σ) (queue : EventQueue) : Exchange σ EventQueue := do
  reporter.emitAll api queue.waiting
  log .debug "Event emitter stopped"
  return { queue with waiting := [] }

end Reporter

end CloudFlags.Operator
