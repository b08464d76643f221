import CloudFlags.Operator.Reporting

/-! Events on their way from those who record them to the API server, step by step. Recorders put
events into one queue and can be cloned and dropped; an emitter takes the events out, sends a
request for each and waits for its answer before it takes the next. The steps of all of them come in
any order. Nothing is waited for between taking an event and sending its request, so this is one
step; hearing the answer is another. The emitter ends when it finds the queue empty and no recorder
left, and the queue takes no more then. -/

namespace CloudFlags.Operator

open Api Resource

/-- What the emitter is about. -/
inductive Emitter where
  /-- The next event is waited for. -/
  | ready
  /-- The answer to a request is waited for, and will be this one. -/
  | asking (reply : Reply)
  | ended
  deriving DecidableEq

/-- Some recorders, their queue, and the emitter behind it. -/
structure Relay where
  recorders : Nat
  queue : EventQueue
  emitter : Emitter
  deriving DecidableEq

namespace Relay

/-- Nothing was recorded yet, and the emitter may not even have begun. -/
def start (recorders : Nat) : Relay := ⟨recorders, {}, .ready⟩

inductive Step where
  /-- A recorder records an event. -/
  | record (event : Event)
  /-- A recorder is cloned. -/
  | clone
  /-- A recorder is dropped. -/
  | drop
  /-- The emitter takes an event on a host and gives it a stamp. The request for it, if it is sent,
  will have this answer. -/
  | take (host : Option String) (stamp : String) (reply : Reply)
  /-- The emitter hears the answer to its request. -/
  | hear
  /-- The emitter finds that there is nothing more to wait for. -/
  | finish

/-- What is logged of an event that was to be created. -/
def creationLog : Except Failure Unit → List Entry
  | .ok () => []
  | .error failure => [.logged ⟨.warn, "Failed to create event: " ++ failure.full⟩]

/-- Sends the request for an event; one that cannot be sent has failed at once. -/
def dispatch (reporter : Reporter) (event : Event) (reply : Reply) : Traced Entry Emitter :=
  let request := Request.createEvent (reporter.clusterEvent event)
  match request.fault? with
  | some fault => ⟨.ready, creationLog (.error (.unsendable fault))⟩
  | none => ⟨.asking reply, [.sent request reply]⟩

/-- The relay after a step, for events of the namespace, if the step can be taken. -/
def step? (space : String) (relay : Relay) : Step → Option (Traced Entry Relay)
  | .record event =>
    if relay.recorders = 0 then none
    else
      let recorded := Operator.record relay.queue event
      some ⟨{ relay with queue := recorded.value }, recorded.trace⟩
  | .clone =>
    if relay.recorders = 0 then none
    else some ⟨{ relay with recorders := relay.recorders + 1 }, []⟩
  | .drop =>
    if relay.recorders = 0 then none
    else some ⟨{ relay with recorders := relay.recorders - 1 }, []⟩
  | .take host stamp reply =>
    match relay.emitter, relay.queue.next? with
    | .ready, some (event, queue) =>
      let sent := dispatch ⟨space, host, stamp⟩ event reply
      some ⟨{ relay with queue, emitter := sent.value }, sent.trace⟩
    | _, _ => none
  | .hear =>
    match relay.emitter with
    | .asking reply =>
      some ⟨{ relay with emitter := .ready }, creationLog (reply.read ClusterEvent.shape)⟩
    | _ => none
  | .finish =>
    match relay.emitter, relay.queue.next? with
    | .ready, none =>
      if relay.recorders = 0 then
        some ⟨{ relay with queue := relay.queue.close, emitter := .ended },
          [.logged ⟨.debug, "Event emitter stopped"⟩]⟩
      else none
    | _, _ => none

/-- The relay after some steps, if they can be taken one after another. -/
def run? (space : String) : Relay → List Step → Option (Traced Entry Relay)
  | relay, [] => some ⟨relay, []⟩
  | relay, step :: rest =>
    match relay.step? space step with
    | none => none
    | some first => (run? space first.value rest).map fun later =>
        ⟨later.value, first.trace ++ later.trace⟩

end Relay

end CloudFlags.Operator
