import CloudFlags.Operator.Relay
import CloudFlags.Proofs.Json.Fields
import CloudFlags.Proofs.Restoring
import CloudFlags.Proofs.Talk

/-! Events are relayed each once and in order. Whatever the order of the steps, the events that were
handed over and those that still wait are, one after the other, those that were recorded
(`Operator.Relay.run?_hands_over`). An event that is handed over is asked for once, unless its
namespace cannot stand in a request (`CanHoldEvents`), and no answer changes what else is sent
(`run?_congr`). Each creation ends once and is logged if it fails; where no request can be sent it
has failed (`exists_ends_of_run?`). Without recorders the emitter is bound to end, and it has then
handed over everything. -/

namespace CloudFlags

open Api Resource Json

/-! ### Requests for events -/

namespace Api.Request

/-- Requests for events in the namespace can be sent. -/
def CanHoldEvents (space : String) : Prop :=
  let address := spacePath space ++ "/events?"
  address.utf8ByteSize ≤ longestAddress ∧
    isSendable (String.ofList (address.toList.takeWhile (· ≠ cutMark))).toList

instance (space : String) : Decidable (CanHoldEvents space) := inferInstanceAs (Decidable (_ ∧ _))

theorem fault?_createEvent_eq_none_iff {e : ClusterEvent} :
    (createEvent e).fault? = none ↔ CanHoldEvents e.space :=
  fault?_eq_none_iff.trans (and_iff_right nofun)

theorem not_canHoldEvents {e : ClusterEvent} {fault : RequestFault}
    (h : (createEvent e).fault? = some fault) : ¬ CanHoldEvents e.space := by
  intro hcan
  exact Option.some_ne_none fault (h.symm.trans (fault?_createEvent_eq_none_iff.2 hcan))

/-- The request asks for an object in the namespace that says what the event says. -/
structure Announces (request : Request) (space : String) (event : Event) : Prop where
  method : request.method = .post
  address : request.address = "/api/v1/namespaces/" ++ space ++ "/events?"
  space : request.body?.bind (get? ["metadata", "namespace"]) = some (.str space)
  type : request.body?.bind (get? ["type"]) = some (.str event.type.name)
  reason : request.body?.bind (get? ["reason"]) = some (.str event.reason)
  message : request.body?.bind (get? ["message"]) = some (.str event.message)

theorem announces_createEvent (e : ClusterEvent) :
    (createEvent e).Announces e.space e.event := by
  have fields := member?_of_eq_ofFields (rfl : e.toJson = ofFields _) (by simp)
  simp only [List.forall_mem_cons] at fields
  obtain ⟨-, -, -, -, message, metadata, reason, -, -, type, -⟩ := fields
  have space : (Metadata.named e.space e.name).toJson.member? "namespace" = some (.str e.space) :=
    member?_of_eq_ofFields rfl (by simp) ("namespace", some (.str e.space))
      (by simp [Metadata.named])
  have body : (createEvent e).body? = some e.toJson := rfl
  have single {key : String} {value : Json} (h : e.toJson.member? key = some value) :
      (createEvent e).body?.bind (get? [key]) = some value := by
    rw [body, Option.bind_some, get?_cons, h]
    rfl
  have nested : (createEvent e).body?.bind (get? ["metadata", "namespace"]) =
      some (.str e.space) := by
    rw [body, Option.bind_some, get?_cons, metadata, Option.bind_some, get?_cons, space]
    rfl
  exact ⟨rfl, rfl, nested, single type, single reason, single message⟩

end Api.Request

namespace EventQueue

variable {q rest : EventQueue} {event : Event}

theorem next?_eq_some_iff :
    q.next? = some (event, rest) ↔ q.waiting = event :: rest.waiting ∧ q.isOpen = rest.isOpen := by
  obtain ⟨waiting, isOpen⟩ := q
  obtain ⟨later, isOpen'⟩ := rest
  cases waiting with
  | nil => exact iff_of_false nofun nofun
  | cons first others =>
    simp only [next?, Option.some.injEq, Prod.mk.injEq, mk.injEq, List.cons.injEq, and_assoc]

theorem next?_eq_none_iff : q.next? = none ↔ q.waiting = [] := by
  obtain ⟨_ | _, isOpen⟩ := q
  · exact iff_of_true rfl rfl
  · exact iff_of_false nofun nofun

end EventQueue

namespace Operator.Relay

open Api.Request

variable {space : String} {relay other : Relay} {step step' : Step} {steps steps' : List Step}
  {next done : Traced Entry Relay}

/-! ### What a step does -/

/-- What a relay does in a step, case by case. -/
inductive Moves (space : String) (relay : Relay) : Step → Traced Entry Relay → Prop
  | record {event : Event} (present : relay.recorders ≠ 0) :
    Moves space relay (.record event)
      ⟨{ relay with queue := relay.queue.record event },
        (Operator.record relay.queue event).trace⟩
  | clone (present : relay.recorders ≠ 0) :
    Moves space relay .clone ⟨{ relay with recorders := relay.recorders + 1 }, []⟩
  | drop (present : relay.recorders ≠ 0) :
    Moves space relay .drop ⟨{ relay with recorders := relay.recorders - 1 }, []⟩
  | takeUnsent {host : Option String} {stamp : String} {reply : Reply} {event : Event}
    {queue : EventQueue} {fault : RequestFault} (ready : relay.emitter = .ready)
    (taken : relay.queue.next? = some (event, queue))
    (refused : (createEvent (Reporter.clusterEvent ⟨space, host, stamp⟩ event)).fault? =
      some fault) :
    Moves space relay (.take host stamp reply)
      ⟨{ relay with queue, emitter := .ready }, creationLog (.error (.unsendable fault))⟩
  | takeSent {host : Option String} {stamp : String} {reply : Reply} {event : Event}
    {queue : EventQueue} (ready : relay.emitter = .ready)
    (taken : relay.queue.next? = some (event, queue))
    (sendable : (createEvent (Reporter.clusterEvent ⟨space, host, stamp⟩ event)).fault? = none) :
    Moves space relay (.take host stamp reply)
      ⟨{ relay with queue, emitter := .asking reply },
        [.sent (createEvent (Reporter.clusterEvent ⟨space, host, stamp⟩ event)) reply]⟩
  | hear {reply : Reply} (asking : relay.emitter = .asking reply) :
    Moves space relay .hear
      ⟨{ relay with emitter := .ready }, creationLog (reply.read ClusterEvent.shape)⟩
  | finish (ready : relay.emitter = .ready) (drained : relay.queue.next? = none)
    (alone : relay.recorders = 0) :
    Moves space relay .finish
      ⟨{ relay with queue := relay.queue.close, emitter := .ended },
        [.logged ⟨.debug, "Event emitter stopped"⟩]⟩

theorem moves_of_step? (h : relay.step? space step = some next) : Moves space relay step next := by
  cases step with
  | record event =>
    obtain ⟨present, h⟩ := Option.ite_none_left_eq_some.1 h
    cases h
    exact .record present
  | clone =>
    obtain ⟨present, h⟩ := Option.ite_none_left_eq_some.1 h
    cases h
    exact .clone present
  | drop =>
    obtain ⟨present, h⟩ := Option.ite_none_left_eq_some.1 h
    cases h
    exact .drop present
  | take host stamp reply =>
    rw [step?] at h
    split at h
    · next event queue ready taken =>
      cases h
      rw [dispatch]
      cases hfault : (createEvent (Reporter.clusterEvent ⟨space, host, stamp⟩ event)).fault? with
      | some fault => exact .takeUnsent ready taken hfault
      | none => exact .takeSent ready taken hfault
    · cases h
  | hear =>
    rw [step?] at h
    split at h
    · next reply asking =>
      cases h
      exact .hear asking
    · cases h
  | finish =>
    rw [step?] at h
    split at h
    · next ready drained =>
      obtain ⟨alone, h⟩ := Option.ite_none_right_eq_some.1 h
      cases h
      exact .finish ready drained alone
    · cases h

/-- The first of some steps, and the others from where it leads. -/
theorem exists_of_run?_cons (h : run? space relay (step :: steps) = some done) :
    ∃ first later, Moves space relay step first ∧ run? space first.value steps = some later ∧
      done = ⟨later.value, first.trace ++ later.trace⟩ := by
  rw [run?] at h
  split at h
  · cases h
  · next first hfirst =>
    obtain ⟨later, hlater, hdone⟩ := Option.map_eq_some_iff.1 h
    exact ⟨first, later, moves_of_step? hfirst, hlater, hdone.symm⟩

/-! ### Events that are handed over -/

/-- While there are recorders the queue takes what they record; an emitter that has ended has left
none of them behind, and nothing in the queue. -/
structure Sound (relay : Relay) : Prop where
  isOpen : relay.recorders ≠ 0 → relay.queue.isOpen = true
  ended : relay.emitter = .ended → relay.recorders = 0 ∧ relay.queue.waiting = []

theorem sound_start (recorders : Nat) : (start recorders).Sound := ⟨fun _ => rfl, nofun⟩

theorem Moves.sound (h : Moves space relay step next) (sound : relay.Sound) :
    next.value.Sound := by
  cases h with
  | record present =>
    refine ⟨fun _ => ?_, fun hended => absurd (sound.ended hended).1 present⟩
    show (relay.queue.record _).isOpen = true
    rw [EventQueue.record, if_pos (sound.isOpen present)]
    exact sound.isOpen present
  | clone present | drop present =>
    exact ⟨fun _ => sound.isOpen present, fun hended => absurd (sound.ended hended).1 present⟩
  | takeUnsent _ taken | takeSent _ taken =>
    obtain ⟨-, hopen⟩ := EventQueue.next?_eq_some_iff.1 taken
    exact ⟨fun present => hopen ▸ sound.isOpen present, nofun⟩
  | hear => exact ⟨sound.isOpen, nofun⟩
  | finish _ drained alone =>
    have hempty : relay.queue.waiting = [] := EventQueue.next?_eq_none_iff.1 drained
    exact ⟨fun present => absurd alone present, fun _ => ⟨alone, hempty⟩⟩

/-- The trace shows a request for each of the events, in order, if the namespace can hold them, and
no request otherwise. -/
def HandsOver (space : String) (events : List Event) (trace : List Entry) : Prop :=
  ∃ sent : List ClusterEvent, (talk trace).map Prod.fst = sent.map createEvent ∧
    sent.map (·.event) = (if CanHoldEvents space then events else []) ∧ ∀ e ∈ sent, e.space = space

theorem handsOver_nil {trace : List Entry} (h : talk trace = []) : HandsOver space [] trace :=
  ⟨[], congrArg (List.map Prod.fst) h, (ite_self []).symm, nofun⟩

theorem HandsOver.append {first later : List Event} {trace trace' : List Entry}
    (h : HandsOver space first trace) (h' : HandsOver space later trace') :
    HandsOver space (first ++ later) (trace ++ trace') := by
  obtain ⟨sent, hrequests, hevents, hspace⟩ := h
  obtain ⟨sent', hrequests', hevents', hspace'⟩ := h'
  refine ⟨sent ++ sent', ?_, ?_, List.forall_mem_append.2 ⟨hspace, hspace'⟩⟩
  · rw [talk_append, List.map_append, List.map_append, hrequests, hrequests']
  · rw [List.map_append, hevents, hevents']
    split <;> rfl

theorem talk_creationLog (result : Except Failure Unit) : talk (creationLog result) = [] := by
  cases result <;> rfl

theorem talk_record (queue : EventQueue) (event : Event) :
    talk (Operator.record queue event).trace = [] := by
  rw [Operator.record]
  cases queue.isOpen <;> rfl

/-- The event that a step records. -/
def Step.event? : Step → Option Event
  | .record event => some event
  | _ => none

/-- The step takes an event out of the queue. -/
def Step.isTake : Step → Bool
  | .take .. => true
  | _ => false

/-- What is handed over in a step was at the front of the queue, and what is recorded comes to its
end. -/
theorem Moves.hands_over (h : Moves space relay step next) (sound : relay.Sound) :
    ∃ handed, handed ++ next.value.queue.waiting = relay.queue.waiting ++ step.event?.toList ∧
      handed.length = [step].countP Step.isTake ∧ HandsOver space handed next.trace := by
  cases h with
  | record present =>
    refine ⟨[], ?_, rfl, handsOver_nil (talk_record _ _)⟩
    show (relay.queue.record _).waiting = _
    rw [EventQueue.record, if_pos (sound.isOpen present)]
    rfl
  | clone | drop => exact ⟨[], (List.append_nil _).symm, rfl, handsOver_nil rfl⟩
  | @takeUnsent _ _ _ event _ _ _ taken refused =>
    obtain ⟨hwaiting, -⟩ := EventQueue.next?_eq_some_iff.1 taken
    have hspace : ¬ CanHoldEvents space := not_canHoldEvents refused
    refine ⟨[event], ?_, rfl, [], ?_, (if_neg hspace).symm, nofun⟩
    · rw [hwaiting]
      exact (List.append_nil _).symm
    · rw [talk_creationLog]
      rfl
  | @takeSent host stamp _ event _ _ taken sendable =>
    obtain ⟨hwaiting, -⟩ := EventQueue.next?_eq_some_iff.1 taken
    have hspace := fault?_createEvent_eq_none_iff.1 sendable
    refine ⟨[event], ?_, rfl, [Reporter.clusterEvent ⟨space, host, stamp⟩ event], rfl,
      (if_pos hspace).symm, List.forall_mem_singleton.2 rfl⟩
    rw [hwaiting]
    exact (List.append_nil _).symm
  | hear => exact ⟨[], (List.append_nil _).symm, rfl, handsOver_nil (talk_creationLog _)⟩
  | finish => exact ⟨[], (List.append_nil _).symm, rfl, handsOver_nil rfl⟩

theorem Sound.run? (sound : relay.Sound) (h : run? space relay steps = some done) :
    done.value.Sound := by
  induction steps generalizing relay done with
  | nil =>
    cases h
    exact sound
  | cons step rest ih =>
    obtain ⟨first, later, hstep, hlater, rfl⟩ := exists_of_run?_cons h
    show later.value.Sound
    exact ih (hstep.sound sound) hlater

/-- What waited and what was recorded was handed over, and what was not still waits. -/
theorem run?_hands_over (sound : relay.Sound) (h : run? space relay steps = some done) :
    ∃ handed, handed ++ done.value.queue.waiting =
        relay.queue.waiting ++ steps.filterMap Step.event? ∧
      handed.length = steps.countP Step.isTake ∧ HandsOver space handed done.trace := by
  induction steps generalizing relay done with
  | nil =>
    cases h
    exact ⟨[], (List.append_nil _).symm, rfl, handsOver_nil rfl⟩
  | cons step rest ih =>
    obtain ⟨first, later, hstep, hlater, rfl⟩ := exists_of_run?_cons h
    obtain ⟨front, hfront, hlength, hover⟩ := hstep.hands_over sound
    obtain ⟨back, hback, hlength', hover'⟩ := ih (hstep.sound sound) hlater
    have hevents : (step :: rest).filterMap Step.event? =
        step.event?.toList ++ rest.filterMap Step.event? := by
      rw [List.filterMap_cons]
      cases step.event? <;> rfl
    refine ⟨front ++ back, ?_, ?_, hover.append hover'⟩
    · calc
        front ++ back ++ later.value.queue.waiting
            = front ++ (first.value.queue.waiting ++ rest.filterMap Step.event?) := by
          rw [List.append_assoc, hback]
        _ = relay.queue.waiting ++ (step :: rest).filterMap Step.event? := by
          rw [← List.append_assoc, hfront, List.append_assoc, hevents]
    · rw [List.length_append, hlength, hlength', ← List.countP_append]
      rfl

/-! ### How creations end -/

/-- How a creation ends with an answer. -/
def heard (reply : Reply) : Except Failure Unit := reply.read ClusterEvent.shape

/-- The answer that is waited for, if one is. -/
def awaited (relay : Relay) : List Reply :=
  match relay.emitter with
  | .asking reply => [reply]
  | _ => []

/-- What an emitter that has ended has logged of it. -/
def farewell (relay : Relay) : List Entry :=
  match relay.emitter with
  | .ended => [.logged ⟨.debug, "Event emitter stopped"⟩]
  | _ => []

/-- The log lines of a trace. -/
def logLines (trace : List Entry) : List Entry :=
  trace.filter fun
    | .logged _ => true
    | _ => false

theorem logLines_append (first later : List Entry) :
    logLines (first ++ later) = logLines first ++ logLines later := List.filter_append ..

theorem logLines_creationLog (result : Except Failure Unit) :
    logLines (creationLog result) = creationLog result := by
  cases result <;> rfl

/-- How creations ended in some steps: one for every event taken and not still waited for, as it was
answered if the namespace can hold events, and as a request that cannot be sent if it cannot. The
log lines are those of the recorded events, those of the creations that failed, and at the end of
the emitter its last one. -/
structure Ends (space : String) (relay : Relay) (steps : List Step) (done : Traced Entry Relay)
    (outcomes : List (Except Failure Unit)) : Prop where
  count : relay.awaited.length + steps.countP Step.isTake =
    outcomes.length + done.value.awaited.length
  answered : CanHoldEvents space →
    relay.awaited.map heard ++ (talk done.trace).map (fun exchange => heard exchange.2) =
      outcomes ++ done.value.awaited.map heard
  failed : ¬ CanHoldEvents space → relay.awaited = [] →
    done.value.awaited = [] ∧ ∀ outcome ∈ outcomes, ∃ fault, outcome = .error (.unsendable fault)
  log : (logLines done.trace ++ relay.farewell).Perm
    ((steps.filterMap Step.event?).map (.logged ·.logLine) ++ outcomes.flatMap creationLog ++
      done.value.farewell)

/-- Where the emitter does nothing, no creation ends. -/
theorem Ends.of_idle (emitter : next.value.emitter = relay.emitter) (quiet : talk next.trace = [])
    (htake : step.isTake = false)
    (hlog : logLines next.trace = ([step].filterMap Step.event?).map (.logged ·.logLine)) :
    Ends space relay [step] next [] := by
  have hawaited : next.value.awaited = relay.awaited := by rw [awaited, awaited, emitter]
  have hfarewell : next.value.farewell = relay.farewell := by rw [farewell, farewell, emitter]
  have hcount : [step].countP Step.isTake = 0 :=
    List.countP_eq_zero.2 (List.forall_mem_singleton.2 (by rw [htake]; decide))
  constructor
  · rw [hcount, hawaited, List.length_nil, Nat.zero_add, Nat.add_zero]
  · intro _
    rw [quiet, hawaited, List.map_nil, List.append_nil, List.nil_append]
  · exact fun _ hnone => ⟨hawaited.trans hnone, List.forall_mem_nil _⟩
  · rw [hlog, hfarewell, List.flatMap_nil, List.append_nil]

theorem Moves.ends (h : Moves space relay step next) (sound : relay.Sound) :
    ∃ outcomes, Ends space relay [step] next outcomes := by
  obtain ⟨recorders, queue, emitter⟩ := relay
  cases h with
  | @record event present =>
    refine ⟨[], .of_idle rfl (talk_record _ _) rfl ?_⟩
    have hopen : queue.isOpen = true := sound.isOpen present
    simp only [Operator.record, hopen, if_true]
    rfl
  | clone | drop => exact ⟨[], .of_idle rfl rfl rfl rfl⟩
  | @takeUnsent _ _ _ event _ fault ready _ refused =>
    obtain rfl : emitter = .ready := ready
    have hspace : ¬ CanHoldEvents space := not_canHoldEvents refused
    exact ⟨[.error (.unsendable fault)], rfl, fun hcan => absurd hcan hspace,
      fun _ _ => ⟨rfl, List.forall_mem_singleton.2 ⟨fault, rfl⟩⟩, .refl _⟩
  | takeSent ready _ sendable =>
    obtain rfl : emitter = .ready := ready
    have hspace := fault?_createEvent_eq_none_iff.1 sendable
    exact ⟨[], rfl, fun _ => rfl, fun hcannot => absurd hspace hcannot, .refl _⟩
  | @hear reply asking =>
    obtain rfl : emitter = .asking reply := asking
    refine ⟨[heard reply], rfl, fun _ => ?_, fun _ hnone => absurd hnone (List.cons_ne_nil _ _), ?_⟩
    · rw [talk_creationLog]
      rfl
    · rw [logLines_creationLog]
      exact .of_eq (congrArg (· ++ []) (List.append_nil (creationLog (heard reply))).symm)
  | finish ready =>
    obtain rfl : emitter = .ready := ready
    exact ⟨[], rfl, fun _ => rfl, fun _ _ => ⟨rfl, List.forall_mem_nil _⟩, .refl _⟩

theorem Ends.append {first later : Traced Entry Relay}
    {outcomes outcomes' : List (Except Failure Unit)}
    (h : Ends space relay steps first outcomes)
    (h' : Ends space first.value steps' later outcomes') :
    Ends space relay (steps ++ steps') ⟨later.value, first.trace ++ later.trace⟩
      (outcomes ++ outcomes') where
  count := by
    have hcount := h.count
    have hcount' := h'.count
    rw [List.countP_append, List.length_append]
    show _ = _ + later.value.awaited.length
    omega
  answered hcan := by
    rw [talk_append, List.map_append, ← List.append_assoc, h.answered hcan, List.append_assoc,
      h'.answered hcan, List.append_assoc]
  failed hcannot hnone := by
    obtain ⟨hbetween, hfailed⟩ := h.failed hcannot hnone
    obtain ⟨hlater, hfailed'⟩ := h'.failed hcannot hbetween
    exact ⟨hlater, List.forall_mem_append.2 ⟨hfailed, hfailed'⟩⟩
  log := by
    rw [List.perm_iff_count]
    intro entry
    have hcount := h.log.count_eq entry
    have hcount' := h'.log.count_eq entry
    rw [logLines_append, List.filterMap_append, List.map_append, List.flatMap_append]
    simp only [List.count_append] at hcount hcount' ⊢
    omega

theorem exists_ends_of_run? (sound : relay.Sound) (h : run? space relay steps = some done) :
    ∃ outcomes, Ends space relay steps done outcomes := by
  induction steps generalizing relay done with
  | nil =>
    cases h
    exact ⟨[], Nat.add_comm .., fun _ => List.append_nil _,
      fun _ hnone => ⟨hnone, List.forall_mem_nil _⟩, .refl _⟩
  | cons step rest ih =>
    obtain ⟨first, later, hstep, hlater, rfl⟩ := exists_of_run?_cons h
    obtain ⟨outcomes, hfirst⟩ := hstep.ends sound
    obtain ⟨outcomes', hrest⟩ := ih (hstep.sound sound) hlater
    exact ⟨outcomes ++ outcomes', hfirst.append hrest⟩

/-! ### Answers -/

/-- An answer in place of every other. -/
def noAnswer : Reply := .unreachable ""

/-- The step, whatever the answer. -/
def Step.unanswered : Step → Step
  | .take host stamp _ => .take host stamp noAnswer
  | step => step

/-- The relay, whatever answer its emitter waits for. -/
def unanswered (relay : Relay) : Relay :=
  match relay.emitter with
  | .asking _ => { relay with emitter := .asking noAnswer }
  | _ => relay

/-- The requests that were sent, and where they left the relay, whatever the answers. -/
def unheard (done : Traced Entry Relay) : Relay × List Request :=
  (done.value.unanswered, (talk done.trace).map Prod.fst)

theorem step?_unanswered (relay : Relay) (step : Step) :
    (relay.unanswered.step? space step.unanswered).map unheard =
      (relay.step? space step).map unheard := by
  obtain ⟨recorders, queue, emitter⟩ := relay
  cases step with
  | record | clone | drop => cases emitter <;> cases recorders <;> rfl
  | take host stamp reply =>
    cases emitter with
    | ready =>
      simp only [unanswered, Step.unanswered, step?, dispatch]
      obtain _ | ⟨event, rest⟩ := queue.next?
      · rfl
      · dsimp only
        cases (createEvent (Reporter.clusterEvent ⟨space, host, stamp⟩ event)).fault? <;> rfl
    | _ => rfl
  | hear =>
    cases emitter with
    | asking =>
      simp only [unanswered, Step.unanswered, step?, Option.map_some, unheard, talk_creationLog]
    | _ => rfl
  | finish => cases emitter <;> rfl

/-- What a step does depends on answers only in the answer that is waited for. -/
theorem step?_congr (hrelay : relay.unanswered = other.unanswered)
    (hstep : step.unanswered = step'.unanswered) :
    (relay.step? space step).map unheard = (other.step? space step').map unheard := by
  rw [← step?_unanswered relay, hrelay, hstep, step?_unanswered]

theorem map_unheard_append (trace : List Entry) (run : Option (Traced Entry Relay)) :
    (run.map fun done => ⟨done.value, trace ++ done.trace⟩).map unheard =
      (run.map unheard).map fun seen => (seen.1, (talk trace).map Prod.fst ++ seen.2) := by
  cases run with
  | none => rfl
  | some done => simp only [Option.map_some, unheard, talk_append, List.map_append]

/-- What is sent, and where it leaves the relay, does not depend on the answers. -/
theorem run?_congr (hrelay : relay.unanswered = other.unanswered)
    (hsteps : steps.map Step.unanswered = steps'.map Step.unanswered) :
    (run? space relay steps).map unheard = (run? space other steps').map unheard := by
  induction steps generalizing relay other steps' with
  | nil =>
    obtain rfl := List.map_eq_nil_iff.1 hsteps.symm
    simp only [run?, Option.map_some, unheard, hrelay]
  | cons step rest ih =>
    cases steps' with
    | nil => cases hsteps
    | cons step' rest' =>
      obtain ⟨hstep, hrest⟩ := List.cons.inj hsteps
      have hfirst : (relay.step? space step).map unheard = (other.step? space step').map unheard :=
        step?_congr hrelay hstep
      rw [run?, run?]
      cases h : relay.step? space step with
      | none =>
        rw [h] at hfirst
        rw [Option.map_eq_none_iff.1 hfirst.symm]
      | some first =>
        rw [h] at hfirst
        obtain ⟨first', h', hseen⟩ := Option.map_eq_some_iff.1 hfirst.symm
        obtain ⟨hvalue, hrequests⟩ := Prod.mk.inj hseen
        rw [h', map_unheard_append, map_unheard_append, hrequests, ih hvalue.symm hrest]

/-! ### The end -/

/-- A bound on the steps that an emitter can still take when nothing more is recorded: two for each
event that waits, one to hear an answer, and the last. -/
def remaining (relay : Relay) : Nat :=
  match relay.emitter with
  | .ready => 2 * relay.queue.waiting.length + 1
  | .asking _ => 2 * relay.queue.waiting.length + 2
  | .ended => 0

theorem Moves.remaining_lt (h : Moves space relay step next) (alone : relay.recorders = 0) :
    next.value.recorders = 0 ∧ next.value.remaining < relay.remaining := by
  cases h with
  | record present | clone present | drop present => exact absurd alone present
  | takeUnsent ready taken | takeSent ready taken =>
    obtain ⟨hwaiting, -⟩ := EventQueue.next?_eq_some_iff.1 taken
    refine ⟨alone, ?_⟩
    simp only [remaining, ready, hwaiting, List.length_cons]
    omega
  | hear asking =>
    refine ⟨alone, ?_⟩
    simp only [remaining, asking]
    omega
  | finish ready =>
    refine ⟨alone, ?_⟩
    simp only [remaining, ready]
    omega

/-- Without recorders an emitter ends after so many steps at most. -/
theorem length_add_remaining_le (alone : relay.recorders = 0)
    (h : run? space relay steps = some done) :
    done.value.recorders = 0 ∧ steps.length + done.value.remaining ≤ relay.remaining := by
  induction steps generalizing relay done with
  | nil =>
    cases h
    exact ⟨alone, Nat.le_of_eq (Nat.zero_add _)⟩
  | cons step rest ih =>
    obtain ⟨first, later, hstep, hlater, rfl⟩ := exists_of_run?_cons h
    obtain ⟨halone, hlt⟩ := hstep.remaining_lt alone
    obtain ⟨hdone, hle⟩ := ih halone hlater
    refine ⟨hdone, ?_⟩
    show rest.length + 1 + later.value.remaining ≤ _
    omega

/-- Without recorders an emitter that has not ended can take a step. -/
theorem exists_step?_of_not_ended (space : String) (alone : relay.recorders = 0)
    (h : relay.emitter ≠ .ended) : ∃ step next, relay.step? space step = some next := by
  obtain ⟨recorders, ⟨waiting, isOpen⟩, emitter⟩ := relay
  cases alone
  cases emitter with
  | ready =>
    cases waiting with
    | nil => exact ⟨.finish, _, rfl⟩
    | cons event rest => exact ⟨.take none "" noAnswer, _, rfl⟩
  | asking reply => exact ⟨.hear, _, rfl⟩
  | ended => exact absurd rfl h

/-! ### Every event once -/

/-- Let recorders record, be cloned and be dropped in any order between the steps of the emitter,
and let the API server answer as it likes. Then the events handed over so far, one for each time
that the emitter took one, and those that still wait are those that were recorded, in their order.
There is one request for each event handed over, in order, made in the namespace and with the
event's type, reason and message; if the namespace cannot stand in a request there is none at all.
Each creation handed over, but the one whose answer is waited for, has ended, in order: as it was
answered, or as a request that cannot be sent if the namespace cannot stand in one. The log lines
are those of the recorded events, one for each creation that failed, and at the end the emitter's
last. Other answers would have changed neither the requests nor what is left. An emitter that has
ended has left no recorder and no event, and without recorders an emitter has a bounded number of
steps before it and takes them until it ends. -/
theorem each_event_posted_once_in_order {recorders : Nat} {trace : List Entry}
    (h : run? space (start recorders) steps = some ⟨relay, trace⟩) :
    (∃ (handed : List Event) (sent : List ClusterEvent) (outcomes : List (Except Failure Unit)),
      handed ++ relay.queue.waiting = steps.filterMap Step.event? ∧
      handed.length = steps.countP Step.isTake ∧
      (talk trace).map Prod.fst = sent.map createEvent ∧
      sent.map (·.event) = (if CanHoldEvents space then handed else []) ∧
      (∀ e ∈ sent, (createEvent e).Announces space e.event) ∧
      outcomes.length + relay.awaited.length = handed.length ∧
      (CanHoldEvents space → outcomes ++ relay.awaited.map heard =
        (talk trace).map fun exchange => heard exchange.2) ∧
      (¬ CanHoldEvents space → relay.awaited = [] ∧
        ∀ outcome ∈ outcomes, ∃ fault, outcome = .error (.unsendable fault)) ∧
      (logLines trace).Perm ((steps.filterMap Step.event?).map (.logged ·.logLine) ++
        outcomes.flatMap creationLog ++ relay.farewell)) ∧
    (∀ others, others.map Step.unanswered = steps.map Step.unanswered →
      (run? space (start recorders) others).map unheard = some (unheard ⟨relay, trace⟩)) ∧
    (relay.emitter = .ended → relay.recorders = 0 ∧ relay.queue.waiting = []) ∧
    (relay.recorders = 0 → ∀ more done, run? space relay more = some done →
      more.length ≤ relay.remaining ∧
        (done.value.emitter = .ended ∨
          ∃ step next, done.value.step? space step = some next)) := by
  have sound := sound_start recorders
  obtain ⟨handed, hhanded, hlength, sent, hrequests, hevents, hspace⟩ := run?_hands_over sound h
  obtain ⟨outcomes, hends⟩ := exists_ends_of_run? sound h
  refine ⟨⟨handed, sent, outcomes, hhanded, hlength, hrequests, hevents, fun e he => ?_, ?_,
    fun hcan => (hends.answered hcan).symm, fun hcannot => hends.failed hcannot rfl, ?_⟩,
    fun others hothers => ?_, (sound.run? h).ended, fun alone more done hmore => ?_⟩
  · rw [← hspace e he]
    exact announces_createEvent e
  · have hcount : 0 + steps.countP Step.isTake = outcomes.length + relay.awaited.length :=
      hends.count
    omega
  · have hlog := hends.log
    rwa [show (start recorders).farewell = [] from rfl, List.append_nil] at hlog
  · rw [run?_congr rfl hothers, h]
    rfl
  · obtain ⟨halone, hle⟩ := length_add_remaining_le alone hmore
    refine ⟨Nat.le_of_add_right_le hle, ?_⟩
    exact Decidable.or_iff_not_imp_left.2 (exists_step?_of_not_ended space halone)

/-- Two events of which the first is refused. -/
def refusedSchedule : List Step :=
  [.record ⟨.warning, "First", "refused"⟩, .clone, .take none "1" (.answered 403 (.raw "")),
    .record ⟨.normal, "Second", "accepted"⟩, .drop, .hear, .drop,
    .take none "2" (.answered 201 (.tree Json.empty)), .hear, .finish]

theorem posted_despite_refusal :
    ∃ relay trace, run? "operand" (start 1) refusedSchedule = some ⟨relay, trace⟩ ∧
      relay.emitter = .ended ∧ ∃ sent : List ClusterEvent,
        (talk trace).map Prod.fst = sent.map createEvent ∧
        sent.map (·.event) =
          [⟨.warning, "First", "refused"⟩, ⟨.normal, "Second", "accepted"⟩] := by
  obtain ⟨relay, trace, hrun, hended, hdrained⟩ : ∃ relay trace,
      run? "operand" (start 1) refusedSchedule = some ⟨relay, trace⟩ ∧ relay.emitter = .ended ∧
        relay.queue.waiting = [] := ⟨_, _, rfl, rfl, rfl⟩
  obtain ⟨⟨handed, sent, -, hhanded, -, hrequests, hevents, -⟩, -⟩ :=
    each_event_posted_once_in_order hrun
  rw [hdrained, List.append_nil] at hhanded
  rw [if_pos (by decide), hhanded] at hevents
  exact ⟨relay, trace, hrun, hended, sent, hrequests, hevents⟩

/-- A namespace with a blank in it cannot stand in a request: an event is taken out of the queue and
no request is sent for it. -/
theorem unposted_in_blank_namespace :
    ∃ relay trace, run? "a b" (start 1)
        [.record ⟨.warning, "First", "lost"⟩, .take none "1" (.answered 201 (.raw ""))] =
          some ⟨relay, trace⟩ ∧
      ¬ ∃ sent : List ClusterEvent, (talk trace).map Prod.fst = sent.map createEvent ∧
        sent.map (·.event) ++ relay.queue.waiting = [⟨.warning, "First", "lost"⟩] := by
  obtain ⟨relay, trace, hrun, htalk, hdrained⟩ : ∃ relay trace,
      run? "a b" (start 1)
        [.record ⟨.warning, "First", "lost"⟩, .take none "1" (.answered 201 (.raw ""))] =
          some ⟨relay, trace⟩ ∧
      talk trace = [] ∧ relay.queue.waiting = [] := ⟨_, _, rfl, rfl, rfl⟩
  refine ⟨relay, trace, hrun, ?_⟩
  rintro ⟨sent, hrequests, hevents⟩
  rw [htalk] at hrequests
  obtain rfl := List.map_eq_nil_iff.1 hrequests.symm
  rw [hdrained] at hevents
  cases hevents

/-! ### Emitting without recorders -/

theorem run?_append {before : Traced Entry Relay} (h : run? space relay steps = some before)
    (h' : run? space before.value steps' = some done) :
    run? space relay (steps ++ steps') = some ⟨done.value, before.trace ++ done.trace⟩ := by
  induction steps generalizing relay before done with
  | nil =>
    cases h
    exact h'
  | cons step rest ih =>
    rw [run?] at h
    split at h
    · cases h
    · next first hfirst =>
      obtain ⟨later, hlater, rfl⟩ := Option.map_eq_some_iff.1 h
      rw [List.cons_append, run?, hfirst]
      show Option.map _ (run? space first.value (rest ++ steps')) = _
      rw [ih hlater h', Option.map_some, List.append_assoc]

variable {σ : Type} {reporter : Reporter} {api : Api σ}

theorem trace_emit (event : Event) (s : σ) :
    (reporter.emit api event s).trace =
      (Exchange.createEvent api (reporter.clusterEvent event) s).trace ++
        creationLog (Exchange.createEvent api (reporter.clusterEvent event) s).value.1 := by
  rw [Reporter.emit, Exchange.bind_apply]
  cases (Exchange.createEvent api (reporter.clusterEvent event) s).value.1 <;> rfl

variable (reporter) (api)

theorem exists_run?_emit (recorders : Nat) (isOpen : Bool) (event : Event) (rest : List Event)
    (s : σ) : ∃ steps, run? reporter.space ⟨recorders, ⟨event :: rest, isOpen⟩, .ready⟩ steps =
      some ⟨⟨recorders, ⟨rest, isOpen⟩, .ready⟩, (reporter.emit api event s).trace⟩ := by
  rw [trace_emit, Exchange.createEvent]
  cases hfault : (createEvent (reporter.clusterEvent event)).fault? with
  | some fault =>
    refine ⟨[.take reporter.host reporter.stamp noAnswer], ?_⟩
    rw [Exchange.ask_of_fault hfault]
    simp only [run?, step?, EventQueue.next?, dispatch, hfault, Option.map_some, List.append_nil,
      List.nil_append]
  | none =>
    refine ⟨[.take reporter.host reporter.stamp
      (api.answer (createEvent (reporter.clusterEvent event)) s).1, .hear], ?_⟩
    rw [Exchange.ask_of_sendable hfault]
    simp only [run?, step?, EventQueue.next?, dispatch, hfault, Option.map_some, List.append_nil]

theorem exists_run?_emitAll (recorders : Nat) (isOpen : Bool) (events : List Event) (s : σ) :
    ∃ steps, run? reporter.space ⟨recorders, ⟨events, isOpen⟩, .ready⟩ steps =
      some ⟨⟨recorders, ⟨[], isOpen⟩, .ready⟩, (reporter.emitAll api events s).trace⟩ := by
  induction events generalizing s with
  | nil => exact ⟨[], rfl⟩
  | cons event rest ih =>
    obtain ⟨first, hfirst⟩ := exists_run?_emit reporter api recorders isOpen event rest s
    obtain ⟨later, hlater⟩ := ih (reporter.emit api event s).value.2
    exact ⟨first ++ later, run?_append hfirst hlater⟩

/-- Emitting what waits in a queue is what an emitter does when there are no recorders. -/
theorem exists_run?_drain (queue : EventQueue) (s : σ) :
    ∃ steps, run? reporter.space ⟨0, queue, .ready⟩ steps =
      some ⟨⟨0, ⟨[], false⟩, .ended⟩, (reporter.drain api queue s).trace⟩ := by
  obtain ⟨steps, hsteps⟩ := exists_run?_emitAll reporter api 0 queue.isOpen queue.waiting s
  have hfinish : run? reporter.space ⟨0, ⟨[], queue.isOpen⟩, .ready⟩ [.finish] =
      some ⟨⟨0, ⟨[], false⟩, .ended⟩, [.logged ⟨.debug, "Event emitter stopped"⟩]⟩ := rfl
  exact ⟨steps ++ [.finish], run?_append hsteps hfinish⟩

end Operator.Relay

end CloudFlags
