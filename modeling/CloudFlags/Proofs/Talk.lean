import CloudFlags.Proofs.Pass

/-! What is said to the API server: the requests in a trace, in order, each with its answer.
Logging, counting and heeding an observation say nothing, so the talk of a pass is that of
publishing its tree and then that of carrying out the rules. -/

namespace CloudFlags

open Api Resource

/-- The request that is sent with an entry, and its answer. -/
def Entry.exchange? : Entry → Option (Request × Reply)
  | .sent request reply => some (request, reply)
  | _ => none

/-- The requests of a trace with their answers. -/
def talk (trace : List Entry) : List (Request × Reply) := trace.filterMap Entry.exchange?

@[simp] theorem talk_append (first second : List Entry) :
    talk (first ++ second) = talk first ++ talk second := List.filterMap_append

theorem mem_talk {trace : List Entry} {request : Request} {reply : Reply} :
    (request, reply) ∈ talk trace ↔ .sent request reply ∈ trace := by
  rw [talk, List.mem_filterMap]
  constructor
  · rintro ⟨entry, hentry, hsent⟩
    cases entry with
    | sent =>
      cases hsent
      exact hentry
    | _ => cases hsent
  · exact fun h => ⟨_, h, rfl⟩

namespace Exchange

variable {σ α : Type} {api : Api σ} {request : Request} {shape : Json.Shape α}

@[simp] theorem talk_log (level : Level) (text : String) (s : σ) :
    talk (log level text s).trace = [] := rfl

@[simp] theorem talk_count (counter : Counter) (s : σ) : talk (count counter s).trace = [] := rfl

theorem ask_of_fault {fault : RequestFault} (h : request.fault? = some fault) (s : σ) :
    ask api request shape s = ⟨(.error (.unsendable fault), s), []⟩ := by
  rw [ask, h]
  rfl

theorem ask_of_sendable (h : request.fault? = none) (s : σ) :
    ask api request shape s =
      ⟨((api.answer request s).1.read shape, (api.answer request s).2),
        [.sent request (api.answer request s).1]⟩ := by
  rw [ask, h]
  rfl

end Exchange

namespace Operator

theorem Memory.talk_heed (memory : Memory) (notice : Notice) :
    talk (memory.heed notice).trace = [] := by
  cases notice with
  | lookedUp => rfl
  | recorded event =>
    simp only [heed, Traced.bind_trace, Traced.pure_trace, List.append_nil, record]
    cases memory.queue.isOpen <;> rfl
  | requested rule accepted =>
    cases accepted with
    | false => rfl
    | true =>
      simp only [heed, enforce, SyncRules.enforcementLog]
      cases memory.rules.holds rule <;> rfl
  | warned => rfl

/-- Heeding what was observed sends nothing. -/
@[simp] theorem Memory.talk_heedAll (memory : Memory) (notices : List Notice) :
    talk (memory.heedAll notices).trace = [] := by
  induction notices generalizing memory with
  | nil => rfl
  | cons notice rest ih =>
    simp only [heedAll, Traced.bind_trace, talk_append, Memory.talk_heed, ih, List.append_nil]

namespace Occasion

variable {σ : Type} {o : Observer} {api : Api σ} {x : Occasion σ}

/-- The talk of a pass that comes to carrying out rules. -/
theorem talk_outcome_of_publishes (h : x.Publishes o api) :
    talk (x.outcome o api).trace =
      talk (x.publication o api).trace ++ talk (x.reconciliation o api).trace := by
  rw [outcome_of_publishes h]
  simp only [talk_append, heeding, Memory.talk_heedAll, List.nil_append]

/-- The talk of one that does not. -/
theorem talk_outcome_of_not_publishes (h : ¬ x.Publishes o api) :
    talk (x.outcome o api).trace = talk (x.publication o api).trace := by
  obtain ⟨e, he⟩ := exists_error_of_not_publishes h
  rw [outcome_of_unpublished he]
  simp only [talk_append, heeding, Memory.talk_heedAll, List.nil_append]

end Occasion

end Operator

end CloudFlags
