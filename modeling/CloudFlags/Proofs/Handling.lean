import CloudFlags.Proofs.Talk

/-! How rules are handled, whatever the server answers. A rule is handled by reading its source and
then writing at most once: its destination is removed only where the source is nowhere or is said
not to exist, and is written only with what was read. A reading that fails in any other way ends the
handling. All rules together are handled in order, up to the first that fails
(`copies_follow_readings`). -/

namespace CloudFlags

open Api Json Resource

theorem Location.isNowhere_iff {l : Location} : l.isNowhere = true ↔ l = .nowhere := by
  rw [isNowhere, Bool.and_eq_true, String.isEmpty_iff, String.isEmpty_iff]
  constructor
  · rintro ⟨hspace, hname⟩
    cases l
    cases hspace
    cases hname
    rfl
  · rintro rfl
    exact ⟨rfl, rfl⟩

theorem Api.Failure.isAbsence_iff {failure : Failure} :
    failure.isAbsence = true ↔
      ∃ rejection, failure = .rejected rejection ∧ rejection.reason = "NotFound" := by
  cases failure with
  | rejected rejection =>
    simp only [isAbsence, beq_iff_eq, Failure.rejected.injEq, exists_eq_left']
  | _ => simp only [isAbsence, Bool.false_eq_true, reduceCtorEq, false_and, exists_false]

theorem Api.Failure.isGone_iff {failure : Failure} :
    failure.isGone = true ↔ ∃ rejection, failure = .rejected rejection ∧ rejection.code = 404 := by
  cases failure with
  | rejected rejection =>
    simp only [isGone, beq_iff_eq, Failure.rejected.injEq, exists_eq_left']
  | _ => simp only [isGone, Bool.false_eq_true, reduceCtorEq, false_and, exists_false]

/-- The rules are in the order of their destinations. -/
theorem SyncRules.pairwise_toList (rules : SyncRules) :
    rules.toList.Pairwise (·.destination < ·.destination) :=
  List.pairwise_map.2 rules.sorted

/-- What may be written to carry out a rule, by the answer to reading its source; without an answer,
nothing but the removal where the source is nowhere. -/
inductive SyncRule.Allows (rule : SyncRule) : Option Reply → Request → Prop where
  | nowhere (h : rule.source = .nowhere) : rule.Allows none (.removeMap rule.destination)
  | absent {reply : Reply} {rejection : Rejection}
      (h : reply.read ConfigMap.shape = .error (.rejected rejection))
      (reason : rejection.reason = "NotFound") :
      rule.Allows (some reply) (.removeMap rule.destination)
  | copy {reply : Reply} {map : ConfigMap} (h : reply.read ConfigMap.shape = .ok map) :
      rule.Allows (some reply) (.applyMap rule.destination map.contents)

namespace SyncRule

variable {rule : SyncRule} {reply : Reply} {request : Request}

theorem allows_none_iff :
    rule.Allows none request ↔ rule.source = .nowhere ∧ request = .removeMap rule.destination := by
  constructor
  · rintro ⟨h⟩
    exact ⟨h, rfl⟩
  · rintro ⟨h, rfl⟩
    exact .nowhere h

theorem allows_some_ok_iff {map : ConfigMap} (h : reply.read ConfigMap.shape = .ok map) :
    rule.Allows (some reply) request ↔ request = .applyMap rule.destination map.contents := by
  constructor
  · rintro (_ | ⟨hother, -⟩ | hother)
    · cases h.symm.trans hother
    · cases h.symm.trans hother
      rfl
  · rintro rfl
    exact .copy h

theorem allows_some_error_iff {failure : Failure}
    (h : reply.read ConfigMap.shape = .error failure) :
    rule.Allows (some reply) request ↔
      failure.isAbsence = true ∧ request = .removeMap rule.destination := by
  constructor
  · rintro (_ | ⟨hother, reason⟩ | hother)
    · cases h.symm.trans hother
      exact ⟨Failure.isAbsence_iff.2 ⟨_, rfl, reason⟩, rfl⟩
    · cases h.symm.trans hother
  · rintro ⟨absence, rfl⟩
    obtain ⟨rejection, rfl, reason⟩ := Failure.isAbsence_iff.1 absence
    exact .absent h reason

end SyncRule

/-- The answer says that a config map is written or removed as was asked. One that is not there
needs no removing. -/
def Api.Reply.Acknowledges (reply : Reply) : Request → Prop
  | .applyMap .. => reply.read (ConfigMap.shape.map fun _ => ()) = .ok ()
  | .removeMap _ =>
    reply.read Status.removalShape = .ok () ∨
      ∃ rejection, reply.read Status.removalShape = .error (.rejected rejection) ∧
        rejection.code = 404
  | _ => False

namespace Exchange

variable {σ α : Type} {api : Api σ} {request : Request}

/-- What is said if the request can be sent. -/
def exchanged? (api : Api σ) (request : Request) (s : σ) : Option (Request × Reply) :=
  match request.fault? with
  | some _ => none
  | none => some (request, (api.answer request s).1)

theorem exchanged?_of_fault {fault : RequestFault} (h : request.fault? = some fault) (s : σ) :
    exchanged? api request s = none := by
  rw [exchanged?, h]

theorem exchanged?_of_sendable (h : request.fault? = none) (s : σ) :
    exchanged? api request s = some (request, (api.answer request s).1) := by
  rw [exchanged?, h]

theorem exists_exchanged?_iff {s : σ} {other : Request} :
    (∃ reply, exchanged? api request s = some (other, reply)) ↔
      other = request ∧ request.fault? = none := by
  cases h : request.fault? with
  | some fault =>
    rw [exchanged?_of_fault h]
    simp only [reduceCtorEq, exists_false, and_false]
  | none =>
    rw [exchanged?_of_sendable h]
    constructor
    · rintro ⟨reply, heq⟩
      cases heq
      exact ⟨rfl, rfl⟩
    · rintro ⟨rfl, -⟩
      exact ⟨_, rfl⟩

theorem talk_ask (shape : Shape α) (s : σ) :
    talk (ask api request shape s).trace = (exchanged? api request s).toList := by
  cases h : request.fault? with
  | some fault =>
    rw [exchanged?_of_fault h, ask_of_fault h]
    rfl
  | none =>
    rw [exchanged?_of_sendable h, ask_of_sendable h]
    rfl

/-- Work that sends one request succeeds if the answer acknowledges it. -/
theorem exists_acknowledged_iff (h : request.fault? = none) (s : σ) :
    (∃ sent reply, exchanged? api request s = some (sent, reply) ∧ reply.Acknowledges sent) ↔
      (api.answer request s).1.Acknowledges request := by
  rw [exchanged?_of_sendable h]
  constructor
  · rintro ⟨_, _, heq, hreply⟩
    cases heq
    exact hreply
  · exact fun hreply => ⟨_, _, rfl, hreply⟩

end Exchange

namespace Operator

open Exchange

/-- How a rule was handled: the answer to reading its source and what was written with the answer to
that, as far as these were sent, and what it came to. -/
structure Handling where
  rule : SyncRule
  read? : Option Reply
  written? : Option (Request × Reply)
  result : Except Error Unit

namespace Handling

/-- What was said, in order. -/
def said (handling : Handling) : List (Request × Reply) :=
  (handling.read?.map fun reply => (.readMap handling.rule.source, reply)).toList ++
    handling.written?.toList

/-- The rule was handled as it should be. -/
structure Proper (handling : Handling) : Prop where
  /-- The source is read unless it is nowhere, if it can be asked for. -/
  read_iff : handling.read?.isSome ↔
    handling.rule.source ≠ .nowhere ∧ (Request.readMap handling.rule.source).fault? = none
  /-- What is allowed is written, if it can be sent, and nothing else. -/
  written_iff (request : Request) : (∃ reply, handling.written? = some (request, reply)) ↔
    handling.rule.Allows handling.read? request ∧ request.fault? = none
  /-- It succeeds if something was written and acknowledged. -/
  ok_iff : handling.result = .ok () ↔
    ∃ request reply, handling.written? = some (request, reply) ∧ reply.Acknowledges request

end Handling

/-- Rules were handled in order, up to the first that failed. -/
structure HandledInOrder (rules : List SyncRule) (done : List Handling)
    (result : Except Error Unit) : Prop where
  inOrder : done.map Handling.rule <+: rules
  proper : ∀ handling ∈ done, handling.Proper
  /-- After a rule that failed no other was handled. -/
  stops : ∀ handling ∈ done.dropLast, handling.result = .ok ()
  ok_iff : result = .ok () ↔
    done.map Handling.rule = rules ∧ ∀ handling ∈ done, handling.result = .ok ()
  /-- What failed is the last. -/
  failed (e : Error) : result = .error e →
    ∃ handling, done.getLast? = some handling ∧ handling.result = .error e

variable {σ : Type} {api : Api σ} {rule : SyncRule}

/-! ### One rule -/

theorem readSource_of_nowhere {source : Location} (h : source = .nowhere) :
    readSource api source = pure (.ok none) := by
  rw [readSource, if_pos (Location.isNowhere_iff.2 h)]

theorem readSource_of_fault {source : Location} {fault : RequestFault}
    (hsomewhere : source ≠ .nowhere) (h : (Request.readMap source).fault? = some fault) (s : σ) :
    readSource api source s = ⟨(.error (.unsendable fault), s), []⟩ := by
  rw [readSource, if_neg (mt Location.isNowhere_iff.1 hsomewhere)]
  simp only [readMap, bind_apply, ask_of_fault h]
  rfl

theorem readSource_of_sendable {source : Location} {reply : Reply} {s s' : σ}
    (hsomewhere : source ≠ .nowhere) (h : (Request.readMap source).fault? = none)
    (hanswer : api.answer (.readMap source) s = (reply, s')) :
    readSource api source s =
      ⟨(match reply.read ConfigMap.shape with
        | .ok map => .ok (some map)
        | .error failure => if failure.isAbsence then .ok none else .error failure, s'),
        [.sent (.readMap source) reply]⟩ := by
  rw [readSource, if_neg (mt Location.isNowhere_iff.1 hsomewhere)]
  simp only [readMap, bind_apply, ask_of_sendable h, hanswer]
  cases reply.read ConfigMap.shape <;> rfl

theorem talk_removeCopy (destination : Location) (s : σ) :
    talk (removeCopy api destination s).trace =
      (exchanged? api (.removeMap destination) s).toList := by
  rw [← talk_ask Status.removalShape, removeCopy, bind_apply, removeMap]
  cases (ask api (.removeMap destination) Status.removalShape s).value.1 with
  | ok _ => simp only [bind_apply, pure_apply, talk_append, talk_log, List.append_nil]
  | error failure =>
    cases hgone : failure.isGone <;>
      simp only [hgone, ↓reduceIte, Bool.false_eq_true, bind_apply, pure_apply, talk_append,
        talk_count, List.append_nil]

theorem talk_writeCopy (contents : Contents) (s : σ) :
    talk (writeCopy api rule contents s).trace =
      (exchanged? api (.applyMap rule.destination contents) s).toList := by
  rw [← talk_ask (ConfigMap.shape.map fun _ => ()), writeCopy, bind_apply, applyMap]
  cases (ask api (.applyMap rule.destination contents) _ s).value.1 <;>
    simp only [bind_apply, pure_apply, talk_append, talk_log, talk_count, List.append_nil]

/-- A source that can be read is copied. -/
theorem talk_carryOut_of_read {map : ConfigMap} {s : σ} (hsomewhere : rule.source ≠ .nowhere)
    (sendable : (Request.readMap rule.source).fault? = none)
    (hread : (api.answer (.readMap rule.source) s).1.read ConfigMap.shape = .ok map) :
    talk (carryOut api rule s).trace =
      (.readMap rule.source, (api.answer (.readMap rule.source) s).1) ::
        (exchanged? api (.applyMap rule.destination map.contents)
          (api.answer (.readMap rule.source) s).2).toList := by
  have hsource := @readSource_of_sendable σ api rule.source _ s _ hsomewhere sendable rfl
  simp only [carryOut, bind_apply, hsource, hread]
  exact congrArg (_ :: ·) (talk_writeCopy map.contents _)

theorem removeCopy_of_fault {destination : Location} {fault : RequestFault}
    (h : (Request.removeMap destination).fault? = some fault) (s : σ) :
    (removeCopy api destination s).value = (.error (.api (.unsendable fault)), s) := by
  simp only [removeCopy, removeMap, ask_of_fault h, bind_apply]
  rfl

theorem writeCopy_of_fault {contents : Contents} {fault : RequestFault}
    (h : (Request.applyMap rule.destination contents).fault? = some fault) (s : σ) :
    (writeCopy api rule contents s).value = (.error (.api (.unsendable fault)), s) := by
  simp only [writeCopy, applyMap, ask_of_fault h, bind_apply]
  rfl

theorem removeCopy_ok_iff (destination : Location) (s : σ) :
    (removeCopy api destination s).value.1 = .ok () ↔
      ∃ request reply, exchanged? api (.removeMap destination) s = some (request, reply) ∧
        reply.Acknowledges request := by
  cases h : (Request.removeMap destination).fault? with
  | some fault =>
    simp only [removeCopy_of_fault h, exchanged?_of_fault h, reduceCtorEq, false_and, exists_false]
  | none =>
    rw [exists_acknowledged_iff h, Reply.Acknowledges]
    simp only [removeCopy, removeMap, ask_of_sendable h, bind_apply]
    cases (api.answer (.removeMap destination) s).1.read Status.removalShape with
    | ok _ => exact iff_of_true rfl (.inl rfl)
    | error failure =>
      simp only [reduceCtorEq, false_or, Except.error.injEq, ← Failure.isGone_iff]
      cases failure.isGone with
      | true => exact iff_of_true rfl rfl
      | false => simp only [Bool.false_eq_true, ↓reduceIte, bind_apply, pure_apply, reduceCtorEq]

theorem writeCopy_ok_iff (contents : Contents) (s : σ) :
    (writeCopy api rule contents s).value.1 = .ok () ↔
      ∃ request reply, exchanged? api (.applyMap rule.destination contents) s =
        some (request, reply) ∧ reply.Acknowledges request := by
  cases h : (Request.applyMap rule.destination contents).fault? with
  | some fault =>
    simp only [writeCopy_of_fault h, exchanged?_of_fault h, reduceCtorEq, false_and, exists_false]
  | none =>
    rw [exists_acknowledged_iff h, Reply.Acknowledges]
    simp only [writeCopy, applyMap, ask_of_sendable h, bind_apply]
    cases (api.answer (.applyMap rule.destination contents) s).1.read _ with
    | ok _ => exact iff_of_true rfl rfl
    | error failure => simp only [bind_apply, pure_apply, reduceCtorEq]

theorem Handling.Proper.of_exchanged {read? : Option Reply} {request : Request} {s : σ}
    {result : Except Error Unit}
    (hread : read?.isSome ↔ rule.source ≠ .nowhere ∧ (Request.readMap rule.source).fault? = none)
    (hallows : ∀ other, rule.Allows read? other ↔ other = request)
    (hresult : result = .ok () ↔
      ∃ sent reply, exchanged? api request s = some (sent, reply) ∧ reply.Acknowledges sent) :
    Handling.Proper ⟨rule, read?, exchanged? api request s, result⟩ where
  read_iff := hread
  written_iff other := by
    rw [exists_exchanged?_iff, hallows]
    constructor
    · rintro ⟨rfl, h⟩
      exact ⟨rfl, h⟩
    · rintro ⟨rfl, h⟩
      exact ⟨rfl, h⟩
  ok_iff := hresult

theorem Handling.Proper.of_error {read? : Option Reply} {e : Error}
    (hread : read?.isSome ↔ rule.source ≠ .nowhere ∧ (Request.readMap rule.source).fault? = none)
    (hallows : ∀ request, ¬ rule.Allows read? request) :
    Handling.Proper ⟨rule, read?, none, .error e⟩ where
  read_iff := hread
  written_iff request := by simp only [reduceCtorEq, exists_false, hallows, false_and]
  ok_iff := by simp only [reduceCtorEq, false_and, exists_false]

/-- The handling is that of a rule by some work: of what it said, and what it came to. -/
structure Handling.Of (handling : Handling) (rule : SyncRule)
    (work : Traced Entry (Except Error Unit × σ)) : Prop where
  rule_eq : handling.rule = rule
  proper : handling.Proper
  talk_eq : talk work.trace = handling.said
  result_eq : work.value.1 = handling.result

theorem exists_handling_of_nowhere (h : rule.source = .nowhere) (s : σ) :
    ∃ handling : Handling, handling.Of rule (carryOut api rule s) := by
  have hread : (none : Option Reply).isSome ↔
      rule.source ≠ .nowhere ∧ (Request.readMap rule.source).fault? = none :=
    iff_of_false Bool.false_ne_true fun hsome => hsome.1 h
  have hallows (request : Request) :
      rule.Allows none request ↔ request = .removeMap rule.destination :=
    SyncRule.allows_none_iff.trans (and_iff_right h)
  simp only [carryOut, bind_apply, readSource_of_nowhere h, pure_apply, List.nil_append]
  exact ⟨⟨rule, none, _, _⟩, rfl, .of_exchanged hread hallows (removeCopy_ok_iff _ s),
    talk_removeCopy _ s, rfl⟩

theorem exists_handling_of_fault {fault : RequestFault} (hsomewhere : rule.source ≠ .nowhere)
    (h : (Request.readMap rule.source).fault? = some fault) (s : σ) :
    ∃ handling : Handling, handling.Of rule (carryOut api rule s) := by
  have hread : (none : Option Reply).isSome ↔
      rule.source ≠ .nowhere ∧ (Request.readMap rule.source).fault? = none :=
    iff_of_false Bool.false_ne_true fun hsome => Option.some_ne_none fault (h ▸ hsome.2)
  have hallows (request : Request) : ¬ rule.Allows none request :=
    fun h => hsomewhere (SyncRule.allows_none_iff.1 h).1
  simp only [carryOut, bind_apply, readSource_of_fault hsomewhere h]
  exact ⟨⟨rule, none, none, _⟩, rfl, .of_error hread hallows, rfl, rfl⟩

/-- What is read decides what is written. -/
theorem exists_handling_of_read (hsomewhere : rule.source ≠ .nowhere)
    (h : (Request.readMap rule.source).fault? = none) (s : σ) :
    ∃ handling : Handling, handling.Of rule (carryOut api rule s) := by
  obtain ⟨reply, s', hanswer⟩ : ∃ reply s', api.answer (.readMap rule.source) s = (reply, s') :=
    ⟨_, _, rfl⟩
  have hread : (some reply).isSome ↔
      rule.source ≠ .nowhere ∧ (Request.readMap rule.source).fault? = none :=
    iff_of_true rfl ⟨hsomewhere, h⟩
  simp only [carryOut, bind_apply, readSource_of_sendable hsomewhere h hanswer]
  cases hreply : reply.read ConfigMap.shape with
  | ok map =>
    have hallows (request : Request) : rule.Allows (some reply) request ↔
        request = .applyMap rule.destination map.contents := SyncRule.allows_some_ok_iff hreply
    refine ⟨⟨rule, some reply, _, _⟩, rfl,
      .of_exchanged hread hallows (writeCopy_ok_iff _ s'), ?_, rfl⟩
    exact congrArg (_ :: ·) (talk_writeCopy map.contents s')
  | error failure =>
    cases habsence : failure.isAbsence with
    | true =>
      have hallows (request : Request) : rule.Allows (some reply) request ↔
          request = .removeMap rule.destination :=
        (SyncRule.allows_some_error_iff hreply).trans (and_iff_right habsence)
      simp only [habsence, ↓reduceIte]
      refine ⟨⟨rule, some reply, _, _⟩, rfl,
        .of_exchanged hread hallows (removeCopy_ok_iff _ s'), ?_, rfl⟩
      exact congrArg (_ :: ·) (talk_removeCopy rule.destination s')
    | false =>
      have hallows (request : Request) : ¬ rule.Allows (some reply) request := by
        rw [SyncRule.allows_some_error_iff hreply, habsence]
        exact fun h => Bool.false_ne_true h.1
      simp only [habsence, Bool.false_eq_true, ↓reduceIte]
      exact ⟨⟨rule, some reply, none, _⟩, rfl, .of_error hread hallows, rfl, rfl⟩

/-- However the server answers, a rule is handled as it should be. -/
theorem exists_handling (api : Api σ) (rule : SyncRule) (s : σ) :
    ∃ handling : Handling, handling.Of rule (carryOut api rule s) := by
  by_cases hnowhere : rule.source = .nowhere
  · exact exists_handling_of_nowhere hnowhere s
  cases h : (Request.readMap rule.source).fault? with
  | some fault => exact exists_handling_of_fault hnowhere h s
  | none => exact exists_handling_of_read hnowhere h s

/-! ### All rules -/

/-- Counting a rule says nothing. -/
theorem talk_carryOutAll_singleton (rule : SyncRule) (s : σ) :
    talk (carryOutAll api [rule] s).trace = talk (carryOut api rule s).trace := by
  simp only [carryOutAll, bind_apply]
  cases (carryOut api rule s).value.1 <;>
    simp only [bind_apply, pure_apply, talk_append, talk_count, List.append_nil]

namespace HandledInOrder

variable {rules : List SyncRule} {done : List Handling} {handling : Handling}
  {result : Except Error Unit} {e : Error}

theorem nil : HandledInOrder [] [] (.ok ()) where
  inOrder := List.prefix_rfl
  proper _ h := absurd h List.not_mem_nil
  stops _ h := absurd h List.not_mem_nil
  ok_iff := iff_of_true rfl ⟨rfl, fun _ h => absurd h List.not_mem_nil⟩
  failed _ h := by cases h

/-- A rule that fails is the last. -/
theorem stopped (proper : handling.Proper) (h : handling.result = .error e)
    (rest : List SyncRule) :
    HandledInOrder (handling.rule :: rest) [handling] (.error e) where
  inOrder := List.prefix_append [handling.rule] rest
  proper _ hmem := List.mem_singleton.1 hmem ▸ proper
  stops _ hmem := absurd hmem List.not_mem_nil
  ok_iff := by simp only [reduceCtorEq, List.mem_singleton, forall_eq, h, and_false]
  failed _ heq := ⟨handling, rfl, h.trans heq⟩

/-- After one that succeeds the others are handled. -/
theorem cons (proper : handling.Proper) (h : handling.result = .ok ())
    (rest : HandledInOrder rules done result) :
    HandledInOrder (handling.rule :: rules) (handling :: done) result where
  inOrder := List.cons_prefix_cons.2 ⟨rfl, rest.inOrder⟩
  proper := List.forall_mem_cons.2 ⟨proper, rest.proper⟩
  stops earlier hmem := by
    cases done with
    | nil => exact absurd hmem List.not_mem_nil
    | cons next later =>
      rcases List.mem_cons.1 hmem with rfl | hmem
      · exact h
      · exact rest.stops earlier hmem
  ok_iff := by
    rw [rest.ok_iff, List.map_cons, List.cons.injEq, List.forall_mem_cons]
    simp only [true_and, h]
  failed e heq := by
    obtain ⟨last, hlast, hfailed⟩ := rest.failed e heq
    exact ⟨last, by simp only [List.getLast?_cons, hlast, Option.getD_some], hfailed⟩

end HandledInOrder

/-- However the server answers, rules are handled in order, up to the first that fails, and nothing
else is said. -/
theorem exists_handledInOrder (api : Api σ) (rules : List SyncRule) (s : σ) :
    ∃ done, HandledInOrder rules done (carryOutAll api rules s).value.1 ∧
      talk (carryOutAll api rules s).trace = done.flatMap Handling.said := by
  induction rules generalizing s with
  | nil => exact ⟨[], .nil, rfl⟩
  | cons rule rest ih =>
    obtain ⟨handling, rfl, proper, htalk, hresult⟩ := exists_handling api rule s
    simp only [carryOutAll, bind_apply]
    cases hdone : (carryOut api handling.rule s).value.1 with
    | error e =>
      rw [hdone] at hresult
      refine ⟨[handling], .stopped proper hresult.symm rest, ?_⟩
      simp only [bind_apply, pure_apply, talk_append, talk_count, htalk, List.append_nil,
        List.flatMap_singleton]
    | ok _ =>
      rw [hdone] at hresult
      obtain ⟨done, handled, hrest⟩ := ih (carryOut api handling.rule s).value.2
      refine ⟨handling :: done, .cons proper hresult.symm handled, ?_⟩
      simp only [bind_apply, talk_append, talk_count, List.nil_append, htalk, List.flatMap_cons]
      exact congrArg (handling.said ++ ·) hrest

/-- A copy is removed or written only on what was just read of its source, whatever the server
answers: the rules in force are handled in the order of their destinations up to the first that
fails, each as it should be, and are the same afterwards. -/
theorem copies_follow_readings (api : Api σ) (rules : SyncRules) (s : σ) :
    ∃ done, HandledInOrder rules.toList done (reconcile api rules s).value.1 ∧
      talk (reconcile api rules s).trace = done.flatMap Handling.said ∧
      rules.toList.Pairwise (·.destination < ·.destination) ∧
      ∀ (o : Observer) (x : Occasion σ), (x.remembered o).rules = rules →
        (x.after o api).memory.rules = rules := by
  obtain ⟨done, handled, htalk⟩ := exists_handledInOrder api rules.toList s
  refine ⟨done, handled, htalk, rules.pairwise_toList, fun o x h => ?_⟩
  exact Occasion.rules_after.trans h

end Operator

end CloudFlags
