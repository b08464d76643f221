import Mathlib.Algebra.BigOperators.Finprod
import CloudFlags.Proofs.Attempts
import CloudFlags.Proofs.Recording
import CloudFlags.Proofs.Waiting

/-! What the counters come to. Every counter is raised for something that was done: one for each
event that is recorded, one for each attempt that fails, one for each rule that is carried out, and
one for each pass. A turn raises a counter as often as these ask for (`Turn.raised_outcome`), so any
number of turns do (`raised_entries`), and since the four kinds of counters are different ones, each
counter tells what it is meant to (`counters_add_up`). What it counts is what is seen of a turn from
outside as well: requests, rules in force, and events in the queue (`Turn.Accounted`). -/

namespace CloudFlags

open Api Observation Resource

/-- The counter that an entry raises. -/
def Entry.counter? : Entry → Option Counter
  | .counted counter => some counter
  | _ => none

/-- The counters that are raised in a trace, in order. -/
def counted (trace : List Entry) : List Counter := trace.filterMap Entry.counter?

/-- How often a counter is raised in a trace. -/
def raised (counter : Counter) (trace : List Entry) : Nat := (counted trace).count counter

@[simp] theorem counted_append (first second : List Entry) :
    counted (first ++ second) = counted first ++ counted second := List.filterMap_append

theorem raised_append (counter : Counter) (first second : List Entry) :
    raised counter (first ++ second) = raised counter first + raised counter second := by
  rw [raised, counted_append, List.count_append, raised, raised]

/-- The counter of an event. -/
def Event.counter (event : Event) : Counter := .events event.type event.reason

namespace Operator

open Exchange

variable {σ : Type} {api : Api σ} {rule : SyncRule}

/-! ### Events -/

theorem Memory.counted_heed (memory : Memory) (notice : Notice) :
    counted (memory.heed notice).trace = notice.event?.toList.map Event.counter := by
  cases notice with
  | lookedUp => rfl
  | recorded event =>
    simp only [heed, Traced.bind_trace, Traced.pure_trace, List.append_nil, record]
    cases memory.queue.isOpen <;> rfl
  | requested rule accepted =>
    cases accepted with
    | false => rfl
    | true =>
      simp only [heed, enforce, SyncRules.enforcementLog]
      cases memory.rules.holds rule <;> rfl
  | warned => rfl

/-- Heeding what was observed counts the events, whether or not the queue still takes them. -/
theorem Memory.counted_heedAll (memory : Memory) (notices : List Notice) :
    counted (memory.heedAll notices).trace = (eventsOf notices).map Event.counter := by
  induction notices generalizing memory with
  | nil => rfl
  | cons notice rest ih =>
    have hevents : eventsOf (notice :: rest) = notice.event?.toList ++ eventsOf rest := by
      cases notice <;> rfl
    rw [hevents, List.map_append, ← ih, ← Memory.counted_heed memory]
    exact counted_append ..

/-- The events are handed to the queue, in order. -/
theorem Memory.queue_heedAll (memory : Memory) (notices : List Notice) :
    (memory.heedAll notices).value.queue =
      (eventsOf notices).foldl EventQueue.record memory.queue := by
  induction notices generalizing memory with
  | nil => rfl
  | cons notice rest ih =>
    cases notice with
    | requested rule accepted => cases accepted <;> exact ih _
    | _ => exact ih _

/-! ### Attempts -/

/-- The counter that is raised for an attempt. -/
def Attempt.counter? (attempt : Attempt) : Option Counter :=
  if attempt.isFailedWrite then some .patchErrors
  else if attempt.isFailedRemoval then some .deleteErrors
  else none

/-- The counters that are raised for attempts, in order. -/
def failureCounters (attempts : List Attempt) : List Counter :=
  attempts.flatMap fun attempt => attempt.counter?.toList

theorem counted_ask {α : Type} (request : Request) (shape : Json.Shape α) (s : σ) :
    counted (ask api request shape s).trace = [] := by
  cases h : request.fault? with
  | some fault => rw [ask_of_fault h]; rfl
  | none => rw [ask_of_sendable h]; rfl

theorem counted_readSource (source : Location) (s : σ) :
    counted (readSource api source s).trace = [] := by
  rw [readSource]
  split
  · rfl
  · rw [readMap, bind_apply, counted_append, counted_ask]
    cases (ask api (.readMap source) ConfigMap.shape s).value.1 <;> rfl

theorem counted_removeCopy (destination : Location) (s : σ) :
    counted (removeCopy api destination s).trace =
      failureCounters [.toRemove api destination s] := by
  simp only [failureCounters, List.flatMap_singleton, Attempt.counter?, Attempt.isFailedWrite,
    Attempt.isFailedRemoval, Attempt.toRemove, Request.method, removeCopy, bind_apply,
    counted_append]
  rw [removeMap, counted_ask]
  cases (ask api (.removeMap destination) Status.removalShape s).value.1 with
  | ok _ => rfl
  | error failure => cases h : failure.isGone <;> simp [h] <;> rfl

theorem failureCounters_toWrite (location : Location) (contents : Contents) (s : σ) :
    failureCounters [.toWrite api location contents s] =
      if (applyMap api location contents s).value.1.isOk then [] else [.patchErrors] := by
  simp only [failureCounters, List.flatMap_singleton, Attempt.counter?, Attempt.isFailedWrite,
    Attempt.isFailedRemoval, Attempt.toWrite, Request.method]
  cases (applyMap api location contents s).value.1 <;> rfl

theorem counted_writeCopy (contents : Contents) (s : σ) :
    counted (writeCopy api rule contents s).trace =
      failureCounters [.toWrite api rule.destination contents s] := by
  rw [failureCounters_toWrite, writeCopy, bind_apply, counted_append, applyMap, counted_ask]
  cases (ask api (.applyMap rule.destination contents) _ s).value.1 <;> rfl

theorem counted_carryOut (rule : SyncRule) (s : σ) :
    counted (carryOut api rule s).trace = failureCounters (attempt? api rule s).toList := by
  have hread : counted (readSource api rule.source s).trace = [] := counted_readSource ..
  rcases carryOut_cases api rule s with
    ⟨e, hattempt, hcarried⟩ | ⟨hattempt, hcarried⟩ | ⟨contents, hattempt, hcarried⟩
  · rw [hattempt, hcarried, hread]
    rfl
  · rw [hattempt, hcarried, counted_append, hread, counted_removeCopy]
    rfl
  · rw [hattempt, hcarried, counted_append, hread, counted_writeCopy]
    rfl

theorem failureCounters_append (first second : List Attempt) :
    failureCounters (first ++ second) = failureCounters first ++ failureCounters second :=
  List.flatMap_append

/-- The counter of a rule that was carried out. -/
def Carried.counter (c : Carried) : Counter := .syncs c.result.isOk

theorem counted_carryOutAll (rules : List SyncRule) (s : σ) :
    counted (carryOutAll api rules s).trace =
      (carried api rules s).flatMap fun c => failureCounters c.attempt?.toList ++ [c.counter] := by
  induction rules generalizing s with
  | nil => rfl
  | cons rule rest ih =>
    have hrule : counted (carryOut api rule s).trace = _ := counted_carryOut rule s
    cases h : (carryOut api rule s).value.1 with
    | error e =>
      rw [carryOutAll_of_error h, counted_append, hrule, carried_of_error h, List.flatMap_singleton]
      rfl
    | ok _ =>
      rw [carryOutAll_of_ok h, counted_append, hrule, carried_of_ok h, List.flatMap_cons, ← ih,
        List.append_assoc]
      rfl

/-- Each rule is counted, and each failure of an attempt. -/
theorem raised_carryOutAll (counter : Counter) (rules : List SyncRule) (s : σ) :
    raised counter (carryOutAll api rules s).trace =
      (failureCounters ((carried api rules s).flatMap fun c => c.attempt?.toList)).count counter +
        ((carried api rules s).map Carried.counter).count counter := by
  rw [raised, counted_carryOutAll, ← (List.flatMap_append_perm ..).count_eq, List.count_append,
    failureCounters, List.flatMap_assoc, List.map_eq_flatMap]
  rfl

namespace Occasion

variable {o : Observer} {x : Occasion σ}

/-- The events that the pass records, in order. -/
def events (o : Observer) (x : Occasion σ) : List Event := eventsOf (x.seen o).trace

theorem queue_after :
    (x.after o api).memory.queue = (x.events o).foldl EventQueue.record x.memory.queue := by
  have hheeding : (x.heeding o).value.queue =
      (x.events o).foldl EventQueue.record x.memory.queue := Memory.queue_heedAll ..
  by_cases h : x.Publishes o api
  · rw [after_of_publishes h]
    exact hheeding
  · rw [after_of_not_publishes h]
    exact hheeding

theorem counted_publication :
    counted (x.publication o api).trace = failureCounters (x.publishing? o api).toList := by
  by_cases h : x.target o = x.memory.tree
  · rw [publication_of_target_eq h, publishing?_of_target_eq h]
    rfl
  have hwritten : counted (x.written o api).trace = [] := counted_ask ..
  rw [publishing?_of_target_ne h, Option.toList_some, failureCounters_toWrite, ← written]
  cases hresult : (x.written o api).value.1 with
  | ok _ =>
    rw [publication_of_written h hresult, counted_append, hwritten]
    rfl
  | error failure =>
    rw [publication_of_unwritten h hresult, counted_append, hwritten]
    rfl

/-- A pass raises counters for its events, its attempts and its rules. -/
theorem raised_outcome (counter : Counter) :
    raised counter (x.outcome o api).trace =
      ((x.events o).map Event.counter).count counter +
        ((failureCounters (x.attempts o api)).count counter +
          ((x.carriedOut o api).map Carried.counter).count counter) := by
  have hheeding : counted (x.heeding o).trace = (x.events o).map Event.counter :=
    Memory.counted_heedAll ..
  rw [attempts, failureCounters_append, List.count_append, ← counted_publication, ← hheeding]
  by_cases h : x.Publishes o api
  · have hrules : raised counter (x.reconciliation o api).trace = _ := raised_carryOutAll ..
    rw [outcome_of_publishes h, raised_append, raised_append, hrules, ← carriedOut_of_publishes h,
      Nat.add_assoc]
    rfl
  · obtain ⟨e, he⟩ := exists_error_of_not_publishes h
    rw [outcome_of_unpublished he, raised_append, carriedOut_of_not_publishes h]
    rfl

end Occasion

/-! ### Turns -/

namespace Turn

/-- The events that are recorded in the turn. -/
def events (settings : Settings) (t : Turn σ) : List Event := t.occasion.events settings.observer

/-- The rules that are carried out in the turn. -/
def carriedOut (settings : Settings) (api : Api σ) (t : Turn σ) : List Carried :=
  t.occasion.carriedOut settings.observer api

/-- The attempts of the turn. -/
def attempts (settings : Settings) (api : Api σ) (t : Turn σ) : List Attempt :=
  t.occasion.attempts settings.observer api

variable {settings : Settings} {t : Turn σ}

/-- The counter of a turn. -/
def counter (settings : Settings) (api : Api σ) (t : Turn σ) : Counter :=
  .observations (t.result settings api).isOk

theorem counted_conclusion :
    counted (t.conclusion settings api).trace = [t.counter settings api] := by
  rw [conclusion, counter]
  cases t.result settings api with
  | ok _ => rfl
  | error e =>
    rw [conclude_error]
    simp only
    split <;> rfl

/-- A turn raises a counter for each of its events, its failed attempts and its rules, and one for
its result. -/
theorem raised_outcome (c : Counter) :
    raised c (t.outcome settings api).trace =
      ((t.events settings).map Event.counter).count c +
        ((failureCounters (t.attempts settings api)).count c +
          (((t.carriedOut settings api).map Carried.counter).count c +
            [t.counter settings api].count c)) := by
  rw [outcome_eq, raised_append, raised_append, Occasion.raised_outcome, raised, counted_conclusion,
    Nat.add_assoc, Nat.add_assoc]
  rfl

end Turn

variable (settings : Settings) (api : Api σ)

/-- Everything that is done in some turns. -/
def entries (ts : List (Turn σ)) : List Entry :=
  ts.flatMap fun t => (t.outcome settings api).trace

/-- In any number of turns a counter is raised as often as in all of them. -/
theorem raised_entries (c : Counter) (ts : List (Turn σ)) :
    raised c (entries settings api ts) =
      ((ts.flatMap (Turn.events settings)).map Event.counter).count c +
        ((failureCounters (ts.flatMap (Turn.attempts settings api))).count c +
          (((ts.flatMap (Turn.carriedOut settings api)).map Carried.counter).count c +
            (ts.map (Turn.counter settings api)).count c)) := by
  induction ts with
  | nil => rfl
  | cons t rest ih =>
    have hlast : ((t :: rest).map (Turn.counter settings api)).count c =
        [t.counter settings api].count c + (rest.map (Turn.counter settings api)).count c := by
      rw [List.map_cons, ← List.singleton_append, List.count_append]
    rw [entries, List.flatMap_cons, raised_append, ← entries, ih, Turn.raised_outcome, hlast]
    simp only [List.flatMap_cons, List.map_append, failureCounters_append, List.count_append]
    omega

/-! ### What each counter tells -/

theorem count_map_of_ne {α : Type} {f : α → Counter} {c : Counter} (h : ∀ a, f a ≠ c)
    (items : List α) : (items.map f).count c = 0 := by
  rw [List.count_eq_zero, List.mem_map]
  rintro ⟨a, -, ha⟩
  exact h a ha

theorem count_map_of_iff {α : Type} {f : α → Counter} {c : Counter} {p : α → Bool}
    (h : ∀ a, f a = c ↔ p a = true) (items : List α) : (items.map f).count c = items.countP p := by
  rw [List.count, List.countP_map]
  exact List.countP_congr fun a _ => beq_iff_eq.trans (h a)

theorem count_failureCounters (c : Counter) (attempts : List Attempt) :
    (failureCounters attempts).count c = attempts.countP fun a => a.counter? = some c := by
  induction attempts with
  | nil => rfl
  | cons attempt rest ih =>
    have hfirst : attempt.counter?.toList.count c = if attempt.counter? = some c then 1 else 0 := by
      cases attempt.counter? with
      | none => rfl
      | some d => simp [List.count_singleton]
    rw [failureCounters, List.flatMap_cons, List.count_append, ← failureCounters, ih, hfirst,
      List.countP_cons, Nat.add_comm]
    simp only [decide_eq_true_eq]

namespace Attempt

variable {attempt : Attempt}

theorem not_isFailedRemoval (h : attempt.isFailedWrite = true) :
    attempt.isFailedRemoval = false := by
  simp only [isFailedWrite, Bool.and_eq_true, decide_eq_true_eq] at h
  rw [isFailedRemoval]
  cases attempt.result with
  | ok _ => rfl
  | error failure => simp [h.1]

theorem counter?_eq_patchErrors_iff :
    attempt.counter? = some .patchErrors ↔ attempt.isFailedWrite = true := by
  rw [counter?]
  cases attempt.isFailedWrite <;> cases attempt.isFailedRemoval <;> simp

theorem counter?_eq_deleteErrors_iff :
    attempt.counter? = some .deleteErrors ↔ attempt.isFailedRemoval = true := by
  rw [counter?]
  cases h : attempt.isFailedWrite with
  | false => cases attempt.isFailedRemoval <;> simp
  | true => simp [not_isFailedRemoval h]

end Attempt

theorem count_failureCounters_of_ne {c : Counter} (hpatch : c ≠ .patchErrors)
    (hdelete : c ≠ .deleteErrors) (attempts : List Attempt) :
    (failureCounters attempts).count c = 0 := by
  rw [count_failureCounters, List.countP_eq_zero]
  intro attempt _ hcounter
  rw [decide_eq_true_eq, Attempt.counter?] at hcounter
  split at hcounter
  · exact hpatch (Option.some.inj hcounter).symm
  · split at hcounter
    · exact hdelete (Option.some.inj hcounter).symm
    · cases hcounter

variable (ts : List (Turn σ))

theorem raised_observations (ok : Bool) :
    raised (.observations ok) (entries settings api ts) =
      ts.countP fun t => (t.result settings api).isOk = ok := by
  have hevents : ((ts.flatMap (Turn.events settings)).map Event.counter).count
      (.observations ok) = 0 := count_map_of_ne (fun _ => Counter.noConfusion) _
  have hattempts : (failureCounters (ts.flatMap (Turn.attempts settings api))).count
      (.observations ok) = 0 :=
    count_failureCounters_of_ne Counter.noConfusion Counter.noConfusion _
  have hrules : ((ts.flatMap (Turn.carriedOut settings api)).map Carried.counter).count
      (.observations ok) = 0 := count_map_of_ne (fun _ => Counter.noConfusion) _
  have hturns : (ts.map (Turn.counter settings api)).count (.observations ok) =
      ts.countP fun t => (t.result settings api).isOk = ok :=
    count_map_of_iff (fun t => by simp [Turn.counter]) ts
  rw [raised_entries]
  omega

theorem raised_syncs (ok : Bool) :
    raised (.syncs ok) (entries settings api ts) =
      (ts.flatMap (Turn.carriedOut settings api)).countP fun c => c.result.isOk = ok := by
  have hevents : ((ts.flatMap (Turn.events settings)).map Event.counter).count (.syncs ok) = 0 :=
    count_map_of_ne (fun _ => Counter.noConfusion) _
  have hattempts : (failureCounters (ts.flatMap (Turn.attempts settings api))).count
      (.syncs ok) = 0 := count_failureCounters_of_ne Counter.noConfusion Counter.noConfusion _
  have hrules :
      ((ts.flatMap (Turn.carriedOut settings api)).map Carried.counter).count (.syncs ok) =
        (ts.flatMap (Turn.carriedOut settings api)).countP fun c => c.result.isOk = ok :=
    count_map_of_iff (fun c => by simp [Carried.counter]) _
  have hturns : (ts.map (Turn.counter settings api)).count (.syncs ok) = 0 :=
    count_map_of_ne (fun _ => Counter.noConfusion) ts
  rw [raised_entries]
  omega

/-- Attempts alone raise the counters of failures. -/
theorem raised_of_failure {c : Counter} (h : c = .patchErrors ∨ c = .deleteErrors) :
    raised c (entries settings api ts) =
      (ts.flatMap (Turn.attempts settings api)).countP fun a => a.counter? = some c := by
  have hevents : ((ts.flatMap (Turn.events settings)).map Event.counter).count c = 0 := by
    rcases h with rfl | rfl <;> exact count_map_of_ne (fun _ => Counter.noConfusion) _
  have hrules :
      ((ts.flatMap (Turn.carriedOut settings api)).map Carried.counter).count c = 0 := by
    rcases h with rfl | rfl <;> exact count_map_of_ne (fun _ => Counter.noConfusion) _
  have hturns : (ts.map (Turn.counter settings api)).count c = 0 := by
    rcases h with rfl | rfl <;> exact count_map_of_ne (fun _ => Counter.noConfusion) ts
  rw [raised_entries, count_failureCounters]
  omega

theorem raised_patchErrors :
    raised .patchErrors (entries settings api ts) =
      (ts.flatMap (Turn.attempts settings api)).countP Attempt.isFailedWrite := by
  rw [raised_of_failure settings api ts (.inl rfl)]
  exact List.countP_congr fun a _ => decide_eq_true_iff.trans Attempt.counter?_eq_patchErrors_iff

theorem raised_deleteErrors :
    raised .deleteErrors (entries settings api ts) =
      (ts.flatMap (Turn.attempts settings api)).countP Attempt.isFailedRemoval := by
  rw [raised_of_failure settings api ts (.inr rfl)]
  exact List.countP_congr fun a _ => decide_eq_true_iff.trans Attempt.counter?_eq_deleteErrors_iff

theorem raised_events (type : EventType) (reason : String) :
    raised (.events type reason) (entries settings api ts) =
      (ts.flatMap (Turn.events settings)).countP fun e => e.type = type ∧ e.reason = reason := by
  have hevents :
      ((ts.flatMap (Turn.events settings)).map Event.counter).count (.events type reason) =
        (ts.flatMap (Turn.events settings)).countP fun e => e.type = type ∧ e.reason = reason :=
    count_map_of_iff (fun e => by simp [Event.counter]) _
  have hattempts : (failureCounters (ts.flatMap (Turn.attempts settings api))).count
      (.events type reason) = 0 :=
    count_failureCounters_of_ne Counter.noConfusion Counter.noConfusion _
  have hrules : ((ts.flatMap (Turn.carriedOut settings api)).map Carried.counter).count
      (.events type reason) = 0 := count_map_of_ne (fun _ => Counter.noConfusion) _
  have hturns : (ts.map (Turn.counter settings api)).count (.events type reason) = 0 :=
    count_map_of_ne (fun _ => Counter.noConfusion) ts
  rw [raised_entries]
  omega

/-- The occurrences of all labels are all items. -/
theorem finsum_countP {α β : Type} (label : α → β) [DecidableEq β] (items : List α) :
    ∑ᶠ b, items.countP (fun a => label a = b) = items.length := by
  have hcount (b : β) : items.countP (fun a => label a = b) = (items.map label).count b := by
    rw [List.count, List.countP_map]
    exact List.countP_congr fun a _ => decide_eq_true_iff.trans beq_iff_eq.symm
  have hsupport : Function.support (fun b => (items.map label).count b) ⊆
      ↑(items.map label).toFinset := by
    intro b hb
    rw [Function.mem_support, ← Nat.pos_iff_ne_zero, List.count_pos_iff] at hb
    exact List.mem_toFinset.2 hb
  rw [finsum_congr hcount, finsum_eq_sum_of_support_subset _ hsupport,
    List.sum_toFinset_count_eq_length, List.length_map]

theorem finsum_raised_events :
    ∑ᶠ label : EventType × String, raised (.events label.1 label.2) (entries settings api ts) =
      (ts.flatMap (Turn.events settings)).length := by
  have hlabel (label : EventType × String) :
      raised (.events label.1 label.2) (entries settings api ts) =
        (ts.flatMap (Turn.events settings)).countP fun e => (e.type, e.reason) = label := by
    rw [raised_events]
    exact List.countP_congr fun e _ => by simp only [Prod.ext_iff]
  rw [finsum_congr hlabel, finsum_countP]

/-! ### One turn -/

/-- An attempt that fails is a failed write or a failed removal, but not both. -/
theorem countP_fails (attempts : List Attempt) :
    attempts.countP Attempt.fails =
      attempts.countP Attempt.isFailedWrite + attempts.countP Attempt.isFailedRemoval := by
  induction attempts with
  | nil => rfl
  | cons attempt rest ih =>
    rw [List.countP_cons, List.countP_cons, List.countP_cons, ih, Attempt.fails]
    cases h : attempt.isFailedWrite with
    | false => simp only [Bool.false_or, Bool.false_eq_true, if_false, Nat.add_zero, Nat.add_assoc]
    | true =>
      rw [Attempt.not_isFailedRemoval h]
      simp only [Bool.or_false, Bool.false_eq_true, if_true, if_false, Nat.add_zero]
      exact Nat.add_right_comm ..

namespace Turn

variable (t : Turn σ)

theorem raised_failed_syncs_le_one : raised (.syncs false) (t.outcome settings api).trace ≤ 1 := by
  have hraised := raised_syncs settings api [t] false
  rw [entries, List.flatMap_singleton, List.flatMap_singleton] at hraised
  rw [hraised]
  exact Occasion.countP_failed_carriedOut_le_one

theorem raised_failures_le_one :
    raised .patchErrors (t.outcome settings api).trace +
      raised .deleteErrors (t.outcome settings api).trace ≤ 1 := by
  have hpatch := raised_patchErrors settings api [t]
  have hdelete := raised_deleteErrors settings api [t]
  rw [entries, List.flatMap_singleton, List.flatMap_singleton] at hpatch hdelete
  rw [hpatch, hdelete, ← countP_fails]
  exact Occasion.countP_fails_attempts_le_one

theorem writings_conclusion : writings (t.conclusion settings api).trace = [] := by
  rw [conclusion]
  cases t.result settings api with
  | ok _ => rfl
  | error e =>
    rw [conclude_error]
    simp only
    split <;> rfl

/-- What a turn says to have config maps written or removed is what can be sent of its attempts. -/
theorem writings_outcome :
    writings (t.outcome settings api).trace =
      (t.attempts settings api).flatMap fun a => a.said?.toList := by
  rw [outcome_eq, writings_append, writings_append, Occasion.writings_outcome, writings_conclusion]
  exact List.append_nil _

/-- What is counted in a turn is what is done in it. -/
structure Accounted : Prop where
  /-- One rule fails at most. -/
  failedSyncs : raised (.syncs false) (t.outcome settings api).trace ≤ 1
  /-- One attempt fails at most, to write or to remove. -/
  failures : raised .patchErrors (t.outcome settings api).trace +
    raised .deleteErrors (t.outcome settings api).trace ≤ 1
  /-- The rules that are carried out are those in force, in order. -/
  rules : (t.carriedOut settings api).map Carried.rule <+:
    (t.occasion.remembered settings.observer).rules.toList
  allRules : t.result settings api = .ok () →
    (t.carriedOut settings api).map Carried.rule =
      (t.occasion.remembered settings.observer).rules.toList
  /-- The attempts are what is said of writing and removing, with those that cannot be sent. -/
  said : writings (t.outcome settings api).trace =
    (t.attempts settings api).flatMap fun a => a.said?.toList
  attempts : ∀ a ∈ t.attempts settings api, a.Genuine
  /-- The events are those handed to the queue. -/
  events : (t.session settings api).memory.queue =
    (t.events settings).foldl EventQueue.record t.occasion.memory.queue

theorem accounted : t.Accounted settings api where
  failedSyncs := t.raised_failed_syncs_le_one settings api
  failures := t.raised_failures_le_one settings api
  rules := Occasion.map_rule_carriedOut_prefix
  allRules := Occasion.map_rule_carriedOut_of_result_ok
  said := t.writings_outcome settings api
  attempts _ h := Occasion.genuine_of_mem_attempts h
  events := Occasion.queue_after

end Turn

/-! ### Any number of turns -/

/-- The counters that are raised in a trace are those of some turns. -/
structure Tallied (trace : List Entry) : Prop where
  observations (ok : Bool) :
    raised (.observations ok) trace = ts.countP fun t => (t.result settings api).isOk = ok
  syncs (ok : Bool) :
    raised (.syncs ok) trace =
      (ts.flatMap (Turn.carriedOut settings api)).countP fun c => c.result.isOk = ok
  patchErrors :
    raised .patchErrors trace =
      (ts.flatMap (Turn.attempts settings api)).countP Attempt.isFailedWrite
  deleteErrors :
    raised .deleteErrors trace =
      (ts.flatMap (Turn.attempts settings api)).countP Attempt.isFailedRemoval
  events (type : EventType) (reason : String) :
    raised (.events type reason) trace =
      (ts.flatMap (Turn.events settings)).countP fun e => e.type = type ∧ e.reason = reason
  /-- Over all labels. -/
  allEvents :
    ∑ᶠ label : EventType × String, raised (.events label.1 label.2) trace =
      (ts.flatMap (Turn.events settings)).length

theorem tallied_entries : Tallied settings api ts (entries settings api ts) where
  observations := raised_observations settings api ts
  syncs := raised_syncs settings api ts
  patchErrors := raised_patchErrors settings api ts
  deleteErrors := raised_deleteErrors settings api ts
  events := raised_events settings api ts
  allEvents := finsum_raised_events settings api ts

theorem map_entry_timed (clock : Clock) (now : Nat) :
    (timed settings api clock now ts).map TimedEntry.entry = entries settings api ts := by
  induction ts generalizing now with
  | nil => rfl
  | cons t rest ih =>
    rw [timed, List.map_append, ih, List.map_map]
    exact congrArg (· ++ entries settings api rest) (List.map_id _)

/-- Whatever the clusters, the server and the session with which the turns begin: each counter tells
how many passes ended so, how many rules were carried out so, how many config maps could not be
written or not be removed, and how many events were recorded. In one turn one rule fails at most,
and one attempt, to write or to remove. A window of time is counted like the turns that fill it. -/
theorem counters_add_up (session : Session) (server : σ) (rounds : List (Round σ)) :
    let ts := turns settings api session server rounds
    Tallied settings api ts (entries settings api ts) ∧
      (∀ t : Turn σ, t.Accounted settings api) ∧
      ∀ (clock : Clock) (cluster : Cluster) (window : Nat), ∃ n,
        let filling :=
          turns settings api session server (List.replicate n (Round.unchanged cluster))
        Fills settings api clock window 0 filling ∧
          Tallied settings api filling
            ((run settings api clock cluster window session server).trace.map
              TimedEntry.entry) := by
  intro ts
  refine ⟨tallied_entries settings api ts, Turn.accounted settings api,
    fun clock cluster window => ?_⟩
  obtain ⟨n, hfills, hrun⟩ := exists_run_eq_timed settings api clock cluster window session server
  refine ⟨n, hfills, ?_⟩
  rw [hrun, map_entry_timed]
  exact tallied_entries ..

end Operator

end CloudFlags
