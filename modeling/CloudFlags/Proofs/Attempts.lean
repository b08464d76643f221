import CloudFlags.Proofs.Convergence
import CloudFlags.Proofs.Handling

/-! What a pass attempts. To write or remove a config map a request is handed to the client, which
sends it if it can be sent, and tells what came of it. A pass attempts to publish its tree if that
is another one than in memory, and then, unless publishing failed, comes to one attempt at most for
each rule it carries out. What it says to the server of writing and removing is what could be sent
of its attempts (`Occasion.writings_outcome`). An attempt fails unless what was said is acknowledged
(`Occasion.genuine_of_mem_attempts`), and at most one of a pass does
(`Occasion.countP_fails_attempts_le_one`). -/

namespace CloudFlags.Operator

open Api Exchange Resource

variable {σ : Type}

/-- A request for a config map to be written or removed, what was said to the server if it could be
sent, and what the client tells of it. -/
structure Attempt where
  request : Request
  said? : Option (Request × Reply)
  result : Except Failure Unit

namespace Attempt

def toWrite (api : Api σ) (location : Location) (contents : Contents) (s : σ) : Attempt where
  request := .applyMap location contents
  said? := exchanged? api (.applyMap location contents) s
  result := (applyMap api location contents s).value.1

def toRemove (api : Api σ) (location : Location) (s : σ) : Attempt where
  request := .removeMap location
  said? := exchanged? api (.removeMap location) s
  result := (removeMap api location s).value.1

/-- A config map could not be written. -/
def isFailedWrite (attempt : Attempt) : Bool :=
  attempt.request.method = .patch && !attempt.result.isOk

/-- A config map could not be removed, and not because it is gone. -/
def isFailedRemoval (attempt : Attempt) : Bool :=
  match attempt.result with
  | .ok () => false
  | .error failure => attempt.request.method = .delete && !failure.isGone

def fails (attempt : Attempt) : Bool := attempt.isFailedWrite || attempt.isFailedRemoval

/-- What was said was acknowledged. -/
def Acknowledged (attempt : Attempt) : Prop :=
  ∃ request reply, attempt.said? = some (request, reply) ∧ reply.Acknowledges request

/-- An attempt to write or remove a config map, which tells what was said. -/
structure Genuine (attempt : Attempt) : Prop where
  writes : attempt.request.written?.isSome
  /-- The request is said, if it can be sent, and nothing else. -/
  said_iff (request : Request) : (∃ reply, attempt.said? = some (request, reply)) ↔
    request = attempt.request ∧ attempt.request.fault? = none
  fails_iff : attempt.fails = true ↔ ¬ attempt.Acknowledged

end Attempt

/-- The attempt to which carrying out a rule comes, unless its source cannot be read. -/
def attempt? (api : Api σ) (rule : SyncRule) (s : σ) : Option Attempt :=
  let read := (readSource api rule.source s).value
  match read.1 with
  | .error _ => none
  | .ok none => some (.toRemove api rule.destination read.2)
  | .ok (some map) => some (.toWrite api rule.destination map.contents read.2)

/-- A rule that was carried out, the attempt to which it came, and its result. -/
structure Carried where
  rule : SyncRule
  attempt? : Option Attempt
  result : Except Error Unit

/-- The rules that are carried out, up to the first that fails. -/
def carried (api : Api σ) : List SyncRule → σ → List Carried
  | [], _ => []
  | rule :: rest, s =>
    let done := (carryOut api rule s).value
    ⟨rule, attempt? api rule s, done.1⟩ ::
      match done.1 with
      | .ok () => carried api rest done.2
      | .error _ => []

variable {api : Api σ} {rule : SyncRule}

theorem carried_of_ok {s : σ} (h : (carryOut api rule s).value.1 = .ok ()) (rest : List SyncRule) :
    carried api (rule :: rest) s =
      ⟨rule, attempt? api rule s, .ok ()⟩ :: carried api rest (carryOut api rule s).value.2 := by
  simp only [carried, h]

theorem carried_of_error {s : σ} {e : Error} (h : (carryOut api rule s).value.1 = .error e)
    (rest : List SyncRule) :
    carried api (rule :: rest) s = [⟨rule, attempt? api rule s, .error e⟩] := by
  simp only [carried, h]

theorem carryOutAll_of_ok {s : σ} (h : (carryOut api rule s).value.1 = .ok ())
    (rest : List SyncRule) :
    carryOutAll api (rule :: rest) s =
      let later := carryOutAll api rest (carryOut api rule s).value.2
      ⟨later.value, (carryOut api rule s).trace ++ .counted (.syncs true) :: later.trace⟩ := by
  rw [carryOutAll, bind_apply, h]
  rfl

theorem carryOutAll_of_error {s : σ} {e : Error} (h : (carryOut api rule s).value.1 = .error e)
    (rest : List SyncRule) :
    carryOutAll api (rule :: rest) s =
      ⟨(.error e, (carryOut api rule s).value.2),
        (carryOut api rule s).trace ++ [.counted (.syncs false)]⟩ := by
  rw [carryOutAll, bind_apply, h]
  rfl

/-- Rules are carried out in order. -/
theorem map_rule_carried_prefix (rules : List SyncRule) (s : σ) :
    (carried api rules s).map Carried.rule <+: rules := by
  induction rules generalizing s with
  | nil => exact List.prefix_rfl
  | cons rule rest ih =>
    cases h : (carryOut api rule s).value.1 with
    | ok _ =>
      rw [carried_of_ok h]
      exact List.cons_prefix_cons.2 ⟨rfl, ih _⟩
    | error e =>
      rw [carried_of_error h]
      exact List.prefix_append [rule] rest

/-- All are, unless one fails. -/
theorem map_rule_carried_of_ok {rules : List SyncRule} {s : σ}
    (h : (carryOutAll api rules s).value.1 = .ok ()) :
    (carried api rules s).map Carried.rule = rules := by
  induction rules generalizing s with
  | nil => rfl
  | cons rule rest ih =>
    cases hrule : (carryOut api rule s).value.1 with
    | ok _ =>
      rw [carryOutAll_of_ok hrule] at h
      rw [carried_of_ok hrule, List.map_cons, ih h]
    | error e =>
      rw [carryOutAll_of_error hrule] at h
      cases h

/-- After one that fails no other is carried out. -/
theorem countP_failed_carried_le_one (rules : List SyncRule) (s : σ) :
    (carried api rules s).countP (fun c => c.result.isOk = false) ≤ 1 := by
  induction rules generalizing s with
  | nil => exact Nat.zero_le 1
  | cons rule rest ih =>
    cases h : (carryOut api rule s).value.1 with
    | ok _ =>
      rw [carried_of_ok h, List.countP_cons_of_neg (by simp [Except.isOk, Except.toBool])]
      exact ih _
    | error e =>
      rw [carried_of_error h]
      exact List.countP_le_length

/-! ### Failed attempts -/

theorem fails_toRemove (location : Location) (s : σ) :
    (Attempt.toRemove api location s).fails = !(removeCopy api location s).value.1.isOk := by
  simp only [Attempt.fails, Attempt.isFailedWrite, Attempt.isFailedRemoval, Attempt.toRemove,
    Request.method, removeCopy, bind_apply]
  cases (removeMap api location s).value.1 with
  | ok _ => rfl
  | error failure => cases h : failure.isGone <;> simp [h] <;> rfl

theorem fails_toWrite (contents : Contents) (s : σ) :
    (Attempt.toWrite api rule.destination contents s).fails =
      !(writeCopy api rule contents s).value.1.isOk := by
  simp only [Attempt.fails, Attempt.isFailedWrite, Attempt.isFailedRemoval, Attempt.toWrite,
    Request.method, writeCopy, bind_apply]
  cases (applyMap api rule.destination contents s).value.1 <;> rfl

/-- A rule comes to nothing if its source cannot be read, and else to removing or to writing its
destination. -/
theorem carryOut_cases (api : Api σ) (rule : SyncRule) (s : σ) :
    let read := readSource api rule.source s
    (∃ e, attempt? api rule s = none ∧
        carryOut api rule s = ⟨(.error e, read.value.2), read.trace⟩) ∨
      (attempt? api rule s = some (.toRemove api rule.destination read.value.2) ∧
        carryOut api rule s = ⟨(removeCopy api rule.destination read.value.2).value,
          read.trace ++ (removeCopy api rule.destination read.value.2).trace⟩) ∨
      ∃ contents,
        attempt? api rule s = some (.toWrite api rule.destination contents read.value.2) ∧
          carryOut api rule s = ⟨(writeCopy api rule contents read.value.2).value,
            read.trace ++ (writeCopy api rule contents read.value.2).trace⟩ := by
  simp only [attempt?, carryOut, bind_apply]
  cases (readSource api rule.source s).value.1 with
  | error failure =>
    refine .inl ⟨.api failure, rfl, ?_⟩
    simp only [pure_apply, List.append_nil]
  | ok found =>
    cases found with
    | none => exact .inr (.inl ⟨rfl, rfl⟩)
    | some map => exact .inr (.inr ⟨map.contents, rfl, rfl⟩)

theorem countP_fails_toList {attempt? : Option Attempt}
    (h : ∀ attempt ∈ attempt?, attempt.fails = false) :
    attempt?.toList.countP Attempt.fails = 0 := by
  rw [List.countP_eq_zero]
  intro attempt hattempt hfails
  rw [h attempt (Option.mem_toList.1 hattempt)] at hfails
  cases hfails

/-- A rule succeeds only if its attempt does. -/
theorem not_fails_of_carryOut_ok {s : σ} {attempt : Attempt}
    (h : (carryOut api rule s).value.1 = .ok ()) (hattempt : attempt ∈ attempt? api rule s) :
    attempt.fails = false := by
  rw [Option.mem_def] at hattempt
  rcases carryOut_cases api rule s with
    ⟨e, hnone, -⟩ | ⟨hremove, hcarried⟩ | ⟨contents, hwrite, hcarried⟩
  · cases hnone.symm.trans hattempt
  · cases hremove.symm.trans hattempt
    rw [hcarried] at h
    rw [fails_toRemove, h]
    rfl
  · cases hwrite.symm.trans hattempt
    rw [hcarried] at h
    rw [fails_toWrite, h]
    rfl

theorem genuine_toRemove (location : Location) (s : σ) :
    (Attempt.toRemove api location s).Genuine where
  writes := rfl
  said_iff request := exists_exchanged?_iff
  fails_iff := by
    have hok : (Attempt.toRemove api location s).Acknowledged ↔
        (removeCopy api location s).value.1 = .ok () := (removeCopy_ok_iff ..).symm
    rw [hok, fails_toRemove]
    cases (removeCopy api location s).value.1 <;> simp [Except.isOk, Except.toBool]

theorem genuine_toWrite (rule : SyncRule) (contents : Contents) (s : σ) :
    (Attempt.toWrite api rule.destination contents s).Genuine where
  writes := rfl
  said_iff request := exists_exchanged?_iff
  fails_iff := by
    have hok : (Attempt.toWrite api rule.destination contents s).Acknowledged ↔
        (writeCopy api rule contents s).value.1 = .ok () := (writeCopy_ok_iff ..).symm
    rw [hok, fails_toWrite]
    cases (writeCopy api rule contents s).value.1 <;> simp [Except.isOk, Except.toBool]

theorem genuine_of_attempt? {s : σ} {attempt : Attempt} (h : attempt? api rule s = some attempt) :
    attempt.Genuine := by
  rcases carryOut_cases api rule s with ⟨e, hnone, -⟩ | ⟨hremove, -⟩ | ⟨contents, hwrite, -⟩
  · cases hnone.symm.trans h
  · cases hremove.symm.trans h
    exact genuine_toRemove ..
  · cases hwrite.symm.trans h
    exact genuine_toWrite ..

theorem genuine_of_mem_carried {rules : List SyncRule} {s : σ} {c : Carried} {attempt : Attempt}
    (hc : c ∈ carried api rules s) (h : c.attempt? = some attempt) : attempt.Genuine := by
  induction rules generalizing s with
  | nil => cases hc
  | cons rule rest ih =>
    cases hrule : (carryOut api rule s).value.1 with
    | ok _ =>
      rw [carried_of_ok hrule] at hc
      rcases List.mem_cons.1 hc with rfl | hlater
      · exact genuine_of_attempt? h
      · exact ih hlater
    | error e =>
      rw [carried_of_error hrule] at hc
      cases List.mem_singleton.1 hc
      exact genuine_of_attempt? h

theorem countP_fails_carried_le_one (rules : List SyncRule) (s : σ) :
    ((carried api rules s).flatMap fun c => c.attempt?.toList).countP Attempt.fails ≤ 1 := by
  induction rules generalizing s with
  | nil => exact Nat.zero_le 1
  | cons rule rest ih =>
    cases h : (carryOut api rule s).value.1 with
    | error e =>
      rw [carried_of_error h, List.flatMap_singleton]
      exact Nat.le_trans List.countP_le_length Option.length_toList_le
    | ok _ =>
      have hrule : (attempt? api rule s).toList.countP Attempt.fails = 0 :=
        countP_fails_toList fun _ hattempt => not_fails_of_carryOut_ok h hattempt
      rw [carried_of_ok h, List.flatMap_cons, List.countP_append, hrule, Nat.zero_add]
      exact ih _

/-! ### What is said -/

/-- What is said to the server to have config maps written or removed. -/
def writings (trace : List Entry) : List (Request × Reply) :=
  (talk trace).filter fun said => said.1.written?.isSome

@[simp] theorem writings_append (first second : List Entry) :
    writings (first ++ second) = writings first ++ writings second := by
  rw [writings, talk_append, List.filter_append, writings, writings]

/-- A request that writes or removes is said, if it can be sent. -/
theorem filter_exchanged? (request : Request) (s : σ) :
    (exchanged? api request s).toList.filter (fun said => said.1.written?.isSome) =
      if request.written?.isSome then (exchanged? api request s).toList else [] := by
  cases h : request.fault? with
  | some fault =>
    rw [exchanged?_of_fault h]
    exact (ite_self []).symm
  | none =>
    rw [exchanged?_of_sendable h]
    simp only [Option.toList_some, List.filter_cons, List.filter_nil]

theorem writings_readSource (source : Location) (s : σ) :
    writings (readSource api source s).trace = [] := by
  rw [readSource]
  split
  · rfl
  · have hread : writings (ask api (.readMap source) ConfigMap.shape s).trace = [] := by
      rw [writings, talk_ask, filter_exchanged?]
      rfl
    rw [readMap, bind_apply, writings_append, hread]
    cases (ask api (.readMap source) ConfigMap.shape s).value.1 <;> rfl

theorem writings_removeCopy (destination : Location) (s : σ) :
    writings (removeCopy api destination s).trace =
      (Attempt.toRemove api destination s).said?.toList := by
  rw [writings, talk_removeCopy, filter_exchanged?]
  rfl

theorem writings_writeCopy (contents : Contents) (s : σ) :
    writings (writeCopy api rule contents s).trace =
      (Attempt.toWrite api rule.destination contents s).said?.toList := by
  rw [writings, talk_writeCopy, filter_exchanged?]
  rfl

theorem writings_carryOut (rule : SyncRule) (s : σ) :
    writings (carryOut api rule s).trace =
      (attempt? api rule s).toList.flatMap fun a => a.said?.toList := by
  have hread : writings (readSource api rule.source s).trace = [] := writings_readSource ..
  rcases carryOut_cases api rule s with
    ⟨e, hattempt, hcarried⟩ | ⟨hattempt, hcarried⟩ | ⟨contents, hattempt, hcarried⟩
  · rw [hattempt, hcarried, hread]
    rfl
  · rw [hattempt, hcarried, writings_append, hread, writings_removeCopy, List.nil_append,
      Option.toList_some, List.flatMap_singleton]
  · rw [hattempt, hcarried, writings_append, hread, writings_writeCopy, List.nil_append,
      Option.toList_some, List.flatMap_singleton]

theorem writings_carryOutAll (rules : List SyncRule) (s : σ) :
    writings (carryOutAll api rules s).trace =
      ((carried api rules s).flatMap fun c => c.attempt?.toList).flatMap fun a =>
        a.said?.toList := by
  induction rules generalizing s with
  | nil => rfl
  | cons rule rest ih =>
    have hrule : writings (carryOut api rule s).trace = _ := writings_carryOut rule s
    cases h : (carryOut api rule s).value.1 with
    | error e =>
      rw [carryOutAll_of_error h, writings_append, hrule, carried_of_error h,
        List.flatMap_singleton]
      exact List.append_nil _
    | ok _ =>
      rw [carryOutAll_of_ok h, writings_append, hrule, carried_of_ok h, List.flatMap_cons,
        List.flatMap_append, ← ih]
      rfl

namespace Occasion

/-- Writing the tree. -/
def written (o : Observer) (api : Api σ) (x : Occasion σ) :
    Traced Entry (Except Failure Unit × σ) :=
  applyMap api ⟨o.space, publishedName⟩ (publishedContents (x.target o)) x.server

/-- The attempt to publish the tree, if it is another one than in memory. -/
def publishing? (o : Observer) (api : Api σ) (x : Occasion σ) : Option Attempt :=
  if x.target o = x.memory.tree then none
  else some (.toWrite api ⟨o.space, publishedName⟩ (publishedContents (x.target o)) x.server)

/-- The rules that the pass carries out. -/
def carriedOut (o : Observer) (api : Api σ) (x : Occasion σ) : List Carried :=
  if x.Publishes o api then
    carried api (x.remembered o).rules.toList (x.publication o api).value.2
  else []

/-- The attempts of the pass, in order. -/
def attempts (o : Observer) (api : Api σ) (x : Occasion σ) : List Attempt :=
  (x.publishing? o api).toList ++ (x.carriedOut o api).flatMap fun c => c.attempt?.toList

variable {o : Observer} {api : Api σ} {x : Occasion σ}

theorem publishing?_of_target_eq (h : x.target o = x.memory.tree) : x.publishing? o api = none :=
  if_pos h

theorem publishing?_of_target_ne (h : x.target o ≠ x.memory.tree) :
    x.publishing? o api =
      some (.toWrite api ⟨o.space, publishedName⟩ (publishedContents (x.target o)) x.server) :=
  if_neg h

theorem carriedOut_of_publishes (h : x.Publishes o api) :
    x.carriedOut o api =
      carried api (x.remembered o).rules.toList (x.publication o api).value.2 := if_pos h

theorem carriedOut_of_not_publishes (h : ¬ x.Publishes o api) : x.carriedOut o api = [] := if_neg h

/-- Another tree that could be written is published. -/
theorem publication_of_written (h : x.target o ≠ x.memory.tree)
    (written : (x.written o api).value.1 = .ok ()) :
    x.publication o api = ⟨(.ok (), (x.written o api).value.2),
      (x.written o api).trace ++
        [.logged ⟨.info, "Observed config changed to " ++ (x.target o).text⟩]⟩ := by
  rw [Occasion.written] at written
  rw [publication, publishChange, if_neg h]
  simp only [bind_apply, publish, written, pure_apply, List.append_nil]
  rfl

/-- Another tree that could not be written is counted, and the failure ends the pass. -/
theorem publication_of_unwritten {failure : Failure} (h : x.target o ≠ x.memory.tree)
    (unwritten : (x.written o api).value.1 = .error failure) :
    x.publication o api = ⟨(.error (.api failure), (x.written o api).value.2),
      (x.written o api).trace ++ [.counted .patchErrors]⟩ := by
  rw [Occasion.written] at unwritten
  rw [publication, publishChange, if_neg h]
  simp only [bind_apply, publish, unwritten, pure_apply, List.append_nil]
  rfl

theorem map_rule_carriedOut_prefix :
    (x.carriedOut o api).map Carried.rule <+: (x.remembered o).rules.toList := by
  by_cases h : x.Publishes o api
  · rw [carriedOut_of_publishes h]
    exact map_rule_carried_prefix ..
  · rw [carriedOut_of_not_publishes h]
    exact List.nil_prefix

theorem map_rule_carriedOut_of_result_ok (h : x.result o api = .ok ()) :
    (x.carriedOut o api).map Carried.rule = (x.remembered o).rules.toList := by
  obtain ⟨hp, hreconciled, -⟩ := result_eq_ok_iff.1 h
  rw [carriedOut_of_publishes hp]
  exact map_rule_carried_of_ok hreconciled

theorem countP_failed_carriedOut_le_one :
    (x.carriedOut o api).countP (fun c => c.result.isOk = false) ≤ 1 := by
  by_cases h : x.Publishes o api
  · rw [carriedOut_of_publishes h]
    exact countP_failed_carried_le_one ..
  · rw [carriedOut_of_not_publishes h]
    exact Nat.zero_le 1

theorem writings_publication :
    writings (x.publication o api).trace =
      (x.publishing? o api).toList.flatMap fun a => a.said?.toList := by
  by_cases h : x.target o = x.memory.tree
  · rw [publication_of_target_eq h, publishing?_of_target_eq h]
    rfl
  have hwritten : writings (x.written o api).trace =
      (x.publishing? o api).toList.flatMap fun a => a.said?.toList := by
    rw [publishing?_of_target_ne h, Option.toList_some, List.flatMap_singleton, Occasion.written,
      applyMap, writings, talk_ask, filter_exchanged?]
    rfl
  rw [← hwritten]
  cases hresult : (x.written o api).value.1 with
  | ok _ =>
    rw [publication_of_written h hresult, writings_append]
    exact List.append_nil _
  | error failure =>
    rw [publication_of_unwritten h hresult, writings_append]
    exact List.append_nil _

/-- What a pass says to have config maps written or removed is what can be sent of its attempts. -/
theorem writings_outcome :
    writings (x.outcome o api).trace = (x.attempts o api).flatMap fun a => a.said?.toList := by
  have hheeding : writings (x.heeding o).trace = [] := by
    rw [writings, heeding, Memory.talk_heedAll, List.filter_nil]
  rw [attempts, List.flatMap_append, ← writings_publication]
  by_cases h : x.Publishes o api
  · rw [outcome_of_publishes h, writings_append, writings_append, hheeding,
      carriedOut_of_publishes h, ← writings_carryOutAll]
    rfl
  · obtain ⟨e, he⟩ := exists_error_of_not_publishes h
    rw [outcome_of_unpublished he, writings_append, hheeding, carriedOut_of_not_publishes h]
    exact (List.append_nil _).symm

theorem not_fails_of_publishes {attempt : Attempt} (h : x.publishing? o api = some attempt)
    (hp : x.Publishes o api) : attempt.fails = false := by
  by_cases heq : x.target o = x.memory.tree
  · rw [publishing?_of_target_eq heq] at h
    cases h
  rw [publishing?_of_target_ne heq] at h
  cases h
  cases hresult : (x.written o api).value.1 with
  | ok _ =>
    rw [Occasion.written] at hresult
    simp only [Attempt.fails, Attempt.isFailedWrite, Attempt.isFailedRemoval, Attempt.toWrite,
      hresult]
    rfl
  | error failure =>
    rw [Publishes, publication_of_unwritten heq hresult] at hp
    cases hp

theorem genuine_of_mem_attempts {attempt : Attempt} (h : attempt ∈ x.attempts o api) :
    attempt.Genuine := by
  rw [attempts, List.mem_append, List.mem_flatMap] at h
  rcases h with hpublishing | ⟨c, hc, hattempt⟩
  · rw [Option.mem_toList, publishing?, Option.ite_none_left_eq_some] at hpublishing
    obtain ⟨-, hwrite⟩ := hpublishing
    cases hwrite
    exact genuine_toWrite ⟨_, .nowhere⟩ ..
  · by_cases hp : x.Publishes o api
    · rw [carriedOut_of_publishes hp] at hc
      exact genuine_of_mem_carried hc (Option.mem_toList.1 hattempt)
    · rw [carriedOut_of_not_publishes hp] at hc
      cases hc

/-- At most one of the attempts of a pass fails. -/
theorem countP_fails_attempts_le_one : (x.attempts o api).countP Attempt.fails ≤ 1 := by
  rw [attempts, List.countP_append]
  by_cases h : x.Publishes o api
  · have hpublishing : (x.publishing? o api).toList.countP Attempt.fails = 0 :=
      countP_fails_toList fun _ hattempt => not_fails_of_publishes hattempt h
    rw [hpublishing, Nat.zero_add, carriedOut_of_publishes h]
    exact countP_fails_carried_le_one _ _
  · rw [carriedOut_of_not_publishes h]
    exact Nat.le_trans List.countP_le_length Option.length_toList_le

end Occasion

end CloudFlags.Operator
