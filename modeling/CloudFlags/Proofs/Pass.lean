import CloudFlags.Proofs.Confinement
import CloudFlags.Proofs.Notices

/-! One pass, from what it finds to what it leaves. A pass first heeds what it observes, then
publishes the tree of its observation unless that is the tree in memory, and last carries out the
rules. If publishing fails, the pass ends with the tree as it was; otherwise it goes on with the
tree observed (`Occasion.outcome_of_publishes`, `Occasion.outcome_of_unpublished`). The rules are
those after the observation in either case. -/

namespace CloudFlags

/-- The rules make the operand's copy, and nothing else. -/
def Observer.CopiesOnly (o : Observer) (rules : SyncRules) : Prop :=
  ∀ rule ∈ rules.toList, rule.destination = o.copyLocation

theorem Observer.copiesOnly_empty (o : Observer) : o.CopiesOnly Table.empty :=
  fun _ h => absurd h List.not_mem_nil

namespace Operator

open Api Exchange Resource

variable {σ : Type}

theorem verdict_eq_ok_iff {errors : List Error} : verdict errors = .ok () ↔ errors = [] := by
  cases errors with
  | nil => exact iff_of_true rfl rfl
  | cons e rest => simp [verdict]

theorem verdict_of_ne_nil {errors : List Error} (h : errors ≠ []) :
    verdict errors = .error (.observation errors) := by
  cases errors with
  | nil => exact absurd rfl h
  | cons e rest => rfl

/-- What there is between passes: the memory of the operator, and the server. -/
structure World (σ : Type) where
  memory : Memory
  server : σ

/-- What a pass finds. -/
structure Occasion (σ : Type) where
  cluster : Cluster
  memory : Memory
  server : σ

namespace Occasion

variable (o : Observer) (api : Api σ) (x : Occasion σ)

/-- What the pass observes. -/
def seen : Traced Notice Observation := o.observe x.cluster SyncRule.check x.memory.tree

/-- The tree that the pass is to publish. -/
def target : Json := (x.seen o).value.published o.paths

/-- What becomes of the memory as it heeds what was observed. -/
def heeding : Traced Entry Memory := x.memory.heedAll (x.seen o).trace

/-- The request by which that tree is published. -/
def request : Request := .applyMap ⟨o.space, publishedName⟩ (publishedContents (x.target o))

/-- What the server makes of the request, and whether its answer can be read. -/
def answered : Except Failure Unit × σ :=
  let answer := api.answer (x.request o) x.server
  (answer.1.read (ConfigMap.shape.map fun _ => ()), answer.2)

/-- Publishing the tree observed, if it is another one. -/
def publication : Traced Entry (Except Error Unit × σ) :=
  publishChange api o.space x.memory.tree (x.target o) x.server

/-- Publishing does not fail, so that the pass comes to carrying out rules. -/
def Publishes : Prop := (x.publication o api).value.1 = .ok ()

instance : Decidable (x.Publishes o api) :=
  match h : (x.publication o api).value.1 with
  | .ok _ => .isTrue h
  | .error _ => .isFalse fun h' => nomatch h.symm.trans h'

/-- The memory with which the rules are carried out. -/
def remembered : Memory := { (x.heeding o).value with tree := x.target o }

/-- Carrying out the rules in force. -/
def reconciliation : Traced Entry (Except Error Unit × σ) :=
  reconcile api (x.remembered o).rules (x.publication o api).value.2

def outcome : Traced Entry ((Except Error Unit × Memory) × σ) :=
  pass o api x.cluster x.memory x.server

def result : Except Error Unit := (x.outcome o api).value.1.1

/-- What the pass leaves. -/
def after : World σ := ⟨(x.outcome o api).value.1.2, (x.outcome o api).value.2⟩

variable {o api x}

theorem tree_seen : (x.seen o).value.tree o.paths = .ok (x.target o) :=
  Observation.tree_eq_published ..

/-- What follows the observation. -/
theorem outcome_eq :
    x.outcome o api =
      let rest : Exchange σ (Except Error Unit × Memory) := do
        match ← publishChange api o.space x.memory.tree (x.target o) with
        | .error e => return (.error e, (x.heeding o).value)
        | .ok () =>
          match ← reconcile api (x.remembered o).rules with
          | .error e => return (.error e, x.remembered o)
          | .ok () => return (verdict (x.seen o).value.errors, x.remembered o)
      ⟨(rest x.server).value, (x.heeding o).trace ++ (rest x.server).trace⟩ := by
  have htree : (o.observe x.cluster SyncRule.check x.memory.tree).value.tree o.paths =
      .ok (x.target o) := tree_seen
  have hold : (x.heeding o).value.tree = x.memory.tree := Memory.heedAll_tree ..
  simp only [heeding, seen] at hold
  simp only [outcome, pass, bind_apply, lift_apply, htree, hold]
  rfl

theorem outcome_of_publishes (h : x.Publishes o api) :
    x.outcome o api =
      ⟨(((x.reconciliation o api).value.1.bind fun _ => verdict (x.seen o).value.errors,
        x.remembered o), (x.reconciliation o api).value.2),
        (x.heeding o).trace ++
          ((x.publication o api).trace ++ (x.reconciliation o api).trace)⟩ := by
  rw [Publishes, publication] at h
  rw [outcome_eq]
  simp only [bind_apply, h, reconciliation, publication]
  cases (reconcile api (x.remembered o).rules _).value.1 <;>
    simp only [pure_apply, List.append_nil, Except.bind]

theorem outcome_of_unpublished {e : Error} (h : (x.publication o api).value.1 = .error e) :
    x.outcome o api =
      ⟨((.error e, (x.heeding o).value), (x.publication o api).value.2),
        (x.heeding o).trace ++ (x.publication o api).trace⟩ := by
  rw [publication] at h
  rw [outcome_eq]
  simp only [bind_apply, h, publication, pure_apply, List.append_nil]

/-! ### What is to be published -/

theorem target_of_missing (missing : x.cluster.infrastructure = .ok none) :
    x.target o = o.paths.treeOf none none :=
  Observer.published_of_missing missing _

theorem target_of_failsAt {stage : Observer.Stage} {e : Error}
    (h : o.FailsAt x.cluster SyncRule.check stage e) :
    x.target o = o.paths.restrict x.memory.tree :=
  Observer.published_of_failsAt h _

theorem target_of_settles {i : Infrastructure} {external : Bool} {managed : Option ConfigMap}
    (h : o.Settles x.cluster SyncRule.check i external managed) :
    x.target o =
      o.paths.treeOf
        ((Observer.providerName external i.platform.inTree?).map Json.single)
        ((Observer.sourceFor i managed).map fun source => Json.single source.file) :=
  Observer.published_of_settles h _

/-! ### What is left -/

theorem exists_error_of_not_publishes (h : ¬ x.Publishes o api) :
    ∃ e, (x.publication o api).value.1 = .error e := by
  rw [Publishes] at h
  cases hp : (x.publication o api).value.1 with
  | ok _ => exact absurd hp h
  | error e => exact ⟨e, rfl⟩

theorem after_of_publishes (h : x.Publishes o api) :
    x.after o api = ⟨x.remembered o, (x.reconciliation o api).value.2⟩ := by
  rw [after, outcome_of_publishes h]

theorem after_of_not_publishes (h : ¬ x.Publishes o api) :
    x.after o api = ⟨(x.heeding o).value, (x.publication o api).value.2⟩ := by
  obtain ⟨e, he⟩ := exists_error_of_not_publishes h
  rw [after, outcome_of_unpublished he]

/-- A tree that was published is remembered. -/
theorem tree_after_of_publishes (h : x.Publishes o api) :
    (x.after o api).memory.tree = x.target o := by
  rw [after_of_publishes h]
  rfl

/-- A tree that could not be published is not. -/
theorem tree_after_of_not_publishes (h : ¬ x.Publishes o api) :
    (x.after o api).memory.tree = x.memory.tree := by
  rw [after_of_not_publishes h]
  exact Memory.heedAll_tree ..

theorem rules_remembered :
    (x.remembered o).rules =
      ((x.seen o).trace.filterMap Notice.accepted?).foldl SyncRules.enforce x.memory.rules :=
  Memory.heedAll_rules ..

/-- The rules are those after the observation, whether or not its tree could be published. -/
theorem rules_after : (x.after o api).memory.rules = (x.remembered o).rules := by
  by_cases h : x.Publishes o api
  · rw [after_of_publishes h]
  · rw [after_of_not_publishes h]
    rfl

/-- An observation adds no rule but the one for the operand's copy, from the source that was found.
-/
theorem mem_rules_remembered {rule : SyncRule} (h : rule ∈ (x.remembered o).rules.toList) :
    rule ∈ x.memory.rules.toList ∨
      ∃ i managed, rule = o.copyRule (Observer.sourceFor i managed) := by
  rw [rules_remembered, seen] at h
  rcases o.observe_ends x.cluster SyncRule.check with
    missing | ⟨stage, e, hf⟩ | ⟨i, external, managed, hs⟩
  · rw [Observer.accepted_of_missing missing] at h
    exact .inl h
  · rw [Observer.accepted_of_failsAt hf] at h
    exact .inl h
  · rw [Observer.accepted_of_settles hs] at h
    rcases SyncRules.mem_toList_enforce h with rfl | h
    · exact .inr ⟨i, managed, rfl⟩
    · exact .inl h

theorem copiesOnly_remembered (h : o.CopiesOnly x.memory.rules) :
    o.CopiesOnly (x.remembered o).rules := by
  intro rule hrule
  rcases mem_rules_remembered hrule with hold | ⟨i, managed, rfl⟩
  · exact h rule hold
  · rfl

theorem copiesOnly_after (h : o.CopiesOnly x.memory.rules) :
    o.CopiesOnly (x.after o api).memory.rules := by
  rw [rules_after]
  exact copiesOnly_remembered h

/-! ### Publishing -/

/-- A tree that is in memory already is not sent anywhere. -/
theorem publication_of_target_eq (h : x.target o = x.memory.tree) :
    x.publication o api = ⟨(.ok (), x.server), []⟩ := by
  rw [publication, publishChange, if_pos h]
  rfl

theorem publishes_of_target_eq (h : x.target o = x.memory.tree) : x.Publishes o api := by
  rw [Publishes, publication_of_target_eq h]

/-- A request that cannot be sent leaves the server as it is. -/
theorem publication_of_fault {fault : RequestFault} (hne : x.target o ≠ x.memory.tree)
    (h : (x.request o).fault? = some fault) :
    (x.publication o api).value = (.error (.api (.unsendable fault)), x.server) := by
  rw [request] at h
  rw [publication, publishChange, if_neg hne]
  simp only [bind_apply, publish, applyMap, ask, h]
  rfl

/-- One that is sent leaves what the server makes of it, and succeeds if its answer can be read. -/
theorem publication_of_sent (hne : x.target o ≠ x.memory.tree)
    (h : (x.request o).fault? = none) :
    (x.publication o api).value =
      ((x.answered o api).1.mapError .api, (x.answered o api).2) := by
  rw [request] at h
  rw [publication, publishChange, if_neg hne]
  simp only [bind_apply, publish, applyMap, ask, h, send, pure_apply, answered, request]
  cases Reply.read (ConfigMap.shape.map fun _ => ()) _ <;> rfl

/-- Another tree than in memory is to be written, and this fails: the request cannot be sent, or it
is not answered as it should be. -/
inductive WriteFails (o : Observer) (api : Api σ) (x : Occasion σ) : Failure → Prop where
  | unsendable {fault : RequestFault} (differs : x.target o ≠ x.memory.tree)
      (unsent : (x.request o).fault? = some fault) : WriteFails o api x (.unsendable fault)
  | answered {failure : Failure} (differs : x.target o ≠ x.memory.tree)
      (sendable : (x.request o).fault? = none)
      (failed : (x.answered o api).1 = .error failure) : WriteFails o api x failure

theorem publication_error_iff {e : Error} :
    (x.publication o api).value.1 = .error e ↔
      ∃ failure, x.WriteFails o api failure ∧ e = .api failure := by
  by_cases h : x.target o = x.memory.tree
  · rw [publication_of_target_eq h]
    refine iff_of_false (fun h => by cases h) ?_
    rintro ⟨failure, hfails, -⟩
    cases hfails with
    | unsendable differs => exact differs h
    | answered differs => exact differs h
  cases hfault : (x.request o).fault? with
  | some fault =>
    rw [publication_of_fault h hfault]
    constructor
    · intro he
      cases he
      exact ⟨_, .unsendable h hfault, rfl⟩
    · rintro ⟨failure, hfails, rfl⟩
      cases hfails with
      | unsendable _ unsent =>
        rw [hfault] at unsent
        cases unsent
        rfl
      | answered _ sendable =>
        rw [hfault] at sendable
        cases sendable
  | none =>
    rw [publication_of_sent h hfault]
    constructor
    · intro he
      cases hanswered : (x.answered o api).1 with
      | ok _ =>
        rw [hanswered] at he
        cases he
      | error failure =>
        rw [hanswered] at he
        cases he
        exact ⟨failure, .answered h hfault hanswered, rfl⟩
    · rintro ⟨failure, hfails, rfl⟩
      cases hfails with
      | unsendable _ unsent =>
        rw [hfault] at unsent
        cases unsent
      | answered _ _ failed =>
        rw [failed]
        rfl

theorem publishes_iff_not_writeFails :
    x.Publishes o api ↔ ∀ failure, ¬ x.WriteFails o api failure := by
  constructor
  · intro hp failure hfails
    have herror : (x.publication o api).value.1 = .error (.api failure) :=
      publication_error_iff.2 ⟨failure, hfails, rfl⟩
    rw [Publishes, herror] at hp
    cases hp
  · intro h
    refine Decidable.byContradiction fun hp => ?_
    obtain ⟨e, he⟩ := exists_error_of_not_publishes hp
    obtain ⟨failure, hfails, -⟩ := publication_error_iff.1 he
    exact h failure hfails

theorem publishes_iff_of_ne (hne : x.target o ≠ x.memory.tree) :
    x.Publishes o api ↔ (x.request o).fault? = none ∧ (x.answered o api).1 = .ok () := by
  rw [publishes_iff_not_writeFails]
  constructor
  · intro h
    cases hfault : (x.request o).fault? with
    | some fault => exact absurd (.unsendable hne hfault) (h _)
    | none =>
      cases hanswered : (x.answered o api).1 with
      | ok _ => exact ⟨rfl, rfl⟩
      | error failure => exact absurd (.answered hne hfault hanswered) (h _)
  · rintro ⟨sendable, hanswered⟩ failure hfails
    cases hfails with
    | unsendable _ unsent =>
      rw [sendable] at unsent
      cases unsent
    | answered _ _ failed =>
      rw [hanswered] at failed
      cases failed

/-! ### The result -/

theorem result_of_publishes (h : x.Publishes o api) :
    x.result o api =
      (x.reconciliation o api).value.1.bind fun _ => verdict (x.seen o).value.errors := by
  rw [result, outcome_of_publishes h]

theorem result_of_unpublished {e : Error} (h : (x.publication o api).value.1 = .error e) :
    x.result o api = .error e := by
  rw [result, outcome_of_unpublished h]

/-- A pass succeeds if publishing and carrying out rules do, and the observation reported nothing.
-/
theorem result_eq_ok_iff :
    x.result o api = .ok () ↔
      x.Publishes o api ∧ (x.reconciliation o api).value.1 = .ok () ∧
        (x.seen o).value.errors = [] := by
  by_cases hp : x.Publishes o api
  · rw [result_of_publishes hp, and_iff_right hp, ← verdict_eq_ok_iff]
    cases (x.reconciliation o api).value.1 with
    | error e => simp [Except.bind]
    | ok _ => simp [Except.bind]
  · obtain ⟨e, he⟩ := exists_error_of_not_publishes hp
    rw [result_of_unpublished he]
    exact iff_of_false (fun h => by cases h) fun h => hp h.1

end Occasion

end Operator

end CloudFlags
