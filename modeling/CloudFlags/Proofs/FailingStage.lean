import CloudFlags.Proofs.Outage

/-! A stage that fails leaves everything as it was. The observation ends with that one error; the
tree to publish is the part of the previous tree at the two paths, untouched, whatever stood there;
no later stage is consulted, no change of the file is recorded, and no rule comes into force. Only
an observation in which no stage fails publishes flags of its own. -/

namespace CloudFlags.Observer

open Observation Resource

variable {o : Observer} {cluster : Cluster} {accept : SyncRule → Except Error Unit}

theorem stage_le_of_precedesFailure {stage consulted : Stage} {notice : Notice}
    (h : notice.PrecedesFailure stage) (hs : notice.stage? = some consulted) :
    consulted.rank ≤ stage.rank := by
  cases notice with
  | lookedUp kind name =>
    cases hs
    exact h
  | requested rule accepted =>
    cases hs
    obtain ⟨rfl, -⟩ := h
    exact Nat.le_refl _
  | recorded event => cases hs
  | warned text => cases hs

theorem errors_of_failsAt {stage : Stage} {e : Error} (h : o.FailsAt cluster accept stage e)
    (existing : Json) : (o.observe cluster accept existing).value.errors = [e] := by
  rw [observe_of_failsAt h]
  rfl

/-- What is retained shows that a stage failed. -/
theorem retained_of_not_failsAt (h : ∀ stage e, ¬ o.FailsAt cluster accept stage e)
    (existing : Json) : (o.observe cluster accept existing).value.retained = none := by
  rcases o.observe_ends cluster accept with missing | ⟨stage, e, hf⟩ | ⟨i, external, managed, hs⟩
  · rw [observe_of_missing missing]
  · exact absurd hf (h stage e)
  · rw [observe_of_settles hs]
    exact settle_value_retained ..

/-- A pass in which a stage fails ends with an error, whatever the server does. -/
theorem exists_error_of_failsAt {σ : Type} {api : Api σ} {x : Operator.Occasion σ}
    {stage : Stage} {e : Error} (h : o.FailsAt x.cluster SyncRule.check stage e) :
    ∃ e', x.result o api = .error e' := by
  have herrors : (x.seen o).value.errors = [e] := errors_of_failsAt h x.memory.tree
  cases hresult : x.result o api with
  | error e' => exact ⟨e', rfl⟩
  | ok _ =>
    obtain ⟨-, -, hnone⟩ := Operator.Occasion.result_eq_ok_iff.1 hresult
    rw [herrors] at hnone
    cases hnone

/-- Whichever stage fails, and whatever the previous tree, everything stays as it was; and if none
fails, the tree of the flags is published. -/
theorem failing_stage_keeps_configuration (o : Observer) (cluster : Cluster)
    (accept : SyncRule → Except Error Unit) (existing : Json) :
    let seen := o.observe cluster accept existing
    (∀ stage e, o.FailsAt cluster accept stage e →
      seen.value.errors = [e] ∧
      seen.value.tree o.paths = .ok (o.paths.restrict existing) ∧
      o.paths.name.get? (o.paths.restrict existing) = o.paths.name.get? existing ∧
      o.paths.config.get? (o.paths.restrict existing) = o.paths.config.get? existing ∧
      (∀ event, .recorded event ∈ seen.trace → event.reason ≠ changeReason) ∧
      (∀ notice ∈ seen.trace, ∀ consulted, notice.stage? = some consulted →
        consulted.rank ≤ stage.rank) ∧
      ∀ memory : Operator.Memory, (memory.heedAll seen.trace).value.rules = memory.rules) ∧
    ((∀ stage e, ¬ o.FailsAt cluster accept stage e) →
      seen.value.retained = none ∧
        ∃ tree, o.paths.write seen.value.flags = .ok tree ∧
          seen.value.tree o.paths = .ok tree) := by
  intro seen
  constructor
  · intro stage e h
    have notes {notice : Notice} (hn : notice ∈ seen.trace) : notice.PrecedesFailure stage :=
      precedesFailure_of_mem_trace h hn
    refine ⟨errors_of_failsAt h existing, ?_, o.paths.get?_name_restrict existing,
      o.paths.get?_config_restrict existing, fun event hn => notes hn,
      fun notice hn consulted => stage_le_of_precedesFailure (notes hn), fun memory => ?_⟩
    · rw [tree_eq_published, published_of_failsAt h]
    · rw [Operator.Memory.heedAll_rules, accepted_of_failsAt h]
      rfl
  · intro h
    have hr : seen.value.retained = none := retained_of_not_failsAt h existing
    refine ⟨hr, seen.value.published o.paths, ?_, tree_eq_published ..⟩
    rw [published, hr, o.paths.write_eq_ok]
    rfl

open Scenario in
/-- With a feature set that is unknown even a tree in which nothing can be read stays. -/
theorem unknown_featureSet_keeps_configuration :
    let seen := standardObserver.observe (awsCache "" "Unknown").cluster SyncRule.check
      (.str "garbled")
    seen.value.errors = [.externalProviderState (.unknownFeatureSet "Unknown")] ∧
      seen.value.tree standardObserver.paths =
        .ok (standardObserver.paths.restrict (.str "garbled")) := by
  obtain ⟨errors, tree, -⟩ := (failing_stage_keeps_configuration standardObserver
    (awsCache "" "Unknown").cluster SyncRule.check (.str "garbled")).1 _ _ (failsAt_awsCache "")
  exact ⟨errors, tree⟩

end CloudFlags.Observer
