import CloudFlags.Proofs.Encoding
import CloudFlags.Proofs.Outage

/-! What an observation has to do with trees. The tree to publish says the same as the flags that
are observed, and holds nothing besides, whether it was written from these flags or kept from a
previous tree in which anything may have stood (`published_tree_reads_as_flags`). Of the previous
tree an observation sees what stands at the two paths: trees that are alike there lead to the same
observation, to its last notice, and the operator goes on from it in the same way
(`observes_two_paths_only`). Only whether the tree is published yet is a question to the whole of
the previous one. -/

namespace CloudFlags

open Observation Resource

/-! ### The flags and the tree to publish -/

namespace Observation

variable {paths : FlagPaths} {observation : Observation}

/-- If nothing is retained, the flags are read back from the tree to publish. -/
theorem read_published (h : observation.retained = none) :
    paths.read (observation.published paths) = (observation.flags, []) := by
  rw [published, h, Option.getD_none, FlagPaths.read_treeOf]

theorem restrict_published (h : observation.retained = none) :
    paths.restrict (observation.published paths) = observation.published paths := by
  rw [published, h, Option.getD_none, FlagPaths.restrict_treeOf]

end Observation

namespace Observer

variable {o : Observer} {cluster : Cluster} {accept : SyncRule → Except Error Unit}

/-- An observation retains nothing, or it keeps everything as it was. -/
theorem observe_retained_cases (o : Observer) (cluster : Cluster)
    (accept : SyncRule → Except Error Unit) (existing : Json) :
    (o.observe cluster accept existing).value.retained = none ∨
      ∃ e, (o.observe cluster accept existing).value = (o.keep existing e).value := by
  rcases o.observe_ends cluster accept with missing | ⟨stage, e, hf⟩ | ⟨i, external, managed, hs⟩
  · rw [observe_of_missing missing]
    exact .inl rfl
  · rw [observe_of_failsAt hf]
    exact .inr ⟨e, rfl⟩
  · rw [observe_of_settles hs]
    exact .inl (settle_value_retained ..)

/-- The tree to publish is there, reads as the flags observed, and holds nothing that could not be
read at one of the two paths. What is unreadable in it was so in the tree that was kept. -/
theorem published_tree_reads_as_flags (o : Observer) (cluster : Cluster)
    (accept : SyncRule → Except Error Unit) (existing : Json) :
    let seen := (o.observe cluster accept existing).value
    ∃ tree, seen.tree o.paths = .ok tree ∧ o.paths.restrict tree = tree ∧
      o.paths.read tree =
        (seen.flags, if seen.retained.isSome then (o.paths.read existing).2 else []) := by
  intro seen
  refine ⟨seen.published o.paths, tree_eq_published .., ?_⟩
  rcases o.observe_retained_cases cluster accept existing with fresh | ⟨e, kept⟩
  · have hfresh : seen.retained = none := fresh
    refine ⟨restrict_published hfresh, ?_⟩
    rw [read_published hfresh, hfresh]
    rfl
  · have hkept : seen = (o.keep existing e).value := kept
    have htree : seen.published o.paths = o.paths.restrict existing := by
      rw [hkept]
      rfl
    rw [htree, hkept, (o.paths.alike_restrict existing).read_eq]
    exact ⟨o.paths.restrict_restrict existing, rfl⟩

/-! ### Two previous trees -/

variable {t t' : Json}

theorem keep_of_alike (h : o.paths.Alike t t') (e : Error) : o.keep t e = o.keep t' e := by
  rw [keep, keep, h.read_eq, h.restrict_eq]

theorem settle_of_alike (h : o.paths.Alike t t') (name : Option String)
    (source : Option ConfigSource) : o.settle t name source = o.settle t' name source := by
  cases source with
  | none => rfl
  | some source => rw [settle, settle, previousFile, previousFile, KeyPath.readList_congr h.config]

/-- Trees that are alike at the two paths cannot be told apart by an observation. -/
theorem observe_of_alike (h : o.paths.Alike t t') :
    o.observe cluster accept t = o.observe cluster accept t' := by
  rcases o.observe_ends cluster accept with missing | ⟨stage, e, hf⟩ | ⟨i, external, managed, hs⟩
  · rw [observe_of_missing missing, observe_of_missing missing]
  · rw [observe_of_failsAt hf, observe_of_failsAt hf, keep_of_alike h]
  · rw [observe_of_settles hs, observe_of_settles hs, settle_of_alike h]

end Observer

namespace Operator

variable {σ : Type}

theorem Memory.heed_withTree (memory : Memory) (tree : Json) (notice : Notice) :
    ({ memory with tree } : Memory).heed notice =
      ⟨{ (memory.heed notice).value with tree }, (memory.heed notice).trace⟩ := by
  cases notice with
  | requested rule accepted => cases accepted <;> rfl
  | _ => rfl

/-- Heeding notices does not look at the tree. -/
theorem Memory.heedAll_withTree (memory : Memory) (tree : Json) (notices : List Notice) :
    ({ memory with tree } : Memory).heedAll notices =
      ⟨{ (memory.heedAll notices).value with tree }, (memory.heedAll notices).trace⟩ := by
  induction notices generalizing memory with
  | nil => rfl
  | cons notice rest ih =>
    simp only [heedAll, Traced.bind_eq, heed_withTree, ih]

/-- The occasion with another tree in memory. -/
def Occasion.withTree (x : Occasion σ) (tree : Json) : Occasion σ :=
  { x with memory := { x.memory with tree } }

variable {o : Observer} {x : Occasion σ} {tree : Json}

theorem Occasion.seen_withTree (h : o.paths.Alike x.memory.tree tree) :
    (x.withTree tree).seen o = x.seen o :=
  (Observer.observe_of_alike h).symm

theorem Occasion.heeding_withTree (h : o.paths.Alike x.memory.tree tree) :
    (x.withTree tree).heeding o =
      ⟨{ (x.heeding o).value with tree }, (x.heeding o).trace⟩ := by
  rw [heeding, seen_withTree h, withTree, Memory.heedAll_withTree]
  rfl

theorem Occasion.target_withTree (h : o.paths.Alike x.memory.tree tree) :
    (x.withTree tree).target o = x.target o := by
  rw [target, seen_withTree h, target]

end Operator

/-- An observation sees what stands at the two paths, and nothing else of the previous tree: it
comes to the same, with the same notices, for any other tree that is alike there. So the operator
does the same on its account, comes to the same tree, rules and events, and publishes the same. -/
theorem Observer.observes_two_paths_only {σ : Type} (o : Observer) (cluster : Cluster)
    (accept : SyncRule → Except Error Unit) :
    (∀ tree, o.observe cluster accept (o.paths.restrict tree) = o.observe cluster accept tree) ∧
      (∀ t t', o.paths.Alike t t' → o.observe cluster accept t = o.observe cluster accept t') ∧
      ∀ (x : Operator.Occasion σ) (tree : Json), o.paths.Alike x.memory.tree tree →
        ((x.withTree tree).heeding o).trace = (x.heeding o).trace ∧
          (x.withTree tree).remembered o = x.remembered o ∧
          (x.withTree tree).request o = x.request o := by
  refine ⟨fun tree => observe_of_alike (o.paths.alike_restrict tree),
    fun t t' h => observe_of_alike h, fun x tree h => ⟨?_, ?_, ?_⟩⟩
  · rw [Operator.Occasion.heeding_withTree h]
  · rw [Operator.Occasion.remembered, Operator.Occasion.heeding_withTree h,
      Operator.Occasion.target_withTree h]
    rfl
  · rw [Operator.Occasion.request, Operator.Occasion.target_withTree h]
    rfl

section Clutter

open Scenario

/-- No file can be read from the list. -/
def unreadableList : Json := .arr [.num (.int 7)]

def bareTree : Json := .obj [("extendedArguments", .obj [("cloud-config", unreadableList)])]

/-- The list in a tree with more in it. -/
def clutteredTree : Json :=
  .obj [("extendedArguments", .obj [("cloud-config", unreadableList), ("v", .str "2")]),
    ("kind", .null)]

/-- What else stands in a tree is not seen, even as the file in it cannot be read. -/
theorem observes_two_paths_only_clutteredTree :
    standardObserver.paths.Alike bareTree clutteredTree ∧
      let cluster := (awsCache "cloud-provider-config" "").cluster
      standardObserver.observe cluster SyncRule.check bareTree =
        standardObserver.observe cluster SyncRule.check clutteredTree := by
  have alike : standardObserver.paths.Alike bareTree clutteredTree := ⟨rfl, rfl⟩
  refine ⟨alike, ?_⟩
  exact (@Observer.observes_two_paths_only LossyServer standardObserver _ _).2.1 _ _ alike

end Clutter

end CloudFlags
