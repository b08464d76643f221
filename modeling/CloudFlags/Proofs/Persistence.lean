import CloudFlags.Proofs.History
import CloudFlags.Proofs.Keeping

/-! The tree in memory and the tree that is kept. They are the same before and after every pass,
except in one case: a publication was carried out although it failed for the operator, and none that
changes anything has been acknowledged since (`kept_iff_not_astray`). For a pass compares the tree
only with the one in memory, and if that is what it observes again, it publishes nothing. -/

namespace CloudFlags.Operator

open Api

variable {σ : Type} {o : Observer} {api : Api σ} {kept : σ → Option String}

/-- The text of a tree stands for that tree. -/
def Readable (tree : Json) : Prop := Json.parse tree.text = .ok tree

instance (tree : Json) : Decidable (Readable tree) :=
  match h : Json.parse tree.text with
  | .ok found =>
    if heq : found = tree then .isTrue (h.trans (congrArg Except.ok heq))
    else .isFalse fun h' => heq (Except.ok.inj (h.symm.trans h'))
  | .error _ => .isFalse fun h' => nomatch h.symm.trans h'

theorem Readable.treeOfText {tree : Json} (h : Readable tree) :
    treeOfText (some tree.text) = .ok tree := by
  rw [Operator.treeOfText, h]
  rfl

theorem publishedText_publishedContents (tree : Json) :
    publishedText (publishedContents tree) = some tree.text := by
  rfl

namespace Occasion

/-- Publishing fails, but the server keeps the tree that was to be published. -/
def Strays (o : Observer) (api : Api σ) (kept : σ → Option String) (x : Occasion σ) : Prop :=
  ¬ x.Publishes o api ∧ kept (x.after o api).server = some (x.target o).text

/-- A new tree is published, and the server says so. -/
def Renews (o : Observer) (api : Api σ) (x : Occasion σ) : Prop :=
  x.Publishes o api ∧ x.target o ≠ x.memory.tree

variable {x : Occasion σ}

theorem kept_after (keeps : Keeps api o.space kept) (copies : o.CopiesOnly x.memory.rules) :
    kept (x.after o api).server = kept (x.publication o api).value.2 := by
  by_cases h : x.Publishes o api
  · rw [after_of_publishes h]
    exact keeps.reconcile (copiesOnly_remembered copies) _
  · rw [after_of_not_publishes h]

/-- What a pass that sends nothing leaves. -/
theorem kept_after_of_target_eq (keeps : Keeps api o.space kept)
    (copies : o.CopiesOnly x.memory.rules) (h : x.target o = x.memory.tree) :
    kept (x.after o api).server = kept x.server := by
  rw [kept_after keeps copies, publication_of_target_eq h]

/-- A tree that is published is kept. -/
theorem kept_after_of_renews (keeps : Keeps api o.space kept)
    (copies : o.CopiesOnly x.memory.rules) (h : x.Renews o api) :
    kept (x.after o api).server = some (x.target o).text := by
  obtain ⟨hp, hne⟩ := h
  obtain ⟨hsendable, hread⟩ := (publishes_iff_of_ne hne).1 hp
  rw [kept_after keeps copies, publication_of_sent hne hsendable,
    ← publishedText_publishedContents]
  exact keeps.acknowledging _ _ hread

/-- One that is not may be kept all the same. -/
theorem kept_after_of_not_publishes (keeps : Keeps api o.space kept)
    (copies : o.CopiesOnly x.memory.rules) (h : ¬ x.Publishes o api) :
    kept (x.after o api).server = kept x.server ∨
      kept (x.after o api).server = some (x.target o).text := by
  have hne : x.target o ≠ x.memory.tree := fun heq => h (publishes_of_target_eq heq)
  rw [kept_after keeps copies, ← publishedText_publishedContents]
  cases hfault : (x.request o).fault? with
  | some fault =>
    rw [publication_of_fault hne hfault]
    exact .inl rfl
  | none =>
    rw [publication_of_sent hne hfault]
    exact keeps.publishing _ _

end Occasion

/-! ### Over a run -/

/-- A failed publication was carried out, and no new tree has been published since. -/
def Astray (o : Observer) (api : Api σ) (kept : σ → Option String) (past : List (Occasion σ)) :
    Prop :=
  Since (Occasion.Strays o api kept) (fun y => ¬ y.Renews o api) past

/-- What is kept between passes: the tree in memory, or while astray another one. -/
structure Persistence (o : Observer) (api : Api σ) (kept : σ → Option String)
    (past : List (Occasion σ)) (world : World σ) : Prop where
  copies : o.CopiesOnly world.memory.rules
  same (h : ¬ Astray o api kept past) :
    treeOfText (kept world.server) = .ok world.memory.tree
  other (h : Astray o api kept past) :
    ∃ tree, treeOfText (kept world.server) = .ok tree ∧ tree ≠ world.memory.tree

namespace Persistence

variable {past : List (Occasion σ)} {world : World σ} {x : Occasion σ}

theorem iff_not_astray (h : Persistence o api kept past world) :
    treeOfText (kept world.server) = .ok world.memory.tree ↔ ¬ Astray o api kept past := by
  refine ⟨fun heq hastray => ?_, h.same⟩
  obtain ⟨tree, htree, hne⟩ := h.other hastray
  exact hne (Except.ok.inj (htree.symm.trans heq))

/-- A pass after which both trees are what they were neither leads astray nor back. -/
theorem of_unchanged {world' : World σ} (h : Persistence o api kept past world)
    (copies : o.CopiesOnly world'.memory.rules) (strays : ¬ x.Strays o api kept)
    (renews : ¬ x.Renews o api) (hkept : kept world'.server = kept world.server)
    (htree : world'.memory.tree = world.memory.tree) :
    Persistence o api kept (past ++ [x]) world' := by
  have hiff : Astray o api kept (past ++ [x]) ↔ Astray o api kept past := by
    rw [Astray, Since.append_singleton_iff, and_iff_left renews, or_iff_right strays]
    rfl
  refine ⟨copies, ?_, ?_⟩
  · rw [hiff, hkept, htree]
    exact h.same
  · rw [hiff, hkept, htree]
    exact h.other

/-- A new tree that is published is both kept and remembered. -/
theorem of_renews (keeps : Keeps api o.space kept) (copies : o.CopiesOnly x.memory.rules)
    (renews : x.Renews o api) (readable : Readable (x.target o)) :
    Persistence o api kept (past ++ [x]) (x.after o api) where
  copies := Occasion.copiesOnly_after copies
  same _ := by
    rw [Occasion.kept_after_of_renews keeps copies renews,
      Occasion.tree_after_of_publishes renews.1]
    exact readable.treeOfText
  other hastray := by
    rcases Since.append_singleton_iff.1 hastray with strays | ⟨-, hnot⟩
    · exact absurd renews.1 strays.1
    · exact absurd renews hnot

/-- One that is kept although publishing failed is not the one in memory. -/
theorem of_strays (copies : o.CopiesOnly x.memory.rules) (strays : x.Strays o api kept)
    (readable : Readable (x.target o)) :
    Persistence o api kept (past ++ [x]) (x.after o api) where
  copies := Occasion.copiesOnly_after copies
  same hnot := absurd (Since.append_singleton_iff.2 (.inl strays)) hnot
  other _ := by
    refine ⟨x.target o, ?_, ?_⟩
    · rw [strays.2]
      exact readable.treeOfText
    · rw [Occasion.tree_after_of_not_publishes strays.1]
      exact fun heq => strays.1 (Occasion.publishes_of_target_eq heq)

theorem step (keeps : Keeps api o.space kept) (h : Persistence o api kept past world)
    (memory : x.memory = world.memory) (alone : kept x.server = kept world.server)
    (readable : Readable (x.target o)) :
    Persistence o api kept (past ++ [x]) (x.after o api) := by
  have copies : o.CopiesOnly x.memory.rules := memory ▸ h.copies
  by_cases renews : x.Renews o api
  · exact of_renews keeps copies renews readable
  by_cases strays : x.Strays o api kept
  · exact of_strays copies strays readable
  -- what is left are the passes that change neither of the two trees
  have hunchanged (hkept : kept (x.after o api).server = kept x.server)
      (htree : (x.after o api).memory.tree = x.memory.tree) :
      Persistence o api kept (past ++ [x]) (x.after o api) :=
    h.of_unchanged (Occasion.copiesOnly_after copies) strays renews (hkept.trans alone)
      (htree.trans (congrArg Memory.tree memory))
  by_cases publishes : x.Publishes o api
  · have heq : x.target o = x.memory.tree :=
      Classical.byContradiction fun hne => renews ⟨publishes, hne⟩
    refine hunchanged (Occasion.kept_after_of_target_eq keeps copies heq) ?_
    rw [Occasion.tree_after_of_publishes publishes, heq]
  · rcases Occasion.kept_after_of_not_publishes keeps copies publishes with hkept | hkept
    · exact hunchanged hkept (Occasion.tree_after_of_not_publishes publishes)
    · exact absurd ⟨publishes, hkept⟩ strays

end Persistence

/-- After every pass the tree kept is the tree in memory, unless a failed publication was carried
out and no new tree has been published since. -/
theorem kept_iff_not_astray (keeps : Keeps api o.space kept) {start : World σ}
    (copies : o.CopiesOnly start.memory.rules)
    (same : treeOfText (kept start.server) = .ok start.memory.tree) {rounds : List (Round σ)}
    (alone : ∀ round ∈ rounds, ∀ s, kept (round.others s) = kept s)
    {past later : List (Occasion σ)} {x : Occasion σ}
    (run : history o api start rounds = past ++ x :: later)
    (readable : ∀ y ∈ past ++ [x], Readable (y.target o)) :
    treeOfText (kept (x.after o api).server) = .ok (x.after o api).memory.tree ↔
      ¬ Astray o api kept (past ++ [x]) := by
  obtain ⟨world, h, round, hround, rfl⟩ := history_induction
    (P := fun past world => (∀ y ∈ past, Readable (y.target o)) → Persistence o api kept past world)
    (fun past world h round hround hreadable => by
      obtain ⟨hpast, hx⟩ := List.forall_mem_append.1 hreadable
      exact (h hpast).step keeps rfl (alone round hround _) (hx _ (List.mem_singleton_self _)))
    (fun _ => ⟨copies, fun _ => same, fun hastray => absurd hastray Since.not_nil⟩) run
  obtain ⟨hpast, hx⟩ := List.forall_mem_append.1 readable
  have hafter := (h hpast).step keeps rfl (alone round hround _) (hx _ (List.mem_singleton_self _))
  exact hafter.iff_not_astray

/-! ### A lost answer -/

section LostAnswer

open Scenario

/-- The text that is kept for the operand with the default settings. -/
def keptText (server : LossyServer) : Option String :=
  server.store.publishedText standardObserver.space

theorem addressed_standard :
    Request.addressed? ⟨standardObserver.space, publishedName⟩ =
      some ⟨standardObserver.space, publishedName⟩ := by
  decide +kernel

theorem keeps_keptText : Keeps LossyServer.api standardObserver.space keptText :=
  LossyServer.keeps (Store.keeps addressed_standard)

/-- The tree that tells of the provider alone. -/
def namedTree : Json := standardObserver.paths.treeOf (some (Json.single "aws")) none

theorem readable_namedTree : Readable namedTree := by
  decide +kernel

theorem readable_empty : Readable Json.empty := by
  decide +kernel

/-- First there is a provider, but no answer arrives. -/
def unheardRound : Round LossyServer := ⟨(awsCache "" "").cluster, LossyServer.mute⟩

/-- Then answers arrive again, but the `Infrastructure` is gone. -/
def unawareRound : Round LossyServer := ⟨Cache.standard.cluster, LossyServer.unmute⟩

def unheard : Occasion LossyServer := unheardRound.occasion ⟨.initial, {}⟩

def unaware : Occasion LossyServer :=
  unawareRound.occasion (unheard.after standardObserver LossyServer.api)

theorem settles_unheard :
    standardObserver.Settles unheard.cluster SyncRule.check (awsInfrastructure "") false none :=
  settles_awsCache _

theorem target_unheard : unheard.target standardObserver = namedTree := by
  rw [Occasion.target_of_settles settles_unheard]
  rfl

theorem target_unaware : unaware.target standardObserver = Json.empty :=
  Occasion.target_of_missing rfl

theorem target_unheard_ne : unheard.target standardObserver ≠ unheard.memory.tree := by
  rw [target_unheard]
  decide +kernel

/-- The tree of the first pass is kept, though the operator does not hear of it. -/
theorem strays_unheard : unheard.Strays standardObserver LossyServer.api keptText := by
  have publishes : ¬ unheard.Publishes standardObserver LossyServer.api := by
    rw [LossyServer.publishes_iff (fault?_standardObserver _)]
    rintro (h | h)
    · exact target_unheard_ne h
    · cases h
  refine ⟨publishes, ?_⟩
  rw [Occasion.kept_after keeps_keptText (Observer.copiesOnly_empty _),
    Occasion.publication_of_sent target_unheard_ne (fault?_standardObserver _),
    ← publishedText_publishedContents]
  exact Store.publishedText_applyMap addressed_standard _ _

theorem memory_unaware : unaware.memory.tree = Json.empty := by
  rw [unaware, Round.occasion_memory, Occasion.tree_after_of_not_publishes strays_unheard.1]
  rfl

theorem result_unaware : unaware.result standardObserver LossyServer.api = .ok () := by
  have same : unaware.target standardObserver = unaware.memory.tree :=
    target_unaware.trans memory_unaware.symm
  have rules : (unaware.remembered standardObserver).rules =
      SyncRules.enforce Table.empty ⟨standardObserver.copyLocation, .nowhere⟩ := by
    rw [Occasion.rules_remembered, Occasion.seen, Observer.accepted_of_missing rfl, unaware,
      Round.occasion_memory, Occasion.rules_after, Occasion.rules_remembered, Occasion.seen,
      Observer.accepted_of_settles settles_unheard]
    rfl
  have errors : (unaware.seen standardObserver).value.errors = [] := by
    rw [Occasion.seen, Observer.observe_of_missing rfl]
  have carried : (unaware.reconciliation standardObserver LossyServer.api).value.1 = .ok () := by
    rw [Occasion.reconciliation, rules, Occasion.publication_of_target_eq same]
    exact LossyServer.reconcile_of_unmuted fault?_removeCopy rfl
  exact Occasion.result_eq_ok_iff.2 ⟨Occasion.publishes_of_target_eq same, carried, errors⟩

/-- The condition is about such runs. -/
theorem kept_unaware_iff :
    treeOfText (keptText (unaware.after standardObserver LossyServer.api).server) =
        .ok (unaware.after standardObserver LossyServer.api).memory.tree ↔
      ¬ Astray standardObserver LossyServer.api keptText ([unheard] ++ [unaware]) := by
  have run : history standardObserver LossyServer.api ⟨.initial, {}⟩ [unheardRound, unawareRound] =
      [unheard] ++ unaware :: [] := rfl
  refine kept_iff_not_astray keeps_keptText (Observer.copiesOnly_empty _) rfl ?_ run ?_
  · intro round hround server
    simp only [List.mem_cons, List.not_mem_nil, or_false] at hround
    rcases hround with rfl | rfl <;> rfl
  · intro y hy
    simp only [List.cons_append, List.nil_append, List.mem_cons, List.not_mem_nil, or_false] at hy
    rcases hy with rfl | rfl
    · rw [target_unheard]
      exact readable_namedTree
    · rw [target_unaware]
      exact readable_empty

/-- A pass that finds nothing wrong can leave another tree kept than the one in memory. -/
theorem not_kept_unaware :
    history standardObserver LossyServer.api ⟨.initial, {}⟩ [unheardRound, unawareRound] =
        [unheard, unaware] ∧
      treeOfText (keptText {}) = .ok Memory.initial.tree ∧
      unaware.result standardObserver LossyServer.api = .ok () ∧
      treeOfText (keptText (unaware.after standardObserver LossyServer.api).server) ≠
        .ok (unaware.after standardObserver LossyServer.api).memory.tree := by
  have lost : Persistence standardObserver LossyServer.api keptText ([] ++ [unheard])
      (unheard.after standardObserver LossyServer.api) :=
    Persistence.of_strays (Observer.copiesOnly_empty _) strays_unheard
      (by rw [target_unheard]; exact readable_namedTree)
  have alone (world : World LossyServer) :
      keptText (unawareRound.occasion world).server = keptText world.server := rfl
  have idle : Persistence standardObserver LossyServer.api keptText ([unheard] ++ [unaware])
      (unaware.after standardObserver LossyServer.api) :=
    lost.step keeps_keptText (unawareRound.occasion_memory _) (alone _)
      (by rw [target_unaware]; exact readable_empty)
  have renews : ¬ unaware.Renews standardObserver LossyServer.api :=
    fun h => h.2 (target_unaware.trans memory_unaware.symm)
  have astray : Astray standardObserver LossyServer.api keptText ([unheard] ++ [unaware]) :=
    Since.append_singleton_iff.2
      (.inr ⟨Since.singleton_iff.2 strays_unheard, renews⟩)
  exact ⟨rfl, rfl, result_unaware, fun h => idle.iff_not_astray.1 h astray⟩

end LostAnswer

end CloudFlags.Operator
