import CloudFlags.Operator.Schedule
import CloudFlags.Proofs.History
import CloudFlags.Proofs.Restoring

/-! Starting again after any pass of a run on a server that does everything it is asked and whose
published config map no one else writes. The tree in memory is then the one found at the start, or
it was published; so it is found again, unless it nests deeper than is allowed for reading
(`exists_restore_iff_of_history`). Flags nest one container deeper than their paths are long, and
the settings allow for paths of any length: with one of too many keys, what the operator publishes
cannot be read again (`malformed_firstRound`). -/

namespace CloudFlags.Operator

open Api Json Resource

variable {σ : Type} {o : Observer}

/-! ### What a pass publishes -/

namespace Occasion

variable {x : Occasion σ} {Q : Json → Prop}

/-- The tree to be published holds what stood at the two paths, or flags. -/
theorem target_eq_restrict_or_treeOf :
    x.target o = o.paths.restrict x.memory.tree ∨ ∃ name config : Option String,
      x.target o = o.paths.treeOf (name.map Json.single) (config.map Json.single) := by
  rcases o.observe_ends x.cluster SyncRule.check with
    missing | ⟨stage, e, hf⟩ | ⟨i, external, managed, hs⟩
  · exact .inr ⟨none, none, target_of_missing missing⟩
  · exact .inl (target_of_failsAt hf)
  · refine .inr ⟨Observer.providerName external i.platform.inTree?,
      (Observer.sourceFor i managed).map ConfigSource.file, ?_⟩
    rw [target_of_settles hs, Option.map_map]
    rfl

/-- What holds of the tree in memory, and of flags, holds of the tree to be published. -/
theorem everywhere_target (grows : Grows Q) (flag : ∀ s, (Json.single s).Everywhere Q)
    (h : x.memory.tree.Everywhere Q) : (x.target o).Everywhere Q := by
  have flags (flag? : Option String) : ∀ w ∈ flag?.map Json.single, w.Everywhere Q := by
    intro w hw
    obtain ⟨s, -, rfl⟩ := Option.map_eq_some_iff.1 hw
    exact flag s
  rcases target_eq_restrict_or_treeOf with heq | ⟨name, config, heq⟩
  · rw [heq]
    exact .restrict grows o.paths h
  · rw [heq]
    exact .treeOf grows o.paths (flags name) (flags config)

/-- A flag takes up one container below its path. -/
theorem depth_target_le {d : Nat} (name : o.paths.name.keys.length < d)
    (config : o.paths.config.keys.length < d) (h : x.memory.tree.depth ≤ d) :
    (x.target o).depth ≤ d := by
  have flags {keys : List String} (hkeys : keys.length < d) (flag? : Option String) :
      ∀ w ∈ flag?.map Json.single, keys.length + w.depth ≤ d := by
    intro w hw
    obtain ⟨s, -, rfl⟩ := Option.map_eq_some_iff.1 hw
    exact hkeys
  have hd : 1 ≤ d := Nat.one_le_of_lt name
  rcases target_eq_restrict_or_treeOf with heq | ⟨nameFlag, configFlag, heq⟩
  · rw [heq]
    exact o.paths.depth_restrict_le hd h
  · rw [heq]
    exact o.paths.depth_treeOf_le hd (flags name nameFlag) (flags config configFlag)

end Occasion

/-! ### On a server that obeys -/

variable {api : Api σ} {store : σ → Store}

/-- What is found again stays the same while the published config map does. -/
theorem restore_congr (obeys : Obeys api store) {space : String} {s s' : σ} {tree : Json}
    (addresses : Request.Addresses ⟨space, publishedName⟩)
    (same : (store s').find? ⟨space, publishedName⟩ = (store s).find? ⟨space, publishedName⟩)
    (h : (restore api space s).value.1 = .ok tree) : (restore api space s').value.1 = .ok tree := by
  have sendable := fault?_of_restore h
  have tells := obeys.tells ⟨space, publishedName⟩ s
  have tells' := obeys.tells ⟨space, publishedName⟩ s'
  have htold : (store s').told? ⟨space, publishedName⟩ = (store s).told? ⟨space, publishedName⟩ :=
    Store.told?_congr fun kept haddressed => (addresses kept haddressed).symm ▸ same
  rw [htold] at tells'
  match told : (store s).told? ⟨space, publishedName⟩ with
  | none =>
    rw [told] at tells tells'
    rw [restore_of_tells_none sendable tells']
    exact (restore_of_tells_none sendable tells).symm.trans h
  | some none =>
    rw [told] at tells
    obtain ⟨failure, hfails⟩ := restore_of_tells_unreadable sendable tells
    cases h.symm.trans hfails
  | some (some contents) =>
    rw [told] at tells tells'
    rw [restore_of_tells sendable tells', ← restore_of_tells sendable tells, h]

/-- What there is between passes on a server that obeys and whose config map for the tree no one
else writes: either the tree in memory is the one found at the start, or it was published. -/
structure Restartable (o : Observer) (api : Api σ) (store : σ → Store) (world : World σ) :
    Prop where
  copies : o.CopiesOnly world.memory.rules
  sendable : (Request.readMap ⟨o.space, publishedName⟩).fault? = none
  tables : world.memory.tree.Everywhere IsTable
  numbers : world.memory.tree.Everywhere (IfNumber Number.ReadsBack)
  found (addressed : Request.addressed? ⟨o.space, publishedName⟩ = some ⟨o.space, publishedName⟩) :
    (restore api o.space world.server).value.1 = .ok world.memory.tree ∨
      (store world.server).find? ⟨o.space, publishedName⟩ =
        some (.ofContents (publishedContents world.memory.tree))
  shallow (name : o.paths.name.keys.length < maxDepth)
    (config : o.paths.config.keys.length < maxDepth) : world.memory.tree.depth ≤ maxDepth

namespace Restartable

variable {world : World σ} {x : Occasion σ}

theorem start (started : (restore api o.space world.server).value.1 = .ok world.memory.tree)
    (copies : o.CopiesOnly world.memory.rules)
    (numbers : world.memory.tree.Everywhere (IfNumber Number.ReadsBack)) :
    Restartable o api store world where
  copies := copies
  sendable := fault?_of_restore started
  tables := isTable_of_restore started
  numbers := numbers
  found _ := .inl started
  shallow _ _ := depth_le_of_restore started

/-- A pass leaves the published config map alone, or makes it hold the tree that is in memory
afterwards. -/
theorem find?_published_cases (obeys : Obeys api store) (copies : o.CopiesOnly x.memory.rules)
    (addressed : Request.addressed? ⟨o.space, publishedName⟩ = some ⟨o.space, publishedName⟩) :
    ((x.after o api).memory.tree = x.memory.tree ∧
        (store (x.after o api).server).find? ⟨o.space, publishedName⟩ =
          (store x.server).find? ⟨o.space, publishedName⟩) ∨
      (store (x.after o api).server).find? ⟨o.space, publishedName⟩ =
        some (.ofContents (publishedContents (x.after o api).memory.tree)) := by
  by_cases hp : x.Publishes o api
  · rw [Occasion.find?_published_after obeys.serves copies hp,
      Occasion.tree_after_of_publishes hp, Occasion.publishedAfter]
    by_cases heq : x.target o = x.memory.tree
    · exact .inl ⟨heq, if_neg fun h => h.1 heq⟩
    · exact .inr (if_pos ⟨heq, addressed⟩)
  · have hne : x.target o ≠ x.memory.tree := fun heq => hp (Occasion.publishes_of_target_eq heq)
    cases hfault : (x.request o).fault? with
    | none => exact absurd ((obeys.publishes_iff hne).2 hfault) hp
    | some fault =>
      rw [Occasion.after_of_not_publishes hp, Occasion.publication_of_fault hne hfault]
      exact .inl ⟨Memory.heedAll_tree .., rfl⟩

theorem step (obeys : Obeys api store) (addresses : Request.Addresses ⟨o.space, publishedName⟩)
    (h : Restartable o api store world) (memory : x.memory = world.memory)
    (alone : (store x.server).find? ⟨o.space, publishedName⟩ =
      (store world.server).find? ⟨o.space, publishedName⟩) :
    Restartable o api store (x.after o api) := by
  obtain ⟨copies, sendable, tables, numbers, found, shallow⟩ := h
  rw [← memory] at copies tables numbers found shallow
  -- a pass leaves the tree it found or the one it was to publish
  have left {R : Json → Prop} (old : R x.memory.tree) (new : R (x.target o)) :
      R (x.after o api).memory.tree := by
    by_cases hp : x.Publishes o api
    · rwa [Occasion.tree_after_of_publishes hp]
    · rwa [Occasion.tree_after_of_not_publishes hp]
  constructor
  case copies => exact Occasion.copiesOnly_after copies
  case sendable => exact sendable
  case tables =>
    exact left tables (Occasion.everywhere_target grows_isTable
      (fun _ => .single (fun _ => trivial) trivial) tables)
  case numbers =>
    exact left numbers (Occasion.everywhere_target (grows_ifNumber _)
      (fun _ => .single (fun _ => trivial) trivial) numbers)
  case found =>
    intro addressed
    rcases find?_published_cases obeys copies addressed with ⟨htree, hstands⟩ | hstands
    · rw [htree, hstands, alone]
      exact (found addressed).imp_left (restore_congr obeys addresses (hstands.trans alone))
    · exact .inr hstands
  case shallow =>
    intro name config
    exact left (R := fun tree => tree.depth ≤ maxDepth) (shallow name config)
      (Occasion.depth_target_le name config (shallow name config))

/-- What is found again where the tree was published. -/
theorem restore_of_stands (obeys : Obeys api store) (h : Restartable o api store world)
    (addressed : Request.addressed? ⟨o.space, publishedName⟩ = some ⟨o.space, publishedName⟩)
    (stands : (store world.server).find? ⟨o.space, publishedName⟩ =
      some (.ofContents (publishedContents world.memory.tree))) :
    (restore api o.space world.server).value.1 = treeOfText (some world.memory.tree.text) := by
  have tells := obeys.tells ⟨o.space, publishedName⟩ world.server
  rw [told?_of_published addressed stands] at tells
  exact restore_of_tells h.sendable tells

/-- What was published can be found again unless it nests too deep. -/
theorem exists_restore_iff (obeys : Obeys api store)
    (addresses : Request.Addresses ⟨o.space, publishedName⟩) (h : Restartable o api store world) :
    (∃ tree, (restore api o.space world.server).value.1 = .ok tree) ↔
      world.memory.tree.depth ≤ maxDepth ∨
        Request.addressed? ⟨o.space, publishedName⟩ = none := by
  cases haddressed : Request.addressed? ⟨o.space, publishedName⟩ with
  | none =>
    have tells := obeys.tells ⟨o.space, publishedName⟩ world.server
    rw [Store.told?_of_unaddressed haddressed] at tells
    exact iff_of_true ⟨_, restore_of_tells_none h.sendable tells⟩ (.inr rfl)
  | some kept =>
    rw [or_iff_left (Option.some_ne_none kept)]
    cases addresses kept haddressed
    rcases h.found haddressed with hrestored | hstands
    · exact iff_of_true ⟨_, hrestored⟩ (depth_le_of_restore hrestored)
    · rw [h.restore_of_stands obeys haddressed hstands]
      exact exists_treeOfText_iff h.tables h.numbers

/-- If it nests too deep, the text that was published is not one that can be read. -/
theorem restore_eq_malformed (obeys : Obeys api store) (h : Restartable o api store world)
    (addressed : Request.addressed? ⟨o.space, publishedName⟩ = some ⟨o.space, publishedName⟩)
    (deep : maxDepth < world.memory.tree.depth) :
    ∃ fault, (restore api o.space world.server).value.1 = .error (.malformed fault) := by
  rcases h.found addressed with hrestored | hstands
  · exact absurd (depth_le_of_restore hrestored) (Nat.not_le.2 deep)
  · have hnot := (not_congr (exists_treeOfText_iff h.tables h.numbers)).2 (Nat.not_le.2 deep)
    rw [h.restore_of_stands obeys addressed hstands]
    rw [treeOfText] at hnot ⊢
    cases hparse : Json.parse world.memory.tree.text with
    | ok tree =>
      rw [hparse] at hnot
      exact absurd ⟨tree, rfl⟩ hnot
    | error fault => exact ⟨fault, rfl⟩

end Restartable

/-- After any pass of a run on a server that obeys, the published tree is found again exactly if the
tree in memory nests no deeper than is allowed for reading, or if nothing can be published where it
would be looked for. With paths of fewer keys than containers are allowed it always is. -/
theorem exists_restore_iff_of_history (obeys : Obeys api store)
    (addresses : Request.Addresses ⟨o.space, publishedName⟩) {start : World σ}
    (started : (restore api o.space start.server).value.1 = .ok start.memory.tree)
    (copies : o.CopiesOnly start.memory.rules)
    (numbers : start.memory.tree.Everywhere (IfNumber Number.ReadsBack))
    {rounds : List (Round σ)}
    (alone : ∀ round ∈ rounds, ∀ s, (store (round.others s)).find? ⟨o.space, publishedName⟩ =
      (store s).find? ⟨o.space, publishedName⟩)
    {past later : List (Occasion σ)} {x : Occasion σ}
    (run : history o api start rounds = past ++ x :: later) :
    let after := x.after o api
    let found := ∃ tree, (restore api o.space after.server).value.1 = .ok tree
    (found ↔ after.memory.tree.depth ≤ maxDepth ∨
        Request.addressed? ⟨o.space, publishedName⟩ = none) ∧
      (o.paths.name.keys.length < maxDepth → o.paths.config.keys.length < maxDepth → found) := by
  intro after found
  obtain ⟨world, h, round, hround, rfl⟩ := history_induction
    (P := fun _ => Restartable o api store)
    (fun _ world h round hround => h.step obeys addresses rfl (alone round hround _))
    (Restartable.start started copies numbers) run
  have hafter : Restartable o api store after := h.step obeys addresses rfl (alone round hround _)
  refine ⟨hafter.exists_restore_iff obeys addresses, fun name config => ?_⟩
  exact (hafter.exists_restore_iff obeys addresses).2 (.inl (hafter.shallow name config))

section FirstPass

open Scenario

/-- A pass over a cluster on AWS, by an operator that has just been started. -/
def firstRound : Round Store := ⟨(awsCache "" "").cluster, id⟩

/-- Nothing has been observed, and nothing is stored. -/
def blankWorld : World Store := ⟨.initial, Table.empty⟩

theorem restore_blankWorld {space : String}
    (sendable : (Request.readMap ⟨space, publishedName⟩).fault? = none) :
    (restore Store.api space blankWorld.server).value.1 = .ok blankWorld.memory.tree := by
  refine restore_of_tells_none sendable ?_
  have htold : blankWorld.server.told? ⟨space, publishedName⟩ = none := by
    rw [Store.told?, Store.reach?]
    cases Request.addressed? ⟨space, publishedName⟩ <;> rfl
  rw [← htold]
  exact Store.tells _ _

theorem run_firstRound (o : Observer) :
    history o Store.api blankWorld [firstRound] = [] ++ firstRound.occasion blankWorld :: [] := rfl

/-- With the default paths what the first pass publishes is found again. -/
theorem exists_restore_firstRound :
    ∃ tree, (restore Store.api standardObserver.space
      ((firstRound.occasion blankWorld).after standardObserver Store.api).server).value.1 =
        .ok tree := by
  have started := restore_blankWorld (Request.fault?_readMap (fault?_publishStandard ⟨none, none⟩))
  have alone : ∀ round ∈ [firstRound], ∀ st,
      (round.others st).find? ⟨standardObserver.space, publishedName⟩ =
        st.find? ⟨standardObserver.space, publishedName⟩ := by
    intro round hround st
    rw [List.mem_singleton.1 hround]
    rfl
  have addresses : standardObserver.Addresses := Observer.addresses_of_space (by decide)
  exact (exists_restore_iff_of_history Store.obeys addresses.published started
    (Observer.copiesOnly_empty _) (.empty (grows_ifNumber _)) alone (run_firstRound _)).2
      (by decide) (by decide)

/-- The name of the provider takes the tree one level below its path, so a path of as many keys as
containers are allowed leads too deep. -/
theorem malformed_firstRound {o : Observer} (space : o.space.isEmpty = false)
    (sendable : ∀ contents,
      (Request.applyMap ⟨o.space, publishedName⟩ contents).fault? = none)
    (addressed : Request.addressed? ⟨o.space, publishedName⟩ = some ⟨o.space, publishedName⟩)
    (long : maxDepth ≤ o.paths.name.keys.length) :
    ∃ fault, (restore Store.api o.space
      ((firstRound.occasion blankWorld).after o Store.api).server).value.1 =
        .error (.malformed fault) := by
  have started : Restartable o Store.api (fun st => st) blankWorld :=
    .start (restore_blankWorld (Request.fault?_readMap (sendable ⟨none, none⟩)))
      o.copiesOnly_empty (.empty (grows_ifNumber _))
  have addresses : Request.Addresses ⟨o.space, publishedName⟩ :=
    fun kept h => Option.some.inj (h.symm.trans addressed)
  have target : (firstRound.occasion blankWorld).target o =
      o.paths.treeOf (some (Json.single "aws")) none := by
    have settles : o.Settles (firstRound.occasion blankWorld).cluster SyncRule.check
        (awsInfrastructure "") false none :=
      settles_awsCache_of_space space ""
    rw [Occasion.target_of_settles settles]
    rfl
  have deep : maxDepth < ((firstRound.occasion blankWorld).target o).depth := by
    have hname := depth_le_of_get? (o.paths.get?_name_treeOf (some (Json.single "aws")) none)
    rw [target]
    exact Nat.lt_of_lt_of_le (Nat.lt_succ_of_le long) hname
  have publishes : (firstRound.occasion blankWorld).Publishes o Store.api := by
    have hne : (firstRound.occasion blankWorld).target o ≠ Json.empty := by
      intro heq
      rw [heq] at deep
      exact absurd deep (by decide)
    exact (Store.obeys.publishes_iff hne).2 (sendable _)
  have after := started.step Store.obeys addresses (Round.occasion_memory firstRound _) rfl
  refine after.restore_eq_malformed Store.obeys addressed ?_
  rw [Occasion.tree_after_of_publishes publishes]
  exact deep

/-- A path of so many keys, one letter each. -/
def deepPath : KeyPath := ⟨List.replicate maxDepth "a", by decide, by decide⟩

/-- The settings name this path and nothing else. -/
def deepSource (name : String) : Option String :=
  if name = Settings.namePathKey then some deepPath.text else none

def deepSettings : Settings where
  space := Settings.defaultSpace
  paths :=
    { name := deepPath
      config := standardObserver.paths.config
      apart := by decide }
  interval := Settings.defaultInterval
  interval_pos := Settings.defaultInterval_pos
  appliesFlowControl := true

theorem read_deepSource : Settings.read deepSource = .ok deepSettings := by
  have split : Text.splitDots deepPath.text = deepPath.keys := by
    refine Text.splitDots_joinDots deepPath.keys_ne_nil fun key hkey => ?_
    rw [List.eq_of_mem_replicate hkey]
    decide
  have name : KeyPath.ofText deepPath.text = .ok deepPath := by
    rw [KeyPath.ofText, split]
    rfl
  have config : KeyPath.ofText Settings.defaultConfigPath = .ok deepSettings.paths.config := rfl
  have given : deepSource Settings.namePathKey = some deepPath.text := rfl
  have unset : ∀ key ≠ Settings.namePathKey, deepSource key = none := fun _ h => if_neg h
  simp only [Settings.read, given, unset Settings.configPathKey (by decide),
    unset Settings.intervalKey (by decide), unset Settings.flowControlKey (by decide),
    unset Settings.spaceKey (by decide), Option.getD_some, Option.getD_none, name, config]
  rfl

/-- These settings are accepted, and an operator that follows them publishes what it cannot read. -/
theorem not_restored_deepSettings :
    Settings.read deepSource = .ok deepSettings ∧
      (restore Store.api deepSettings.observer.space blankWorld.server).value.1 =
        .ok blankWorld.memory.tree ∧
      ∃ fault, (restore Store.api deepSettings.observer.space
        ((firstRound.occasion blankWorld).after deepSettings.observer Store.api).server).value.1 =
          .error (.malformed fault) := by
  have sendable (contents : Contents) :
      (Request.applyMap ⟨deepSettings.observer.space, publishedName⟩ contents).fault? = none :=
    fault?_publishStandard contents
  exact ⟨read_deepSource, restore_blankWorld (Request.fault?_readMap (sendable ⟨none, none⟩)),
    malformed_firstRound (by decide) sendable addressed_standard
      (Nat.le_of_eq List.length_replicate.symm)⟩

end FirstPass

end CloudFlags.Operator
