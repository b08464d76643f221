import CloudFlags.Proofs.History
import CloudFlags.Proofs.Sources

/-! The trees that an operator comes to hold, if it starts from the empty tree. Each of them is the
tree of flags that go together: a provider that the operand knows, a file in the directory in which
its copy is mounted, and no file without a provider (`Flags.Fit`). An observation that goes through
every stage makes such flags of whatever it finds; after a failing stage the previous tree stays,
and since that is the tree of flags as well, restricting it to the two paths takes nothing away. -/

namespace CloudFlags

open Resource

/-! ### Flags that go together -/

/-- The providers that an operand can be told of. -/
def Flags.knownProviders : List String :=
  ["external", "aws", "azure", "gce", "openstack", "vsphere"]

/-- The directory of the operand's copy, as the file's name begins with it. -/
def Flags.directory : String := "/etc/kubernetes/static-pod-resources/configmaps/cloud-config/"

/-- The flags can be given to an operand together. -/
structure Flags.Fit (flags : Flags) : Prop where
  known (name : String) (h : flags.providerName = some name) : name ∈ knownProviders
  mounted (file : String) (h : flags.configFile = some file) : ∃ key, file = directory ++ key
  provided (h : flags.configFile.isSome) : flags.providerName.isSome

theorem Flags.fit_none : Flags.Fit {} where
  known _ h := by cases h
  mounted _ h := by cases h
  provided h := by cases h

theorem InTreeProvider.name_mem_knownProviders (provider : InTreeProvider) :
    provider.name ∈ Flags.knownProviders := by
  cases provider <;> decide

theorem ConfigSource.file_eq (source : ConfigSource) :
    source.file = Flags.directory ++ source.key :=
  congrArg (· ++ source.key) (by decide : mountPath ++ "/" = Flags.directory)

/-- Only a built-in provider has a source. -/
theorem ConfigSource.isSome_of_choose? {provider : Option InTreeProvider} {managedExists : Bool}
    {reference : FileReference} (h : (choose? provider managedExists reference).isSome) :
    provider.isSome :=
  (isSome_choose?_iff.1 h).1

/-- What an observation that goes through every stage tells the operand. -/
theorem Observer.fit_settled (i : Infrastructure) (external : Bool) (managed : Option ConfigMap) :
    Flags.Fit ⟨providerName external i.platform.inTree?,
      (sourceFor i managed).map ConfigSource.file⟩ where
  known name h := by
    cases external with
    | true =>
      cases h
      decide
    | false =>
      obtain ⟨provider, -, rfl⟩ := Option.map_eq_some_iff.1 h
      exact provider.name_mem_knownProviders
  mounted file h := by
    obtain ⟨source, -, rfl⟩ := Option.map_eq_some_iff.1 h
    exact ⟨source.key, source.file_eq⟩
  provided h := by
    cases external with
    | true => rfl
    | false =>
      rw [Option.isSome_map] at h
      have hprovider : i.platform.inTree?.isSome := ConfigSource.isSome_of_choose? h
      simpa only [providerName, Bool.false_eq_true, ↓reduceIte, Option.isSome_map] using hprovider

/-! ### Trees of such flags -/

/-- The tree is that of flags which go together, and holds nothing else. -/
def FlagPaths.HoldsFit (paths : FlagPaths) (tree : Json) : Prop :=
  ∃ flags : Flags, flags.Fit ∧ paths.write flags = .ok tree

theorem FlagPaths.holdsFit_treeOf (paths : FlagPaths) {flags : Flags} (h : flags.Fit) :
    paths.HoldsFit (paths.treeOf (flags.providerName.map Json.single)
      (flags.configFile.map Json.single)) :=
  ⟨flags, h, paths.write_eq_ok flags⟩

theorem FlagPaths.holdsFit_empty (paths : FlagPaths) : paths.HoldsFit Json.empty :=
  ⟨{}, Flags.fit_none, rfl⟩

/-- Such a tree is left alone by restricting it. -/
theorem FlagPaths.HoldsFit.restrict_eq {paths : FlagPaths} {tree : Json} (h : paths.HoldsFit tree) :
    paths.restrict tree = tree := by
  obtain ⟨flags, -, hwrite⟩ := h
  rw [paths.write_eq_ok] at hwrite
  cases hwrite
  exact paths.restrict_treeOf _ _

/-- Whatever is found, and whether or not the rule is accepted, such a tree is published after such
a tree. -/
theorem Observer.holdsFit_published {o : Observer} {tree : Json} (h : o.paths.HoldsFit tree)
    (cluster : Cluster) (accept : SyncRule → Except Error Unit) :
    o.paths.HoldsFit ((o.observe cluster accept tree).value.published o.paths) := by
  rcases o.observe_ends cluster accept with missing | ⟨stage, e, hf⟩ | ⟨i, external, managed, hs⟩
  · rw [published_of_missing missing]
    exact o.paths.holdsFit_treeOf Flags.fit_none
  · rw [published_of_failsAt hf, h.restrict_eq]
    exact h
  · have hfit := o.paths.holdsFit_treeOf (fit_settled i external managed)
    rw [published_of_settles hs]
    rwa [Option.map_map] at hfit

namespace Operator

variable {σ : Type} {o : Observer} {api : Api σ} {x : Occasion σ}

/-- A pass leaves such a tree, whether it could publish one or not. -/
theorem Occasion.holdsFit_after (h : o.paths.HoldsFit x.memory.tree) :
    o.paths.HoldsFit (x.after o api).memory.tree := by
  by_cases hp : x.Publishes o api
  · rw [tree_after_of_publishes hp]
    exact Observer.holdsFit_published h x.cluster SyncRule.check
  · rw [tree_after_of_not_publishes hp]
    exact h

/-- Starting from the empty tree an operator comes to no trees but those of flags which go together,
whatever the cluster comes to and the server answers. -/
theorem tree_of_fit_flags (o : Observer) (api : Api σ) (rules : SyncRules) (queue : EventQueue)
    (server : σ) (rounds : List (Round σ)) :
    let start : World σ := ⟨⟨Json.empty, rules, queue⟩, server⟩
    ∃ flags : Flags, flags.Fit ∧
      o.paths.write flags = .ok (start.through o api rounds).memory.tree :=
  World.through_induction (P := fun world => o.paths.HoldsFit world.memory.tree)
    (fun _ h _ _ => Occasion.holdsFit_after h) o.paths.holdsFit_empty

end Operator

end CloudFlags
