import CloudFlags.Observation.Observer
import CloudFlags.Proofs.Paths

/-! How an observation ends. Either the cluster has no `Infrastructure`, or one of five stages
fails, or every stage is gone through (`Observer.observe_ends`). For each of these ends one equation
gives the whole observation, its trace included; what is to be proved of observations follows from
the three. A tree to publish is always there, since flags can always be written. -/

namespace CloudFlags

/-! ### The tree to publish -/

namespace Observation

/-- The tree to publish: what was retained, or the tree of the flags. -/
def published (paths : FlagPaths) (observation : Observation) : Json :=
  observation.retained.getD
    (paths.treeOf (observation.flags.providerName.map Json.single)
      (observation.flags.configFile.map Json.single))

theorem tree_eq_published (paths : FlagPaths) (observation : Observation) :
    observation.tree paths = .ok (observation.published paths) := by
  rw [tree, published]
  cases observation.retained with
  | none => exact paths.write_eq_ok observation.flags
  | some tree => rfl

end Observation

namespace Observer

open Resource Observation

variable {o : Observer} {cluster : Cluster} {accept : SyncRule → Except Error Unit}

/-! ### Stages -/

/-- The stages of an observation that can fail. -/
inductive Stage where
  | infrastructure
  | featureGate
  | externalProvider
  | managedMap
  | rule
  deriving DecidableEq, Repr

/-- The place of a stage in the order of an observation. -/
def Stage.rank : Stage → Nat
  | .infrastructure => 0
  | .featureGate => 1
  | .externalProvider => 2
  | .managedMap => 3
  | .rule => 4

/-- The source of the cloud configuration, given the maintained config map. -/
def sourceFor (infrastructure : Infrastructure) (managed : Option ConfigMap) :
    Option ConfigSource :=
  ConfigSource.choose? infrastructure.platform.inTree? managed.isSome infrastructure.cloudConfig

/-- For an operand with a namespace the rule of its copy is accepted, whatever its source. -/
theorem check_copyRule (space : o.space.isEmpty = false) (source : Option ConfigSource) :
    (o.copyRule source).check = .ok () := by
  have hname : copyName.isEmpty = false := by decide
  simp only [SyncRule.check, copyRule, copyLocation, space, hname, Bool.or_self,
    Bool.false_eq_true, ↓reduceIte]

/-- An observation comes to a stage and fails there, with this error. -/
inductive FailsAt (o : Observer) (cluster : Cluster) (accept : SyncRule → Except Error Unit) :
    Stage → Error → Prop where
  | infrastructure {e : Error} (failed : cluster.infrastructure = .error e) :
    FailsAt o cluster accept .infrastructure e
  | featureGate {i : Infrastructure} {e : Error} (found : cluster.infrastructure = .ok (some i))
    (failed : cluster.featureGate = .error e) :
    FailsAt o cluster accept .featureGate (.featureGateLookup e)
  | externalProvider {i : Infrastructure} {gate : FeatureGate} {e : Error}
    (found : cluster.infrastructure = .ok (some i)) (gated : cluster.featureGate = .ok (some gate))
    (failed : OutOfTree.isExternalUnder gate i.platformStatus = .error e) :
    FailsAt o cluster accept .externalProvider (.externalProviderState e)
  | managedMap {i : Infrastructure} {external : Bool} {e : Error}
    (found : cluster.infrastructure = .ok (some i))
    (decided : OutOfTree.isExternal cluster.featureGate i.platformStatus = .ok external)
    (failed : cluster.configMap ConfigSource.managed.location = .error e) :
    FailsAt o cluster accept .managedMap e
  | rule {i : Infrastructure} {external : Bool} {managed : Option ConfigMap} {e : Error}
    (found : cluster.infrastructure = .ok (some i))
    (decided : OutOfTree.isExternal cluster.featureGate i.platformStatus = .ok external)
    (looked : cluster.configMap ConfigSource.managed.location = .ok managed)
    (failed : accept (o.copyRule (sourceFor i managed)) = .error e) :
    FailsAt o cluster accept .rule e

/-- An observation goes through every stage, and this is what it finds. -/
structure Settles (o : Observer) (cluster : Cluster) (accept : SyncRule → Except Error Unit)
    (i : Infrastructure) (external : Bool) (managed : Option ConfigMap) : Prop where
  found : cluster.infrastructure = .ok (some i)
  decided : OutOfTree.isExternal cluster.featureGate i.platformStatus = .ok external
  looked : cluster.configMap ConfigSource.managed.location = .ok managed
  accepted : accept (o.copyRule (sourceFor i managed)) = .ok ()

/-- The decision fails with the lookup of the gate, or under the gate that was found. -/
theorem failsAt_of_undecided {i : Infrastructure} {e : Error}
    (found : cluster.infrastructure = .ok (some i))
    (undecided : OutOfTree.isExternal cluster.featureGate i.platformStatus = .error e) :
    ∃ stage, o.FailsAt cluster accept stage e := by
  cases hg : cluster.featureGate with
  | error cause =>
    rw [hg] at undecided
    cases undecided
    exact ⟨_, .featureGate found hg⟩
  | ok gate =>
    cases gate with
    | none =>
      rw [hg] at undecided
      cases undecided
    | some gate =>
      cases hx : OutOfTree.isExternalUnder gate i.platformStatus with
      | error cause =>
        rw [hg, OutOfTree.isExternal, hx] at undecided
        cases undecided
        exact ⟨_, .externalProvider found hg hx⟩
      | ok external =>
        rw [hg, OutOfTree.isExternal, hx] at undecided
        cases undecided

/-- The ends of an observation. -/
theorem observe_ends (o : Observer) (cluster : Cluster) (accept : SyncRule → Except Error Unit) :
    cluster.infrastructure = .ok none ∨ (∃ stage e, o.FailsAt cluster accept stage e) ∨
      ∃ i external managed, o.Settles cluster accept i external managed := by
  cases hi : cluster.infrastructure with
  | error e => exact .inr (.inl ⟨_, e, .infrastructure hi⟩)
  | ok found =>
    cases found with
    | none => exact .inl rfl
    | some i =>
      refine .inr ?_
      cases hx : OutOfTree.isExternal cluster.featureGate i.platformStatus with
      | error e =>
        obtain ⟨stage, h⟩ := failsAt_of_undecided hi hx
        exact .inl ⟨stage, e, h⟩
      | ok external =>
        cases hm : cluster.configMap ConfigSource.managed.location with
        | error e => exact .inl ⟨_, e, .managedMap hi hx hm⟩
        | ok managed =>
          cases ha : accept (o.copyRule (sourceFor i managed)) with
          | error e => exact .inl ⟨_, e, .rule hi hx hm ha⟩
          | ok _ => exact .inr ⟨i, external, managed, hi, hx, hm, ha⟩

/-- Where an `Infrastructure` is found and no stage fails, every stage is gone through. -/
theorem settles_of_not_failsAt {i : Infrastructure} (found : cluster.infrastructure = .ok (some i))
    (sound : ∀ stage e, ¬ o.FailsAt cluster accept stage e) :
    ∃ external managed, o.Settles cluster accept i external managed := by
  rcases o.observe_ends cluster accept with missing | ⟨stage, e, hf⟩ | ⟨i', external, managed, hs⟩
  · rw [found] at missing
    cases missing
  · exact absurd hf (sound stage e)
  · have hfound := found.symm.trans hs.found
    cases hfound
    exact ⟨external, managed, hs⟩

/-- An observation that goes through every stage fails at none. -/
theorem Settles.not_failsAt {i : Infrastructure} {external : Bool} {managed : Option ConfigMap}
    (h : o.Settles cluster accept i external managed) (stage : Stage) (e : Error) :
    ¬ o.FailsAt cluster accept stage e := by
  obtain ⟨found, decided, looked, accepted⟩ := h
  intro hf
  cases hf with
  | infrastructure failed =>
    rw [found] at failed
    cases failed
  | featureGate _ failed =>
    rw [failed] at decided
    cases decided
  | externalProvider found' gated failed =>
    rw [found] at found'
    cases found'
    rw [gated, OutOfTree.isExternal, failed] at decided
    cases decided
  | managedMap _ _ failed =>
    rw [looked] at failed
    cases failed
  | rule found' _ looked' failed =>
    rw [found] at found'
    rw [looked] at looked'
    cases found'
    cases looked'
    rw [accepted] at failed
    cases failed

/-! ### The observation at each end -/

/-- The lookups before the decision about an external provider. -/
def firstLookups : List Notice :=
  [.lookedUp .infrastructure clusterName, .lookedUp .featureGate clusterName]

/-- The warning about a platform, and the lookup of the maintained config map. -/
def platformNotices (cluster : Cluster) : List Notice :=
  (match cluster.infrastructure with
    | .ok (some i) => ((platformWarning? i.platform).map Notice.recorded).toList
    | _ => []) ++
  [.lookedUp .configMap ConfigSource.managed.location.text]

/-- The rule that is refused. -/
def refusedRule (o : Observer) (cluster : Cluster) : List Notice :=
  match cluster.infrastructure, cluster.configMap ConfigSource.managed.location with
  | .ok (some i), .ok managed => [.requested (o.copyRule (sourceFor i managed)) false]
  | _, _ => []

/-- What is noted up to the stage that fails with an error. -/
def noticesTo (o : Observer) (cluster : Cluster) (e : Error) : Stage → List Notice
  | .infrastructure => [.lookedUp .infrastructure clusterName]
  | .featureGate => firstLookups ++ [.recorded (undecidedProvider e)]
  | .externalProvider => firstLookups ++ [.recorded (undecidedProvider e)]
  | .managedMap => firstLookups ++ platformNotices cluster
  | .rule => firstLookups ++ platformNotices cluster ++ o.refusedRule cluster

theorem observe_of_missing (missing : cluster.infrastructure = .ok none) (existing : Json) :
    o.observe cluster accept existing =
      ⟨{}, [.lookedUp .infrastructure clusterName, .recorded missingInfrastructure]⟩ := by
  simp only [observe, missing]
  rfl

/-- What follows the decision about an external provider. -/
theorem observe_of_decided {i : Infrastructure} {external : Bool}
    (found : cluster.infrastructure = .ok (some i))
    (decided : OutOfTree.isExternal cluster.featureGate i.platformStatus = .ok external)
    (existing : Json) :
    o.observe cluster accept existing =
      let rest := o.arrange cluster accept existing i external
      ⟨rest.value, firstLookups ++ rest.trace⟩ := by
  simp only [observe, found, decided]
  rfl

theorem observe_of_failsAt {stage : Stage} {e : Error} (h : o.FailsAt cluster accept stage e)
    (existing : Json) :
    o.observe cluster accept existing =
      ⟨(o.keep existing e).value, o.noticesTo cluster e stage ++ (o.keep existing e).trace⟩ := by
  cases h with
  | infrastructure failed =>
    simp only [observe, failed]
    rfl
  | featureGate found failed =>
    simp only [observe, found, failed, OutOfTree.isExternal]
    rfl
  | externalProvider found gated failed =>
    simp only [observe, found, gated, OutOfTree.isExternal, failed]
    rfl
  | managedMap found decided failed =>
    rw [observe_of_decided found decided]
    simp only [arrange, failed, noticesTo, platformNotices, found]
    cases platformWarning? _ <;> rfl
  | rule found decided looked failed =>
    rw [observe_of_decided found decided]
    simp only [sourceFor] at failed
    simp only [arrange, looked, failed, noticesTo, platformNotices, refusedRule, found, sourceFor]
    cases platformWarning? _ <;> rfl

theorem observe_of_settles {i : Infrastructure} {external : Bool} {managed : Option ConfigMap}
    (h : o.Settles cluster accept i external managed) (existing : Json) :
    o.observe cluster accept existing =
      let settled := o.settle existing (providerName external i.platform.inTree?)
        (sourceFor i managed)
      ⟨settled.value, firstLookups ++ platformNotices cluster ++
        .requested (o.copyRule (sourceFor i managed)) true :: settled.trace⟩ := by
  have accepted := h.accepted
  rw [observe_of_decided h.found h.decided]
  simp only [sourceFor] at accepted
  simp only [arrange, h.looked, accepted, platformNotices, h.found, sourceFor]
  cases platformWarning? _ <;> rfl

/-! ### What is settled -/

/-- The file is set whatever stood there before; that it is another one is recorded. -/
theorem settle_some (existing : Json) (name : Option String) (source : ConfigSource) :
    o.settle existing name (some source) =
      let previous := o.previousFile existing
      ⟨{ flags := ⟨name, some source.file⟩, errors := previous.value.2 },
        previous.trace ++ if previous.value.1 = some [source.file] then []
          else [.recorded (fileChanged source.file)]⟩ := by
  rw [settle, Traced.bind_eq]
  by_cases h : (o.previousFile existing).value.1 = some [source.file]
  · simp only [h, ne_eq, not_true_eq_false, ↓reduceIte, Traced.pure_value, Traced.pure_trace]
  · simp only [h, ne_eq, not_false_eq_true, ↓reduceIte]
    rfl

theorem settle_value_flags (existing : Json) (name : Option String)
    (source : Option ConfigSource) :
    (o.settle existing name source).value.flags = ⟨name, source.map ConfigSource.file⟩ := by
  cases source with
  | none => rfl
  | some source => rw [settle_some, Option.map_some]

theorem settle_value_retained (existing : Json) (name : Option String)
    (source : Option ConfigSource) : (o.settle existing name source).value.retained = none := by
  cases source with
  | none => rfl
  | some source => rw [settle_some]

theorem value_of_settles {i : Infrastructure} {external : Bool} {managed : Option ConfigMap}
    (h : o.Settles cluster accept i external managed) (existing : Json) :
    (o.observe cluster accept existing).value =
      (o.settle existing (providerName external i.platform.inTree?)
        (sourceFor i managed)).value := by
  rw [observe_of_settles h]

/-- The flags of an observation that goes through every stage. -/
theorem flags_of_settles {i : Infrastructure} {external : Bool} {managed : Option ConfigMap}
    (h : o.Settles cluster accept i external managed) (existing : Json) :
    (o.observe cluster accept existing).value.flags =
      ⟨providerName external i.platform.inTree?,
        (sourceFor i managed).map ConfigSource.file⟩ := by
  rw [value_of_settles h, settle_value_flags]

/-! ### What is published -/

theorem published_of_missing (missing : cluster.infrastructure = .ok none) (existing : Json) :
    (o.observe cluster accept existing).value.published o.paths = o.paths.treeOf none none := by
  rw [observe_of_missing missing]
  rfl

/-- After a failure the part of the previous tree at the two paths is published. -/
theorem published_of_failsAt {stage : Stage} {e : Error} (h : o.FailsAt cluster accept stage e)
    (existing : Json) :
    (o.observe cluster accept existing).value.published o.paths = o.paths.restrict existing := by
  rw [observe_of_failsAt h]
  rfl

theorem published_of_settles {i : Infrastructure} {external : Bool} {managed : Option ConfigMap}
    (h : o.Settles cluster accept i external managed) (existing : Json) :
    (o.observe cluster accept existing).value.published o.paths =
      o.paths.treeOf ((providerName external i.platform.inTree?).map Json.single)
        ((sourceFor i managed).map fun source => Json.single source.file) := by
  rw [value_of_settles h, published, settle_value_retained, settle_value_flags, Option.getD_none,
    Option.map_map]
  rfl

end Observer

end CloudFlags
