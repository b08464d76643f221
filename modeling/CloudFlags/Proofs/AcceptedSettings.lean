import CloudFlags.Operator.Schedule
import CloudFlags.Proofs.Accepting
import CloudFlags.Proofs.Deciding
import CloudFlags.Proofs.Outage

/-! What an observation reports under settings that were accepted. They give the operand a
namespace, so that the rule of its copy is never refused; looking up in a cache fails for config
maps of namespaces that are not watched alone; and paths that lead apart leave room for every flag.
What remains is one error at most, and the cluster or the previous tree accounts for it
(`Observer.Expected`). -/

namespace CloudFlags

open Resource

/-! ### The operand's namespace -/

namespace Settings

theorem readSpace_ne_empty (given : Option String) : readSpace given ≠ "" := by
  intro hempty
  exact not_isBlank_readSpace given (hempty ▸ fun _ hc => nomatch hc)

theorem space_of_read {source : String → Option String} {settings : Settings}
    (h : read source = .ok settings) : settings.space = readSpace (source spaceKey) :=
  readSpace_eq_iff.2 (follow_of_read h).space

theorem isEmpty_space_of_read {source : String → Option String} {settings : Settings}
    (h : read source = .ok settings) : settings.space.isEmpty = false := by
  rw [space_of_read h]
  simpa using readSpace_ne_empty (source spaceKey)

end Settings

/-! ### What is reported -/

/-- Errors that show the operator to be set up wrongly, rather than something in the cluster. -/
def Error.isInternal : Error → Bool
  | .lookup .. => true
  | .featureGateLookup _ => true
  | .invalidSyncDestination _ => true
  | .invalidKeyPath _ => true
  | _ => false

namespace Observer

variable {o : Observer}

/-- An error that the cluster accounts for, or, where nothing is retained, the previous tree. -/
inductive Expected (o : Observer) (retained : Option Json) : Error → Prop where
  | missingPlatformStatus : Expected o retained (.externalProviderState .missingPlatformStatus)
  | unknownFeatureSet (set : String) :
    Expected o retained (.externalProviderState (.unknownFeatureSet set))
  | unreadableFile (reason : String) (settled : retained = none) :
    Expected o retained (.undecodable o.paths.config.text reason)

theorem Expected.isInternal {retained : Option Json} {e : Error} (h : o.Expected retained e) :
    e.isInternal = false := by
  cases h <;> rfl

/-- While the namespace of the maintained config map is watched, no stage fails but the decision
about an external provider. -/
theorem expected_of_failsAt {cache : Cache} {shelf : Cache.Shelf ConfigMap}
    (space : o.space.isEmpty = false)
    (watched : cache.configMaps.find? ConfigSource.managed.location.space = some shelf)
    {stage : Stage} {e : Error} (h : o.FailsAt cache.cluster SyncRule.check stage e)
    (retained : Option Json) : o.Expected retained e := by
  cases h with
  | infrastructure failed => cases failed
  | featureGate _ failed => cases failed
  | externalProvider _ _ failed =>
    rcases OutOfTree.isExternalUnder_eq_error_iff.1 failed with ⟨-, rfl⟩ | ⟨-, -, rfl⟩
    · exact .missingPlatformStatus
    · exact .unknownFeatureSet _
  | managedMap _ _ failed =>
    simp only [Cache.cluster, Cache.configMap, watched] at failed
    cases failed
  | rule _ _ _ failed =>
    rw [check_copyRule space] at failed
    cases failed

/-- Settling reports at most that the previous file cannot be read. -/
theorem errors_settle (existing : Json) (name : Option String) (source : Option ConfigSource) :
    (o.settle existing name source).value.errors = [] ∨
      ∃ reason, (o.settle existing name source).value.errors =
        [.undecodable o.paths.config.text reason] := by
  cases source with
  | none => exact .inl rfl
  | some source =>
    rw [settle_some]
    show (o.previousFile existing).value.2 = [] ∨ ∃ reason, (o.previousFile existing).value.2 = _
    unfold previousFile
    cases hread : o.paths.config.readList existing with
    | ok previous => exact .inl rfl
    | error e =>
      obtain ⟨reason, rfl⟩ := KeyPath.readList_eq_error hread
      exact .inr ⟨reason, rfl⟩

/-- Nothing is reported, or one error that is expected. -/
theorem expected_errors {cache : Cache} {shelf : Cache.Shelf ConfigMap}
    (space : o.space.isEmpty = false)
    (watched : cache.configMaps.find? ConfigSource.managed.location.space = some shelf)
    (existing : Json) :
    let seen := (o.observe cache.cluster SyncRule.check existing).value
    seen.errors = [] ∨ ∃ e, seen.errors = [e] ∧ o.Expected seen.retained e := by
  intro seen
  rcases o.observe_ends cache.cluster SyncRule.check with
    missing | ⟨stage, e, hf⟩ | ⟨i, external, managed, hs⟩
  · refine .inl ?_
    show (o.observe cache.cluster SyncRule.check existing).value.errors = []
    rw [observe_of_missing missing]
  · refine .inr ⟨e, ?_, expected_of_failsAt space watched hf _⟩
    show (o.observe cache.cluster SyncRule.check existing).value.errors = [e]
    rw [observe_of_failsAt hf]
    rfl
  · have hsettled : seen = _ := value_of_settles hs existing
    have hretained : seen.retained = none := by
      rw [hsettled]
      exact settle_value_retained ..
    rw [hretained, hsettled]
    rcases errors_settle existing (providerName external i.platform.inTree?)
      (sourceFor i managed) with hnone | ⟨reason, hreason⟩
    · exact .inl hnone
    · exact .inr ⟨_, hreason, .unreadableFile reason rfl⟩

/-- Under settings that were accepted, and while the namespace of the maintained config map is
watched, there is always a tree to publish, and one error at most is reported, which is expected. -/
theorem expected_errors_of_accepted_settings {source : String → Option String}
    {settings : Settings} (accepted : Settings.read source = .ok settings) {cache : Cache}
    {shelf : Cache.Shelf ConfigMap}
    (watched : cache.configMaps.find? "openshift-config-managed" = some shelf) (existing : Json) :
    let seen := (settings.observer.observe cache.cluster SyncRule.check existing).value
    (∃ tree, seen.tree settings.paths = .ok tree) ∧
      seen.errors.length ≤ 1 ∧
      ∀ e ∈ seen.errors,
        settings.observer.Expected seen.retained e ∧ e.isInternal = false := by
  intro seen
  have space : settings.observer.space.isEmpty = false := Settings.isEmpty_space_of_read accepted
  refine ⟨⟨_, Observation.tree_eq_published ..⟩, ?_⟩
  have hone : seen.errors = [] ∨ ∃ e, seen.errors = [e] ∧ settings.observer.Expected _ e :=
    expected_errors space watched existing
  rcases hone with hnone | ⟨e, he, hexpected⟩
  · rw [hnone]
    exact ⟨Nat.zero_le _, fun e he => absurd he List.not_mem_nil⟩
  · rw [he]
    refine ⟨Nat.le_refl _, fun e' he' => ?_⟩
    rw [List.mem_singleton.1 he']
    exact ⟨hexpected, hexpected.isInternal⟩

open Scenario in
/-- With nothing set and a feature set that is unknown, what is reported is expected. -/
theorem expected_errors_of_default_settings :
    Settings.read (fun _ => none) = .ok standardSettings ∧
      ∀ e ∈ (standardSettings.observer.observe (awsCache "site" "Unknown").cluster SyncRule.check
        (.str "garbled")).value.errors, e.isInternal = false := by
  have accepted : Settings.read (fun _ => none) = .ok standardSettings := rfl
  have watched : (awsCache "site" "Unknown").configMaps.find? "openshift-config-managed" =
      some {} := rfl
  obtain ⟨-, -, herrors⟩ := expected_errors_of_accepted_settings accepted watched (.str "garbled")
  exact ⟨accepted, fun e he => (herrors e he).2⟩

end Observer

end CloudFlags
