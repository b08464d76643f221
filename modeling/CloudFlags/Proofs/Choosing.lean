import CloudFlags.Proofs.Notices
import CloudFlags.Proofs.Outage
import CloudFlags.Proofs.Sources

/-! What an observation in which no stage fails chooses. The name of the provider follows from the
decision about an external provider, and everything else from one source: the rule copies its config
map, and the file is named after its key. So a file is set exactly where the rule has a source, and
the two never come from different origins (`Observer.source_and_file_chosen_together`). -/

namespace CloudFlags

open Resource

namespace Observer

variable {o : Observer} {cluster : Cluster} {accept : SyncRule → Except Error Unit}

/-! ### The name -/

/-- No built-in provider goes by the name that stands for an external one. -/
theorem name_ne_externalName (provider : InTreeProvider) : provider.name ≠ externalName := by
  cases provider <;> decide

theorem providerName_eq_externalName_iff {external : Bool} {provider : Option InTreeProvider} :
    providerName external provider = some externalName ↔ external = true := by
  unfold providerName
  cases external with
  | true => simp
  | false => simpa using fun provider _ => name_ne_externalName provider

/-! ### The source and the file -/

theorem isSome_sourceFor_iff {i : Infrastructure} {managed : Option ConfigMap} :
    (sourceFor i managed).isSome ↔
      i.platform ∈ [.aws, .azure, .gcp, .openStack, .vSphere] ∧
        (managed.isSome ∨ i.cloudConfig.name ≠ "") := by
  rw [← Platform.isSome_inTree?_iff]
  exact ConfigSource.isSome_choose?_iff

theorem locationOf_sourceFor_ne_nowhere_iff {i : Infrastructure} {managed : Option ConfigMap} :
    ConfigSource.locationOf (sourceFor i managed) ≠ .nowhere ↔ (sourceFor i managed).isSome := by
  rw [Option.isSome_iff_ne_none]
  exact not_congr ConfigSource.locationOf_choose?_eq_nowhere_iff

/-- A source chosen is the foremost one. -/
theorem eq_foremost_of_sourceFor {i : Infrastructure} {managed : Option ConfigMap}
    {source : ConfigSource} (h : sourceFor i managed = some source) :
    source = ConfigSource.foremost managed.isSome i.cloudConfig :=
  (ConfigSource.choose?_eq_some_iff.1 h).2.symm

/-! ### All of them -/

/-- With an `Infrastructure` and no stage that fails, one rule is asked for. The file is set exactly
if the rule has a source, and both come from the config map that the cluster maintains, where it
exists, and else from the one that the administrator names. -/
theorem source_and_file_chosen_together (o : Observer) (cluster : Cluster)
    (accept : SyncRule → Except Error Unit) (existing : Json) {i : Infrastructure}
    (found : cluster.infrastructure = .ok (some i))
    (sound : ∀ stage e, ¬ o.FailsAt cluster accept stage e) :
    let seen := o.observe cluster accept existing
    ∃ external managed source,
      OutOfTree.isExternal cluster.featureGate i.platformStatus = .ok external ∧
      cluster.configMap ⟨"openshift-config-managed", "kube-cloud-config"⟩ = .ok managed ∧
      seen.trace.filterMap Notice.request? = [(⟨⟨o.space, "cloud-config"⟩, source⟩, true)] ∧
      (seen.value.flags.configFile.isSome ↔ source ≠ .nowhere) ∧
      (source ≠ .nowhere ↔
        i.platform ∈ [.aws, .azure, .gcp, .openStack, .vSphere] ∧
          (managed.isSome ∨ i.cloudConfig.name ≠ "")) ∧
      (∀ file, seen.value.flags.configFile = some file →
        if managed.isSome then
          source = ⟨"openshift-config-managed", "kube-cloud-config"⟩ ∧
            file = ConfigSource.mountPath ++ "/" ++ "cloud.conf"
        else
          source = ⟨"openshift-config", i.cloudConfig.name⟩ ∧
            file = ConfigSource.mountPath ++ "/" ++ i.cloudConfig.key) ∧
      (seen.value.flags.providerName = some "external" ↔ external = true) ∧
      (external = false →
        seen.value.flags.providerName = i.platform.inTree?.map InTreeProvider.name) := by
  intro seen
  obtain ⟨external, managed, hs⟩ := settles_of_not_failsAt found sound
  have hflags : seen.value.flags = ⟨providerName external i.platform.inTree?,
      (sourceFor i managed).map ConfigSource.file⟩ := flags_of_settles hs existing
  have hsource : ConfigSource.locationOf (sourceFor i managed) ≠ .nowhere ↔
      (sourceFor i managed).isSome := locationOf_sourceFor_ne_nowhere_iff
  refine ⟨external, managed, ConfigSource.locationOf (sourceFor i managed), hs.decided, hs.looked,
    requests_of_settles hs existing, ?_, hsource.trans isSome_sourceFor_iff, ?_, ?_, ?_⟩
  · rw [hflags, hsource, Option.isSome_map]
  · intro file hfile
    rw [hflags] at hfile
    obtain ⟨source, hchosen, rfl⟩ := Option.map_eq_some_iff.1 hfile
    rw [hchosen, eq_foremost_of_sourceFor hchosen]
    cases managed with
    | none => exact ⟨rfl, rfl⟩
    | some map => exact ⟨rfl, rfl⟩
  · rw [hflags]
    exact providerName_eq_externalName_iff
  · rintro rfl
    rw [hflags]
    rfl

open Scenario in
/-- The administrator of a cluster on AWS names a config map, and whatever stood at the path of the
file before, the file is set. -/
theorem file_chosen_on_aws :
    (standardObserver.observe (awsCache "site" "").cluster SyncRule.check
      (.str "garbled")).value.flags.configFile.isSome := by
  obtain ⟨external, managed, source, -, -, -, hfile, hsource, -⟩ :=
    source_and_file_chosen_together standardObserver (awsCache "site" "").cluster SyncRule.check
      (.str "garbled") rfl (settles_awsCache "site").not_failsAt
  exact hfile.2 (hsource.2 ⟨List.mem_cons_self, .inr (by decide)⟩)

end Observer

end CloudFlags
