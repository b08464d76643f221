import CloudFlags.Proofs.Outage

/-! What the feature gate and `platformStatus` decide. An observation that goes through is, but for
the provider's name, that of the cluster without either of them, and the name is the one found there
unless an external provider is asked for (`Observer.observe_eq_ungated`). So of two clusters that
differ in nothing else, both come to the same source, file, events and errors, and to the same name
unless one of the two is told of an external provider. -/

namespace CloudFlags

open Observation Resource

/-! ### Clusters without a gate -/

/-- The object without `platformStatus`. A status that is missing counts as one that says nothing.
-/
def Resource.Infrastructure.ungated (i : Infrastructure) : Infrastructure :=
  { i with status := some ⟨i.platform, none⟩ }

namespace Cluster

/-- The cluster without what decides about an external provider. -/
def ungated (cluster : Cluster) : Cluster :=
  { cluster with
    infrastructure := cluster.infrastructure.map (·.map Infrastructure.ungated)
    featureGate := .ok none }

/-- The name of the built-in provider, by the older field alone. -/
def inTreeName? (cluster : Cluster) : Option String :=
  match cluster.infrastructure with
  | .ok (some i) => i.platform.inTree?.map InTreeProvider.name
  | _ => none

variable {cluster : Cluster}

theorem infrastructure_ungated_of_missing (missing : cluster.infrastructure = .ok none) :
    cluster.ungated.infrastructure = .ok none := by
  rw [ungated, missing]
  rfl

theorem infrastructure_ungated_of_found {i : Infrastructure}
    (found : cluster.infrastructure = .ok (some i)) :
    cluster.ungated.infrastructure = .ok (some i.ungated) := by
  rw [ungated, found]
  rfl

/-- The name is the same without a gate. -/
@[simp] theorem inTreeName?_ungated (cluster : Cluster) :
    cluster.ungated.inTreeName? = cluster.inTreeName? := by
  rw [inTreeName?, inTreeName?, ungated]
  cases cluster.infrastructure with
  | error e => rfl
  | ok found => cases found <;> rfl

end Cluster

/-! ### One observation -/

/-- The observation with another provider name. -/
def Observation.withName (observation : Observation) (name : Option String) : Observation :=
  { observation with flags := { observation.flags with providerName := name } }

namespace Observer

variable {o : Observer} {cluster : Cluster} {accept : SyncRule → Except Error Unit}
  {existing : Json}

/-- What retains nothing did not fail. -/
theorem observe_ends_of_fresh (fresh : (o.observe cluster accept existing).value.retained = none) :
    cluster.infrastructure = .ok none ∨
      ∃ i external managed, o.Settles cluster accept i external managed := by
  rcases o.observe_ends cluster accept with missing | ⟨stage, e, hf⟩ | hs
  · exact .inl missing
  · rw [observe_of_failsAt hf] at fresh
    cases fresh
  · exact .inr hs

/-- Nothing is settled by the name of the provider but the name. -/
theorem settle_withName (existing : Json) (name name' : Option String)
    (source : Option ConfigSource) :
    o.settle existing name' source =
      ⟨(o.settle existing name source).value.withName name',
        (o.settle existing name source).trace⟩ := by
  cases source with
  | none => rfl
  | some source => rw [settle_some, settle_some]; rfl

theorem platformNotices_ungated (cluster : Cluster) :
    platformNotices cluster.ungated = platformNotices cluster := by
  rw [platformNotices, platformNotices, Cluster.ungated]
  cases cluster.infrastructure with
  | error e => rfl
  | ok found => cases found <;> rfl

/-- Without a gate, too, every stage is gone through, and no external provider is asked for. -/
theorem Settles.ungated {i : Infrastructure} {external : Bool} {managed : Option ConfigMap}
    (h : o.Settles cluster accept i external managed) :
    o.Settles cluster.ungated accept i.ungated false managed where
  found := Cluster.infrastructure_ungated_of_found h.found
  decided := rfl
  looked := h.looked
  accepted := h.accepted

theorem providerName_cases (external : Bool) (provider : Option InTreeProvider) :
    providerName external provider = some externalName ∨
      providerName external provider = provider.map InTreeProvider.name := by
  cases external with
  | true => exact .inl rfl
  | false => exact .inr rfl

/-- An observation that goes through is that of the cluster without a gate, but for a provider that
is external. -/
theorem observe_eq_ungated (fresh : (o.observe cluster accept existing).value.retained = none) :
    ∃ name, (name = some externalName ∨ name = cluster.inTreeName?) ∧
      o.observe cluster accept existing =
        ⟨(o.observe cluster.ungated accept existing).value.withName name,
          (o.observe cluster.ungated accept existing).trace⟩ := by
  rcases observe_ends_of_fresh fresh with missing | ⟨i, external, managed, hs⟩
  · refine ⟨none, .inr (by rw [Cluster.inTreeName?, missing]), ?_⟩
    rw [observe_of_missing missing,
      observe_of_missing (Cluster.infrastructure_ungated_of_missing missing)]
    rfl
  · refine ⟨providerName external i.platform.inTree?, ?_, ?_⟩
    · rw [Cluster.inTreeName?, hs.found]
      exact providerName_cases ..
    · -- the source is chosen by what both clusters have
      have hsource : sourceFor i.ungated managed = sourceFor i managed := rfl
      rw [observe_of_settles hs, observe_of_settles hs.ungated, platformNotices_ungated, hsource,
        settle_withName existing (providerName false i.ungated.platform.inTree?)]

/-! ### Two observations -/

/-- Of two clusters that differ only in the feature gate and `platformStatus`, if no stage fails for
either, the same is looked up, recorded, asked for and warned of, with the same errors and the same
file; and the provider is the same, or for one of them it is external and for the other the one
built in. -/
theorem gate_decides_external_only {o : Observer} {cluster cluster' : Cluster}
    {accept : SyncRule → Except Error Unit} {existing : Json}
    (same : cluster.ungated = cluster'.ungated)
    (fresh : (o.observe cluster accept existing).value.retained = none)
    (fresh' : (o.observe cluster' accept existing).value.retained = none) :
    let seen := o.observe cluster accept existing
    let seen' := o.observe cluster' accept existing
    let name := seen.value.flags.providerName
    let name' := seen'.value.flags.providerName
    seen.trace = seen'.trace ∧ seen.value.errors = seen'.value.errors ∧
      seen.value.flags.configFile = seen'.value.flags.configFile ∧
      (name = name' ∨ name = some externalName ∧ name' = cluster'.inTreeName? ∨
        name' = some externalName ∧ name = cluster.inTreeName?) := by
  obtain ⟨name, hname, hseen⟩ := observe_eq_ungated fresh
  obtain ⟨name', hname', hseen'⟩ := observe_eq_ungated fresh'
  have hinTree : cluster.inTreeName? = cluster'.inTreeName? := by
    rw [← cluster.inTreeName?_ungated, same, cluster'.inTreeName?_ungated]
  rw [hseen, hseen', same]
  refine ⟨rfl, rfl, rfl, ?_⟩
  show name = name' ∨ name = some externalName ∧ name' = _ ∨ name' = some externalName ∧ name = _
  rcases hname with hexternal | hbuiltIn
  · rcases hname' with hexternal' | hbuiltIn'
    · exact .inl (hexternal.trans hexternal'.symm)
    · exact .inr (.inl ⟨hexternal, hbuiltIn'⟩)
  · rcases hname' with hexternal' | hbuiltIn'
    · exact .inr (.inr ⟨hexternal', hbuiltIn⟩)
    · exact .inl (hbuiltIn.trans (hinTree.trans hbuiltIn'.symm))

section Preview

open Scenario

/-- A cluster on AWS without a gate, whose `platformStatus` is missing. -/
def plainCluster : Cluster :=
  { (awsCache "cloud-provider-config" "").cluster with
    infrastructure := .ok (some { awsInfrastructure "cloud-provider-config" with
      status := some ⟨.aws, none⟩ })
    featureGate := .ok none }

/-- The same with a gate and a `platformStatus` that names another platform. -/
def divertedCluster : Cluster :=
  { plainCluster with
    infrastructure := .ok (some { awsInfrastructure "cloud-provider-config" with
      status := some ⟨.aws, some .ibmCloud⟩ })
    featureGate := .ok (some ⟨{}, ⟨"Unknown", none⟩⟩) }

/-- What is built in gives way, and the file is that of the platform in the older field. -/
theorem gate_decides_external_only_divertedCluster :
    plainCluster.ungated = divertedCluster.ungated ∧
      let seen := standardObserver.observe plainCluster SyncRule.check Json.empty
      let seen' := standardObserver.observe divertedCluster SyncRule.check Json.empty
      seen.value.retained = none ∧ seen'.value.retained = none ∧ seen.trace = seen'.trace ∧
        seen.value.flags.configFile = seen'.value.flags.configFile ∧
        seen.value.flags.providerName = some "aws" ∧
        seen'.value.flags.providerName = some "external" := by
  have fresh : (standardObserver.observe plainCluster SyncRule.check Json.empty).value.retained =
      none := rfl
  have fresh' : (standardObserver.observe divertedCluster SyncRule.check
      Json.empty).value.retained = none := rfl
  obtain ⟨trace, -, file, -⟩ := gate_decides_external_only rfl fresh fresh'
  exact ⟨rfl, fresh, fresh', trace, file, rfl, rfl⟩

end Preview

end Observer

end CloudFlags
