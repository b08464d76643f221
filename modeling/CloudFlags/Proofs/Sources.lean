import CloudFlags.Observation.ConfigSource

/-! Which source is chosen for the cloud configuration. Location and key are those of one source: of
the config map that the cluster maintains, where it exists, and else of the one that the
administrator names (`ConfigSource.foremost`). It is chosen for every built-in provider, unless it
is one without a name (`ConfigSource.choose?_eq_some_iff`). -/

namespace CloudFlags

open Resource

/-- The platforms that come with a provider. -/
theorem Platform.isSome_inTree?_iff {platform : Platform} :
    platform.inTree?.isSome ↔ platform ∈ [.aws, .azure, .gcp, .openStack, .vSphere] := by
  cases platform <;> simp [inTree?]

theorem InTreeProvider.contains_synced (provider : InTreeProvider) :
    synced.contains provider = true := by
  cases provider <;> decide

namespace ConfigSource

/-- The source that goes before the other. -/
def foremost (managedExists : Bool) (reference : FileReference) : ConfigSource :=
  if managedExists then managed else named reference

variable {provider : Option InTreeProvider} {managedExists : Bool} {reference : FileReference}
  {source : ConfigSource}

theorem choose?_eq_some_iff :
    choose? provider managedExists reference = some source ↔
      (provider.isSome ∧ (managedExists = true ∨ reference.name ≠ "")) ∧
        foremost managedExists reference = source := by
  unfold choose? foremost
  cases provider with
  | none => simp
  | some provider =>
    have hsynced : (some provider).any (InTreeProvider.synced.contains ·) = true :=
      provider.contains_synced
    rw [if_pos hsynced]
    cases managedExists with
    | true => simp
    | false =>
      by_cases hname : reference.name = ""
      · simp [hname]
      · simp [hname]

theorem isSome_choose?_iff :
    (choose? provider managedExists reference).isSome ↔
      provider.isSome ∧ (managedExists = true ∨ reference.name ≠ "") := by
  rw [Option.isSome_iff_exists]
  constructor
  · rintro ⟨source, h⟩
    exact (choose?_eq_some_iff.1 h).1
  · intro h
    exact ⟨_, choose?_eq_some_iff.2 ⟨h, rfl⟩⟩

/-- Every source stands in a namespace. -/
theorem space_foremost_ne_empty : (foremost managedExists reference).location.space ≠ "" := by
  unfold foremost
  split <;> simp [managed, named, userSpace]

/-- A rule's source is nowhere only for want of a source. -/
theorem locationOf_choose?_eq_nowhere_iff :
    locationOf (choose? provider managedExists reference) = .nowhere ↔
      choose? provider managedExists reference = none := by
  constructor
  · intro h
    cases hchosen : choose? provider managedExists reference with
    | none => rfl
    | some source =>
      obtain ⟨-, rfl⟩ := choose?_eq_some_iff.1 hchosen
      rw [hchosen] at h
      exact absurd (congrArg Location.space h) space_foremost_ne_empty
  · intro h
    rw [h]
    rfl

end ConfigSource

end CloudFlags
