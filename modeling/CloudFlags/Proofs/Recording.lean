import CloudFlags.Proofs.Notices

/-! What an observation records. There are two kinds of events, and an observation records one of
either kind or none: a warning where the cluster gives rise to one (`Cluster.warning?`), and else
the change of the file, where the tree to publish names a file that did not stand at its path
before. The two exclude one another, since a platform that is warned of has no built-in provider,
and without one there is no file (`Observer.recorded_cases`). What stood at the path before may be
anything: what is compared is read as a list of texts, and this tells a file from every other value.
-/

namespace CloudFlags

open Observation Resource

/-! ### Events among notices -/

/-- The event that a notice records. -/
def Notice.event? : Notice → Option Event
  | .recorded event => some event
  | _ => none

/-- The events that are recorded, in order. -/
def eventsOf (notices : List Notice) : List Event := notices.filterMap Notice.event?

@[simp] theorem eventsOf_append (first second : List Notice) :
    eventsOf (first ++ second) = eventsOf first ++ eventsOf second := List.filterMap_append

/-! ### Warnings -/

/-- The warning to which a cluster gives rise. -/
def Cluster.warning? (cluster : Cluster) : Option Event :=
  match cluster.infrastructure with
  | .error _ => none
  | .ok none => some missingInfrastructure
  | .ok (some i) =>
    match OutOfTree.isExternal cluster.featureGate i.platformStatus with
    | .error e => some (undecidedProvider e)
    | .ok _ => platformWarning? i.platform

theorem isSome_platformWarning?_iff {platform : Platform} :
    (platformWarning? platform).isSome ↔
      platform = .unset ∨ ∃ name, platform = .unrecognized name := by
  cases platform <;> simp [platformWarning?]

/-- A platform that is warned of brings no provider. -/
theorem inTree?_of_platformWarning {platform : Platform} {event : Event}
    (h : platformWarning? platform = some event) : platform.inTree? = none := by
  cases platform <;> simp_all [platformWarning?, Platform.inTree?]

namespace Cluster

variable {cluster : Cluster}

theorem type_of_warning {event : Event} (h : cluster.warning? = some event) :
    event.type = .warning := by
  unfold warning? at h
  split at h
  · cases h
  · cases h
    rfl
  · split at h
    · cases h
      rfl
    · obtain ⟨message, rfl⟩ := Observer.exists_eq_of_platformWarning h
      rfl

theorem not_normal_of_mem_warning? {event : Event} (h : event ∈ cluster.warning?.toList) :
    event.type ≠ .normal := by
  rw [Option.mem_toList] at h
  rw [type_of_warning h]
  exact EventType.noConfusion

theorem exists_mem_warning?_iff :
    (∃ event ∈ cluster.warning?.toList, event.type = .warning) ↔ cluster.warning?.isSome := by
  cases hwarning : cluster.warning? with
  | none => simp
  | some event => simp [type_of_warning hwarning]

/-- There is a warning for want of an `Infrastructure`, of a decision about an external provider, or
of a platform. -/
theorem isSome_warning?_iff :
    cluster.warning?.isSome ↔
      cluster.infrastructure = .ok none ∨ ∃ i, cluster.infrastructure = .ok (some i) ∧
        ((∃ e, OutOfTree.isExternal cluster.featureGate i.platformStatus = .error e) ∨
          i.platform = .unset ∨ ∃ name, i.platform = .unrecognized name) := by
  unfold warning?
  cases cluster.infrastructure with
  | error e => simp
  | ok found =>
    cases found with
    | none => simp
    | some i =>
      cases hx : OutOfTree.isExternal cluster.featureGate i.platformStatus with
      | error e => simp [hx]
      | ok external => simp [hx, isSome_platformWarning?_iff]

end Cluster

/-! ### What each end of an observation records -/

namespace Observer

variable {o : Observer} {cluster : Cluster} {accept : SyncRule → Except Error Unit}

theorem eventsOf_platformNotices {i : Infrastructure}
    (found : cluster.infrastructure = .ok (some i)) :
    eventsOf (platformNotices cluster) = (platformWarning? i.platform).toList := by
  simp only [platformNotices, found]
  cases platformWarning? i.platform <;> rfl

theorem eventsOf_refusedRule (o : Observer) (cluster : Cluster) :
    eventsOf (o.refusedRule cluster) = [] := by
  unfold refusedRule
  split <;> rfl

theorem warning?_of_decided {i : Infrastructure} {external : Bool}
    (found : cluster.infrastructure = .ok (some i))
    (decided : OutOfTree.isExternal cluster.featureGate i.platformStatus = .ok external) :
    cluster.warning? = platformWarning? i.platform := by
  simp only [Cluster.warning?, found, decided]

theorem eventsOf_of_missing (missing : cluster.infrastructure = .ok none) (existing : Json) :
    eventsOf (o.observe cluster accept existing).trace = cluster.warning?.toList := by
  rw [observe_of_missing missing, Cluster.warning?, missing]
  rfl

/-- Up to the stage that fails, the warning is all that is recorded. -/
theorem eventsOf_noticesTo {stage : Stage} {e : Error} (h : o.FailsAt cluster accept stage e) :
    eventsOf (o.noticesTo cluster e stage) = cluster.warning?.toList := by
  cases h with
  | infrastructure failed =>
    rw [Cluster.warning?, failed]
    rfl
  | featureGate found failed =>
    simp only [Cluster.warning?, found, failed]
    rfl
  | externalProvider found gated failed =>
    simp only [Cluster.warning?, found, gated, OutOfTree.isExternal, failed]
    rfl
  | managedMap found decided failed =>
    rw [warning?_of_decided found decided, noticesTo, eventsOf_append,
      eventsOf_platformNotices found]
    rfl
  | rule found decided looked failed =>
    rw [warning?_of_decided found decided, noticesTo, eventsOf_append, eventsOf_append,
      eventsOf_platformNotices found, eventsOf_refusedRule, List.append_nil]
    rfl

theorem eventsOf_of_failsAt {stage : Stage} {e : Error} (h : o.FailsAt cluster accept stage e)
    (existing : Json) :
    eventsOf (o.observe cluster accept existing).trace = cluster.warning?.toList := by
  have hkeep : eventsOf (o.keep existing e).trace = [] := filterMap_keep (fun _ => rfl) o existing e
  rw [observe_of_failsAt h, eventsOf_append, eventsOf_noticesTo h, hkeep, List.append_nil]

/-- With every stage gone through, the change of the file comes after the warning. -/
theorem eventsOf_of_settles {i : Infrastructure} {external : Bool} {managed : Option ConfigMap}
    (h : o.Settles cluster accept i external managed) (existing : Json) :
    eventsOf (o.observe cluster accept existing).trace =
      cluster.warning?.toList ++ eventsOf (o.changeNotices existing (sourceFor i managed)) := by
  have hsettle (name : Option String) :
      eventsOf (o.settle existing name (sourceFor i managed)).trace =
        eventsOf (o.changeNotices existing (sourceFor i managed)) :=
    filterMap_settle (fun _ => rfl) ..
  rw [warning?_of_decided h.found h.decided, ← hsettle (providerName external i.platform.inTree?),
    observe_of_settles h, eventsOf_append, eventsOf_append, eventsOf_platformNotices h.found]
  rfl

/-- A platform that is warned of has no source. -/
theorem sourceFor_of_platformWarning {i : Infrastructure} {event : Event}
    (h : platformWarning? i.platform = some event) (managed : Option ConfigMap) :
    sourceFor i managed = none := by
  unfold sourceFor
  rw [inTree?_of_platformWarning h]
  rfl

/-! ### The one event -/

/-- Of an observation and the tree it publishes: only the warning is recorded, if there is one, and
the tree names no file but one that stood there before; or there is no warning, and a file that did
not stand there is named and announced. -/
theorem recorded_cases (o : Observer) (cluster : Cluster) (accept : SyncRule → Except Error Unit)
    (existing : Json) :
    let seen := o.observe cluster accept existing
    let named := o.paths.config.get? (seen.value.published o.paths)
    let before := o.paths.config.get? existing
    (eventsOf seen.trace = cluster.warning?.toList ∧ (named = none ∨ named = before)) ∨
      (cluster.warning? = none ∧ ∃ file, eventsOf seen.trace = [fileChanged file] ∧
        named = some (Json.single file) ∧ before ≠ some (Json.single file)) := by
  intro seen named before
  rcases o.observe_ends cluster accept with missing | ⟨stage, e, hf⟩ | ⟨i, external, managed, hs⟩
  · refine .inl ⟨eventsOf_of_missing missing existing, .inl ?_⟩
    show o.paths.config.get? _ = none
    rw [published_of_missing missing, FlagPaths.get?_config_treeOf]
  · refine .inl ⟨eventsOf_of_failsAt hf existing, .inr ?_⟩
    show o.paths.config.get? _ = o.paths.config.get? existing
    rw [published_of_failsAt hf, FlagPaths.get?_config_restrict]
  · have hevents : eventsOf seen.trace = _ := eventsOf_of_settles hs existing
    have hnamed : named = (sourceFor i managed).map fun source => Json.single source.file := by
      show o.paths.config.get? _ = _
      rw [published_of_settles hs, FlagPaths.get?_config_treeOf]
    cases hsource : sourceFor i managed with
    | none =>
      rw [hsource] at hevents hnamed
      refine .inl ⟨?_, .inl hnamed⟩
      rw [hevents]
      exact List.append_nil _
    | some source =>
      have hwarning : cluster.warning? = none := by
        rw [warning?_of_decided hs.found hs.decided]
        cases hw : platformWarning? i.platform with
        | none => rfl
        | some event =>
          rw [sourceFor_of_platformWarning hw] at hsource
          cases hsource
      rw [hsource] at hevents hnamed
      rw [hwarning, changeNotices] at hevents
      split at hevents
      · next hsame =>
        refine .inl ⟨?_, .inr (hnamed.trans hsame.symm)⟩
        rw [hevents, hwarning]
        rfl
      · next hother => exact .inr ⟨hwarning, source.file, hevents, hnamed, hother⟩

/-- An observation records one event at most. It is the change of the file exactly if the tree to
publish holds another value at the file's path than the previous tree, and a warning exactly if
there is no `Infrastructure`, or there is one for which the decision about an external provider
fails or which tells of no platform that is known. -/
theorem recorded_event_tells_truth (o : Observer) (cluster : Cluster)
    (accept : SyncRule → Except Error Unit) (existing : Json) :
    let seen := o.observe cluster accept existing
    let events := eventsOf seen.trace
    ∃ tree, seen.value.tree o.paths = .ok tree ∧ events.length ≤ 1 ∧
      ((∃ event ∈ events, event.type = .normal) ↔
        ∃ value, o.paths.config.get? tree = some value ∧
          o.paths.config.get? existing ≠ some value) ∧
      (∀ event ∈ events, event.type = .normal →
        ∃ file, event = fileChanged file ∧ o.paths.config.get? tree = some (Json.single file)) ∧
      ((∃ event ∈ events, event.type = .warning) ↔
        cluster.infrastructure = .ok none ∨ ∃ i, cluster.infrastructure = .ok (some i) ∧
          ((∃ e, OutOfTree.isExternal cluster.featureGate i.platformStatus = .error e) ∨
            i.platform = .unset ∨ ∃ name, i.platform = .unrecognized name)) := by
  intro seen events
  refine ⟨seen.value.published o.paths, tree_eq_published .., ?_⟩
  rw [← Cluster.isSome_warning?_iff]
  rcases o.recorded_cases cluster accept existing with
    ⟨hevents, hnamed⟩ | ⟨hwarning, file, hevents, hnamed, hbefore⟩
  · have hevents : events = cluster.warning?.toList := hevents
    have hunchanged (event : Event) (hevent : event ∈ events) : event.type ≠ .normal :=
      Cluster.not_normal_of_mem_warning? (hevents ▸ hevent)
    refine ⟨?_, iff_of_false ?_ ?_, fun event hevent hnormal => ?_, ?_⟩
    · rw [hevents]
      cases cluster.warning? <;> simp
    · rintro ⟨event, hevent, hnormal⟩
      exact hunchanged event hevent hnormal
    · rintro ⟨value, hvalue, hother⟩
      rcases hnamed with hnone | hsame
      · rw [hnone] at hvalue
        cases hvalue
      · exact hother (hsame.symm.trans hvalue)
    · exact absurd hnormal (hunchanged event hevent)
    · rw [hevents]
      exact Cluster.exists_mem_warning?_iff
  · have hevents : events = [fileChanged file] := hevents
    have hnormal : (fileChanged file).type = .normal := rfl
    rw [hevents, hwarning]
    refine ⟨Nat.le_refl 1, iff_of_true ?_ ⟨_, hnamed, hbefore⟩, fun event hevent _ => ?_, ?_⟩
    · exact ⟨_, List.mem_singleton_self _, hnormal⟩
    · exact ⟨file, List.mem_singleton.1 hevent, hnamed⟩
    · simp [hnormal]

end Observer

end CloudFlags
