import CloudFlags.Proofs.Paths

/-! Two ways to look at the flags in a tree: to copy what stands at the two paths, whatever it is,
and to read flags there and write them again. Copying never gets stuck, for the paths lead apart,
and so it keeps the two values and nothing that is not on the way to one of them or inside it
(`FlagPaths.restrict_keeps_two_paths_only`). Reading takes a list with one text for a flag, nothing
or an empty list for none, and reports all else, each path by itself. The two ways come to the same
tree exactly if what stands at the paths could have been written there
(`FlagPaths.write_read_eq_restrict_iff`). -/

namespace CloudFlags

/-! ### Copying -/

/-- What can be reached after a value was put in its place could be reached before, or lies on the
way to that place or behind it. -/
theorem Json.reached_of_place {p keys : List String} {value : Option Json} {tree : Json}
    (h : ((place p value tree).get? keys).isSome) :
    (tree.get? keys).isSome ∨ value.isSome ∧ (keys <+: p ∨ p <+: keys) := by
  cases value with
  | none => exact .inl h
  | some value =>
    by_cases hbefore : keys <+: p
    · exact .inr ⟨rfl, .inl hbefore⟩
    · by_cases hbehind : p <+: keys
      · exact .inr ⟨rfl, .inr hbehind⟩
      · rw [place, get?_write_of_leadApart ⟨hbehind, hbefore⟩] at h
        exact .inl h

namespace FlagPaths

/-- Restricting a tree never gets stuck, gives what stands at the two paths and nothing that is
neither on the way to what stands there nor inside it, changes nothing when it is done again, and
depends on nothing else. -/
theorem restrict_keeps_two_paths_only (paths : FlagPaths) (tree : Json) :
    (∀ value, paths.name.get? tree = some value →
      (paths.name.write value Json.empty).2 = .ok ()) ∧
    (∀ value, paths.config.get? tree = some value →
      (paths.config.write value (copyAt paths.name tree Json.empty)).2 = .ok ()) ∧
    paths.name.get? (paths.restrict tree) = paths.name.get? tree ∧
    paths.config.get? (paths.restrict tree) = paths.config.get? tree ∧
    (∀ keys ≠ [], ((paths.restrict tree).get? keys).isSome →
      ∃ path ∈ [paths.name, paths.config], (path.get? tree).isSome ∧
        (keys <+: path.keys ∨ path.keys <+: keys)) ∧
    paths.restrict (paths.restrict tree) = paths.restrict tree ∧
    ∀ other, paths.name.get? other = paths.name.get? tree →
      paths.config.get? other = paths.config.get? tree →
      paths.restrict other = paths.restrict tree := by
  refine ⟨fun value _ => KeyPath.write_ok_iff.2 (Json.stuck?_write_empty value _), fun value _ => ?_,
    paths.get?_name_restrict tree, paths.get?_config_restrict tree, ?_,
    paths.restrict_restrict tree,
    fun other hname hconfig => (Alike.mk hname hconfig).restrict_eq⟩
  · rw [copyAt_eq_place]
    exact KeyPath.write_ok_iff.2 (Json.stuck?_write_place_empty paths.leadApart _ value)
  · intro keys hkeys hreached
    rw [restrict_eq_treeOf, treeOf] at hreached
    rcases Json.reached_of_place hreached with hfirst | ⟨hstands, hnear⟩
    · rcases Json.reached_of_place hfirst with hnone | ⟨hstands, hnear⟩
      · rw [Json.get?_empty hkeys] at hnone
        cases hnone
      · exact ⟨paths.name, List.mem_cons_self, hstands, hnear⟩
    · exact ⟨paths.config, List.mem_cons_of_mem _ List.mem_cons_self, hstands, hnear⟩

end FlagPaths

/-! ### Reading -/

namespace Flags

/-- The flag that a value says: the text of a list with one text. -/
def ofValue? : Option Json → Option String
  | some (.arr [.str s]) => some s
  | _ => none

/-- Nothing, or a flag as it is written. -/
def IsWritten (found : Option Json) : Prop := found = none ∨ ∃ s, found = some (Json.single s)

/-- Nothing, a list without items, or a flag as it is written. -/
def IsReadable (found : Option Json) : Prop :=
  found = none ∨ found = some (.arr []) ∨ ∃ s, found = some (Json.single s)

theorem map_ofValue?_eq_iff {found : Option Json} :
    (ofValue? found).map Json.single = found ↔ IsWritten found := by
  constructor
  · intro h
    rw [← h]
    cases ofValue? found with
    | none => exact .inl rfl
    | some s => exact .inr ⟨s, rfl⟩
  · rintro (rfl | ⟨s, rfl⟩) <;> rfl

theorem ofValue?_of_not_readable {found : Option Json} (h : ¬ IsReadable found) :
    ofValue? found = none := by
  unfold ofValue?
  split
  · exact absurd (.inr (.inr ⟨_, rfl⟩)) h
  · rfl

end Flags

namespace KeyPath

variable {path : KeyPath} {tree : Json}

theorem readList_eq_none_iff : path.readList tree = .ok none ↔ path.get? tree = none := by
  constructor
  · intro h
    cases hfound : path.get? tree with
    | none => rfl
    | some value =>
      simp only [readList, hfound] at h
      cases hitems : value.items? with
      | none =>
        rw [hitems] at h
        cases h
      | some items =>
        rw [hitems] at h
        cases hread : items.mapM path.readItem <;> simp [hread, Except.map] at h
  · intro h
    simp only [readList, h]

/-- What is readable is read as a list of one text at most. -/
theorem isReadable_iff : Flags.IsReadable (path.get? tree) ↔ path.readList tree = .ok none ∨
    path.readList tree = .ok (some []) ∨ ∃ s, path.readList tree = .ok (some [s]) := by
  simp only [readList_eq_none_iff, readList_eq_some_iff]
  exact Iff.rfl

theorem readSingle_of_readable (h : Flags.IsReadable (path.get? tree)) :
    path.readSingle tree = .ok (Flags.ofValue? (path.get? tree)) := by
  rcases h with hnone | hempty | ⟨s, hsingle⟩
  · rw [readSingle_none hnone, hnone]
    rfl
  · have hlist : path.readList tree = .ok (some []) := readList_eq_some_iff.2 hempty
    rw [hempty]
    simp only [readSingle, hlist]
    rfl
  · rw [readSingle_single hsingle, hsingle]
    rfl

theorem readSingle_of_not_readable (h : ¬ Flags.IsReadable (path.get? tree)) :
    ∃ reason, path.readSingle tree = .error (path.undecodable reason) := by
  rw [isReadable_iff] at h
  cases hlist : path.readList tree with
  | error e =>
    obtain ⟨reason, rfl⟩ := readList_eq_error hlist
    exact ⟨reason, by simp only [readSingle, hlist]⟩
  | ok found =>
    cases found with
    | none => exact absurd (.inl hlist) h
    | some texts =>
      cases texts with
      | nil => exact absurd (.inr (.inl hlist)) h
      | cons s rest =>
        cases rest with
        | nil => exact absurd (.inr (.inr ⟨s, hlist⟩)) h
        | cons t rest => exact ⟨_, by rw [readSingle, hlist]⟩

/-- The report on a flag: nothing if it can be read, and else one error at its path. -/
def Reports (path : KeyPath) (tree : Json) (errors : List Error) : Prop :=
  (Flags.IsReadable (path.get? tree) ∧ errors = []) ∨
    (¬ Flags.IsReadable (path.get? tree) ∧ ∃ reason, errors = [.undecodable path.text reason])

theorem Reports.eq_nil_iff {errors : List Error} (h : path.Reports tree errors) :
    errors = [] ↔ Flags.IsReadable (path.get? tree) := by
  rcases h with ⟨hreadable, rfl⟩ | ⟨hunreadable, reason, rfl⟩
  · exact iff_of_true rfl hreadable
  · exact iff_of_false (List.cons_ne_nil _ _) hunreadable

/-- A flag is read by what stands at its path alone. -/
theorem exists_reports (path : KeyPath) (tree : Json) :
    ∃ errors, Flags.readOne path tree = (Flags.ofValue? (path.get? tree), errors) ∧
      path.Reports tree errors := by
  by_cases h : Flags.IsReadable (path.get? tree)
  · refine ⟨[], ?_, .inl ⟨h, rfl⟩⟩
    rw [Flags.readOne, readSingle_of_readable h]
  · obtain ⟨reason, hread⟩ := readSingle_of_not_readable h
    refine ⟨[path.undecodable reason], ?_, .inr ⟨h, reason, rfl⟩⟩
    rw [Flags.readOne, hread, Flags.ofValue?_of_not_readable h]

end KeyPath

namespace FlagPaths

/-- Trees of two values are the same only if the values are. -/
theorem treeOf_eq_iff (paths : FlagPaths) {u v u' v' : Option Json} :
    paths.treeOf u v = paths.treeOf u' v' ↔ u = u' ∧ v = v' := by
  constructor
  · intro h
    have hname := congrArg paths.name.get? h
    have hconfig := congrArg paths.config.get? h
    rw [get?_name_treeOf, get?_name_treeOf] at hname
    rw [get?_config_treeOf, get?_config_treeOf] at hconfig
    exact ⟨hname, hconfig⟩
  · rintro ⟨rfl, rfl⟩
    rfl

/-- Each flag is read by what stands at its path alone, with one error at most, that of the name
first; there is none exactly if both are readable. Writing what was read gives the restricted tree
exactly if what stands at both paths is nothing, or as it is written. -/
theorem write_read_eq_restrict_iff (paths : FlagPaths) (tree : Json) :
    (∃ nameErrors configErrors,
      paths.read tree =
        (⟨Flags.ofValue? (paths.name.get? tree), Flags.ofValue? (paths.config.get? tree)⟩,
          nameErrors ++ configErrors) ∧
      paths.name.Reports tree nameErrors ∧ paths.config.Reports tree configErrors) ∧
    ((paths.read tree).2 = [] ↔
      Flags.IsReadable (paths.name.get? tree) ∧ Flags.IsReadable (paths.config.get? tree)) ∧
    (paths.write (paths.read tree).1 = .ok (paths.restrict tree) ↔
      Flags.IsWritten (paths.name.get? tree) ∧ Flags.IsWritten (paths.config.get? tree)) := by
  obtain ⟨nameErrors, hname, hnameReports⟩ := paths.name.exists_reports tree
  obtain ⟨configErrors, hconfig, hconfigReports⟩ := paths.config.exists_reports tree
  have hread : paths.read tree =
      (⟨Flags.ofValue? (paths.name.get? tree), Flags.ofValue? (paths.config.get? tree)⟩,
        nameErrors ++ configErrors) := by
    rw [read, Flags.read, hname, hconfig]
  refine ⟨⟨nameErrors, configErrors, hread, hnameReports, hconfigReports⟩, ?_, ?_⟩
  · rw [hread, List.append_eq_nil_iff, hnameReports.eq_nil_iff, hconfigReports.eq_nil_iff]
  · rw [hread, write_eq_ok, restrict_eq_treeOf, Except.ok.injEq, treeOf_eq_iff,
      Flags.map_ofValue?_eq_iff, Flags.map_ofValue?_eq_iff]

end FlagPaths

end CloudFlags
