import Mathlib.Data.List.Basic
import Mathlib.Data.List.TakeWhile
import CloudFlags.Api.Request
import CloudFlags.Observation.Observer
import CloudFlags.Operator.Publishing

/-! Where the path for a config map leads. The path is what was put together from a namespace and a
name, up to a mark, and is taken apart by those who receive it. Without a slash in the namespace it
leads to the config map it was put together for, but for a mark in the name, or nowhere
(`Request.eq_of_addressed?`); with slashes and a mark it can lead to any. So that a request reaches
the config map it is made for is an assumption about the namespace (`Observer.Addresses`), which
every namespace without a slash meets. -/

namespace CloudFlags

namespace Api.Request

variable {l kept : Location}

/-! ### Taking a path apart -/

theorem dropWhile_part_append {part : List Char} (h : partMark ∉ part) (rest : List Char) :
    (part ++ partMark :: rest).dropWhile (· ≠ partMark) = partMark :: rest := by
  have hall : ∀ c ∈ part, decide (c ≠ partMark) = true := by
    intro c hc
    exact decide_eq_true (ne_of_mem_of_not_mem hc h)
  rw [List.dropWhile_append_of_pos hall, List.dropWhile_cons_of_neg (by decide)]

theorem takeWhile_part_append {part : List Char} (h : partMark ∉ part) (rest : List Char) :
    (part ++ partMark :: rest).takeWhile (· ≠ partMark) = part := by
  have hall : ∀ c ∈ part, decide (c ≠ partMark) = true := by
    intro c hc
    exact decide_eq_true (ne_of_mem_of_not_mem hc h)
  rw [List.takeWhile_append_of_pos hall, List.takeWhile_cons_of_neg (by decide), List.append_nil]

/-- No mark stands in what leads to the namespaces, nor in what leads to config maps. -/
theorem path_mapPath (l : Location) :
    path (mapPath l) = spacesPath.toList ++
      (l.space.toList ++ (mapsPath.toList ++ l.name.toList)).takeWhile isInPath := by
  have hspaces : ∀ c ∈ spacesPath.toList, isInPath c = true := List.all_eq_true.1 (by decide)
  rw [path, mapPath, spacePath, String.toList_append, String.toList_append, String.toList_append,
    List.append_assoc, List.append_assoc, List.takeWhile_append_of_pos hspaces]

theorem mapAt?_spacesPath (spaces : List Char) :
    mapAt? (spacesPath.toList ++ spaces) =
      (mapsPath.toList.isPrefixOf? (spaces.dropWhile (· ≠ partMark))).bind fun name =>
        if partMark ∈ name then none
        else some ⟨String.ofList (spaces.takeWhile (· ≠ partMark)), String.ofList name⟩ := by
  have hfront : spacesPath.toList.isPrefixOf? (spacesPath.toList ++ spaces) = some spaces :=
    List.isPrefixOf?_eq_some_iff_append_eq.2 rfl
  rw [mapAt?, hfront]
  rfl

/-! ### The path that is sent -/

/-- A query is no part of the path. -/
theorem path_append_query (text : String) {query : String} {rest : List Char}
    (h : query.toList = queryMark :: rest) : path (text ++ query) = path text := by
  have hnone : (queryMark :: rest).takeWhile isInPath = [] :=
    List.takeWhile_cons_of_neg (by decide)
  rw [path, String.toList_append, List.takeWhile_append, h, hnone, List.append_nil, path]
  split
  · next hall => exact ((List.takeWhile_prefix _).eq_of_length hall).symm
  · rfl

/-- Nor is what is not sent. -/
theorem path_target (request : Request) : path request.target = path request.address := by
  rw [path, target, String.toList_ofList, List.takeWhile_takeWhile, path]
  congr 1
  funext c
  rw [isInPath, Bool.eq_iff_iff, decide_eq_true_iff]
  exact ⟨And.left, fun h => ⟨h, (Bool.and_eq_true_iff.1 h).2⟩⟩

/-- Every request about a config map is sent along the same path. -/
theorem path_target_map (l : Location) (contents : Contents) :
    ∀ request ∈ [readMap l, removeMap l, applyMap l contents],
      path request.target = path (mapPath l) := by
  intro request hrequest
  rw [path_target]
  simp only [List.mem_cons, List.not_mem_nil, or_false] at hrequest
  rcases hrequest with rfl | rfl | rfl
  · rfl
  · exact path_append_query (mapPath l) rfl
  · exact path_append_query (mapPath l) rfl

/-! ### Where a path leads -/

/-- What a path leads to is in a namespace without a slash. -/
theorem partMark_not_mem_space (h : addressed? l = some kept) : partMark ∉ kept.space.toList := by
  rw [addressed?, path_mapPath, mapAt?_spacesPath] at h
  obtain ⟨name, -, h⟩ := Option.bind_eq_some_iff.1 h
  obtain ⟨-, h⟩ := Option.ite_none_left_eq_some.1 h
  cases h
  rw [String.toList_ofList]
  intro hmem
  have hne := List.mem_takeWhile_imp hmem
  exact absurd rfl (of_decide_eq_true hne)

/-- The path for a config map whose namespace has no slash leads to it, up to a mark in the name, or
nowhere. -/
theorem eq_of_addressed?_of_space (hspace : partMark ∉ l.space.toList)
    (h : addressed? l = some kept) : kept = ⟨l.space, String.ofList (path l.name)⟩ := by
  rw [addressed?, path_mapPath, mapAt?_spacesPath] at h
  obtain ⟨name, hname, h⟩ := Option.bind_eq_some_iff.1 h
  obtain ⟨-, h⟩ := Option.ite_none_left_eq_some.1 h
  by_cases hall : ∀ c ∈ l.space.toList, isInPath c = true
  · have hbehind : (mapsPath.toList ++ l.name.toList).takeWhile isInPath =
        partMark :: ("configmaps/".toList ++ path l.name) :=
      List.takeWhile_append_of_pos (List.all_eq_true.1 (by decide))
    rw [List.takeWhile_append_of_pos hall, hbehind] at hname h
    rw [dropWhile_part_append hspace] at hname
    rw [takeWhile_part_append hspace] at h
    have hwhole : mapsPath.toList ++ name = mapsPath.toList ++ path l.name :=
      List.isPrefixOf?_eq_some_iff_append_eq.1 hname
    rw [← List.append_cancel_left hwhole, ← Option.some.inj h, String.ofList_toList]
  · have hshort : (l.space.toList ++ (mapsPath.toList ++ l.name.toList)).takeWhile isInPath =
        l.space.toList.takeWhile isInPath := by
      rw [List.takeWhile_append, if_neg]
      intro hlength
      have hself := (List.takeWhile_prefix isInPath).eq_of_length hlength
      exact hall (List.takeWhile_eq_self_iff.1 hself)
    have hnone : (l.space.toList.takeWhile isInPath).dropWhile (· ≠ partMark) = [] := by
      refine List.dropWhile_eq_nil_iff.2 fun c hc => decide_eq_true ?_
      exact ne_of_mem_of_not_mem ((List.takeWhile_prefix _).subset hc) hspace
    rw [hshort, hnone] at hname
    cases hname

/-- Only the name is cut short where a path stays in the namespace it was put together for. -/
theorem eq_of_addressed? (h : addressed? l = some kept) (hspace : kept.space = l.space) :
    kept = ⟨l.space, String.ofList (path l.name)⟩ :=
  eq_of_addressed?_of_space (hspace ▸ partMark_not_mem_space h) h

/-- With a slash and a mark in its namespace a path leads to another one. -/
example : addressed? ⟨"here/configmaps/own?", "other"⟩ = some ⟨"here", "own"⟩ := by decide +kernel

/-- The path for a config map leads to it or nowhere. -/
def Addresses (l : Location) : Prop := ∀ kept, addressed? l = some kept → kept = l

theorem addresses_of_space (hspace : partMark ∉ l.space.toList)
    (hname : String.ofList (path l.name) = l.name) : Addresses l := by
  intro kept h
  rw [eq_of_addressed?_of_space hspace h, hname]

end Api.Request

/-! ### The two config maps of an operand -/

namespace Observer

open Api

variable {o : Observer}

/-- A request about the published tree or about the operand's copy reaches the config map. -/
def Reaches (o : Observer) (l : Location) : Prop :=
  Request.addressed? ⟨o.space, Operator.publishedName⟩ = some l ∨
    Request.addressed? o.copyLocation = some l

theorem Reaches.space_eq {l : Location} (h : o.Reaches l)
    (hspace : Request.partMark ∉ o.space.toList) : l.space = o.space := by
  rcases h with h | h
  · rw [Request.eq_of_addressed?_of_space hspace h]
  · rw [Request.eq_of_addressed?_of_space (l := o.copyLocation) hspace h]
    rfl

/-- Requests about the published tree and about the operand's copy reach no other config map. -/
structure Addresses (o : Observer) : Prop where
  published : Request.Addresses ⟨o.space, Operator.publishedName⟩
  copy : Request.Addresses o.copyLocation

theorem path_publishedName :
    String.ofList (Request.path Operator.publishedName) = Operator.publishedName := by
  decide +kernel

theorem path_copyName : String.ofList (Request.path copyName) = copyName := by
  decide +kernel

theorem addresses_of_space (h : Request.partMark ∉ o.space.toList) : o.Addresses where
  published := Request.addresses_of_space h path_publishedName
  copy := Request.addresses_of_space h path_copyName

/-- The operand's copy is not where the tree is published. -/
theorem ne_of_addressed_copy {space : String} {kept : Location}
    (h : Request.addressed? ⟨space, copyName⟩ = some kept) :
    ⟨space, Operator.publishedName⟩ ≠ kept := by
  have hname : copyName ≠ Operator.publishedName := by decide
  rintro rfl
  have heq := Request.eq_of_addressed? h rfl
  rw [path_copyName] at heq
  exact hname (congrArg Location.name heq).symm

/-- So it is never written there. -/
theorem addressed_copy_ne_published (o : Observer) :
    Request.addressed? o.copyLocation ≠ some ⟨o.space, Operator.publishedName⟩ :=
  fun h => ne_of_addressed_copy h rfl

/-- Nor is the tree ever published where the operand's copy stands. -/
theorem addressed_published_ne_copy (o : Observer) :
    Request.addressed? ⟨o.space, Operator.publishedName⟩ ≠ some o.copyLocation := by
  intro h
  have hname : copyName ≠ Operator.publishedName := by decide
  have heq := Request.eq_of_addressed? h rfl
  rw [path_publishedName] at heq
  exact hname (congrArg Location.name heq)

end Observer

end CloudFlags
