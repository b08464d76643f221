import CloudFlags.Proofs.Json.Nesting
import CloudFlags.Proofs.Obeying

/-! Finding a published tree again. What is found depends on the one config map alone: without it
the tree is empty, and where a tree was published its text is read. The text of a tree stands for
the tree, so what was published successfully is found again exactly as it was
(`restore_of_publish`), and what is found was read from a text or is the empty tree. -/

namespace CloudFlags

open Api Json Resource

/-! ### Sending -/

namespace Api.Request

theorem takeWhile_subset_append {α : Type} (p : α → Bool) (front back : List α) :
    front.takeWhile p ⊆ (front ++ back).takeWhile p := by
  intro a ha
  rw [List.takeWhile_append]
  split
  · exact List.mem_append_left _ ((List.takeWhile_prefix p).subset ha)
  · exact ha

theorem dropWhile_subset_append {α : Type} (p : α → Bool) (front back : List α) :
    front.dropWhile p ⊆ (front ++ back).dropWhile p := by
  intro a ha
  rw [List.dropWhile_append]
  split
  · next hempty =>
    rw [List.isEmpty_iff.1 hempty] at ha
    exact absurd ha List.not_mem_nil
  · exact List.mem_append_left _ ha

/-- A target that can be sent can also be sent without its end. -/
theorem isSendable_of_append {front back : List Char} (h : isSendable (front ++ back)) :
    isSendable front := by
  simp only [isSendable, Bool.and_eq_true, List.all_eq_true] at h ⊢
  obtain ⟨hpath, hquery⟩ := h
  constructor
  · intro c hc
    exact hpath c (takeWhile_subset_append _ front back hc)
  · intro c hc
    exact hquery c (dropWhile_subset_append _ front back hc)

theorem fault?_eq_none_iff {request : Request} :
    request.fault? = none ↔ request.objectName? ≠ some "" ∧
      request.address.utf8ByteSize ≤ longestAddress ∧ isSendable request.target.toList := by
  rw [fault?]
  split
  · next hname => simp only [reduceCtorEq, hname, ne_eq, not_true_eq_false, false_and]
  · next hname =>
    split
    · next hlong => simp only [reduceCtorEq, Nat.not_le.2 hlong, false_and, and_false]
    · next hlong =>
      split
      · next hsendable => exact iff_of_true rfl ⟨hname, Nat.le_of_not_lt hlong, hsendable⟩
      · next hsendable => simp only [reduceCtorEq, hsendable, and_false]

/-- A config map that can be written can be read. -/
theorem fault?_readMap {location : Location} {contents : Contents}
    (h : (applyMap location contents).fault? = none) : (readMap location).fault? = none := by
  obtain ⟨hname, hlong, hsendable⟩ := fault?_eq_none_iff.1 h
  have haddress : (applyMap location contents).address = (readMap location).address ++ applyQuery :=
    rfl
  have htarget : ∃ back, (applyMap location contents).target.toList =
      (readMap location).target.toList ++ back := by
    simp only [target, haddress, String.toList_ofList, String.toList_append, List.takeWhile_append]
    split
    · next hwhole =>
      have hself := (List.takeWhile_prefix _).eq_of_length hwhole
      refine ⟨applyQuery.toList.takeWhile (· ≠ cutMark), ?_⟩
      rw [hself]
    · exact ⟨[], (List.append_nil _).symm⟩
  obtain ⟨back, hback⟩ := htarget
  have hshort : (readMap location).address.utf8ByteSize ≤ longestAddress := by
    rw [haddress, String.utf8ByteSize_append] at hlong
    exact Nat.le_of_add_right_le hlong
  rw [hback] at hsendable
  exact fault?_eq_none_iff.2 ⟨hname, hshort, isSendable_of_append hsendable⟩

end Api.Request

namespace Operator

/-! ### Reading what stands there -/

variable {σ : Type} {api : Api σ} {store : σ → Store} {space : String} {s : σ} {tree : Json}

/-- What is found again, by what was read. -/
theorem restore_value (s : σ) :
    (restore api space s).value.1 =
      match (Exchange.readMap api ⟨space, publishedName⟩ s).value.1 with
      | .error failure => .error (.api failure)
      | .ok none => .ok Json.empty
      | .ok (some map) => publishedTree map := by
  rw [restore, Exchange.bind_apply]
  cases (Exchange.readMap api ⟨space, publishedName⟩ s).value.1 with
  | error failure => rfl
  | ok found => cases found <;> rfl

section

variable (sendable : (Request.readMap ⟨space, publishedName⟩).fault? = none)
include sendable

/-- Without a config map the tree is empty. -/
theorem restore_of_tells_none
    (tells : (api.answer (.readMap ⟨space, publishedName⟩) s).1.Tells none) :
    (restore api space s).value.1 = .ok Json.empty := by
  rw [restore_value, Exchange.readMap_of_tells_none sendable tells]

theorem restore_of_tells_unreadable
    (tells : (api.answer (.readMap ⟨space, publishedName⟩) s).1.Tells (some none)) :
    ∃ failure, (restore api space s).value.1 = .error (.api failure) := by
  obtain ⟨failure, hread⟩ := Exchange.readMap_of_tells_unreadable sendable tells
  refine ⟨failure, ?_⟩
  rw [restore_value, hread]

/-- From a config map the tree is read that its text stands for. -/
theorem restore_of_tells {contents : Contents}
    (tells : (api.answer (.readMap ⟨space, publishedName⟩) s).1.Tells (some (some contents))) :
    (restore api space s).value.1 = treeOfText (publishedText contents) := by
  obtain ⟨map, hread, rfl⟩ := Exchange.readMap_of_tells sendable tells
  rw [restore_value, hread]
  rfl

end

/-- What is told where a tree was published. -/
theorem told?_of_published {st : Store} {l : Location}
    (addressed : Request.addressed? ⟨space, publishedName⟩ = some l)
    (h : st.find? l = some (.ofContents (publishedContents tree))) :
    st.told? ⟨space, publishedName⟩ = some (some (publishedContents tree)) := by
  rw [Store.told?_of_addressed addressed, h, Option.map_some,
    StoredMap.contents?_ofContents (encoded_publishedContents tree)]

/-- A tree that is published and acknowledged could be sent, and its publication was carried out. -/
theorem publish_ok (serves : Serves api store)
    (h : (publish api space tree s).value.1 = .ok ()) :
    (Request.applyMap ⟨space, publishedName⟩ (publishedContents tree)).fault? = none ∧
      store (publish api space tree s).value.2 =
        (Store.answer (.applyMap ⟨space, publishedName⟩ (publishedContents tree)) (store s)).2 := by
  have acknowledged := serves.acknowledged ⟨space, publishedName⟩ (publishedContents tree) s
  simp only [publish, Exchange.applyMap, Exchange.ask, Exchange.bind_apply] at h ⊢
  cases hfault : (Request.applyMap ⟨space, publishedName⟩ (publishedContents tree)).fault? with
  | some fault =>
    rw [hfault] at h
    cases h
  | none =>
    refine ⟨rfl, ?_⟩
    simp only [hfault, Exchange.send, Exchange.bind_apply, Exchange.pure_apply] at h ⊢
    cases hread : Reply.read (ConfigMap.shape.map fun _ => ())
        (api.answer (.applyMap ⟨space, publishedName⟩ (publishedContents tree)) s).1 with
    | error failure =>
      rw [hread] at h
      cases h
    | ok _ => exact acknowledged hread

/-- A store acknowledges what can be sent. -/
theorem publish_store
    (sendable : (Request.applyMap ⟨space, publishedName⟩ (publishedContents tree)).fault? = none)
    (st : Store) : (publish Store.api space tree st).value.1 = .ok () := by
  simp only [publish, Exchange.applyMap, Exchange.ask, Exchange.bind_apply, sendable,
    Exchange.send, Exchange.pure_apply, Store.api, Store.answer, read_published]

/-- A tree that was published to a server that serves, along a path that leads to a config map, is
found again exactly as it was if its numbers are integers of 64 bits, its objects are tables, and
reading allows for its containers: on any server that keeps the same config map and tells of it. -/
theorem restore_of_publish (serves : Serves api store) {l : Location}
    (addressed : Request.addressed? ⟨space, publishedName⟩ = some l)
    (tables : tree.Everywhere IsTable) (integers : tree.Everywhere (IfNumber Number.Fits64))
    (nests : tree.depth ≤ maxDepth) (stored : (publish api space tree s).value.1 = .ok ())
    {ρ : Type} (reader : Api ρ) (kept : ρ → Store) (later : ρ)
    (alone : (kept later).find? l = (store (publish api space tree s).value.2).find? l)
    (tells : (reader.answer (.readMap ⟨space, publishedName⟩) later).1.Tells
      ((kept later).told? ⟨space, publishedName⟩)) :
    (restore reader space later).value.1 = .ok tree := by
  obtain ⟨hsendable, hstore⟩ := publish_ok serves stored
  have hstands : (kept later).find? l = some (.ofContents (publishedContents tree)) := by
    rw [alone, hstore, Store.answer, addressed]
    exact Table.find?_insert_self ..
  have numbers : tree.Everywhere (IfNumber Number.ReadsBack) := by
    refine integers.imp fun part hpart => ?_
    cases part with
    | num n => exact Number.Fits64.readsBack hpart
    | _ => trivial
  have hparse : Json.parse tree.text = .ok tree := parseWithin_text tables numbers nests
  rw [told?_of_published addressed hstands] at tells
  rw [restore_of_tells (Request.fault?_readMap hsendable) tells, publishedText_publishedContents,
    treeOfText, hparse]
  rfl

section Example

open Scenario

/-- A tree with what is hard to write or to read: quotes, control characters, an empty key, the
least and the greatest integer. -/
def intricateTree : Json :=
  .obj [("", .arr [.null, .num (.int (-0x8000000000000000)), .num (.int 0xFFFFFFFFFFFFFFFF)]),
    ("\"\\\u0001", .str "\u00e9\u001f/")]

theorem everywhere_intricateTree :
    intricateTree.Everywhere fun part => IsTable part ∧ IfNumber Number.Fits64 part := by
  have sorted : Entries.Sorted [("", Json.arr [.null, .num (.int (-0x8000000000000000)),
      .num (.int 0xFFFFFFFFFFFFFFFF)]), ("\"\\\u0001", .str "\u00e9\u001f/")] := by
    decide
  refine .obj ⟨sorted, trivial⟩ fun e he => ?_
  simp only [List.mem_cons, List.not_mem_nil, or_false] at he
  rcases he with rfl | rfl
  · refine .arr ⟨trivial, trivial⟩ fun item hitem => ?_
    simp only [List.mem_cons, List.not_mem_nil, or_false] at hitem
    rcases hitem with rfl | rfl | rfl
    · exact .null ⟨trivial, trivial⟩
    · exact .num ⟨trivial, by decide, by decide⟩
    · exact .num ⟨trivial, by decide, by decide⟩
  · exact .str ⟨trivial, trivial⟩

/-- Such a tree is found again, also where another one stood before. -/
theorem restore_intricateTree :
    let st := Table.empty.insert ⟨standardObserver.space, publishedName⟩ ⟨some .null, none, none⟩
    (restore Store.api standardObserver.space
      (publish Store.api standardObserver.space intricateTree st).value.2).value.1 =
        .ok intricateTree := by
  intro st
  have stored : (publish Store.api standardObserver.space intricateTree st).value.1 = .ok () :=
    publish_store (fault?_publishStandard _) st
  have found := restore_of_publish Store.obeys.serves addressed_standard
    (everywhere_intricateTree.imp fun _ h => h.1) (everywhere_intricateTree.imp fun _ h => h.2)
    (by decide) stored Store.api fun st => st
  generalize (publish Store.api standardObserver.space intricateTree st).value.2 = later at found ⊢
  exact found later rfl (Store.tells _ later)

end Example

/-! ### What is found again -/

/-- What is found again could be asked for. -/
theorem fault?_of_restore (h : (restore api space s).value.1 = .ok tree) :
    (Request.readMap ⟨space, publishedName⟩).fault? = none := by
  cases hfault : (Request.readMap ⟨space, publishedName⟩).fault? with
  | none => rfl
  | some fault =>
    simp only [restore_value, Exchange.readMap, Exchange.ask, hfault, Exchange.bind_apply,
      Exchange.pure_apply] at h
    cases h

theorem parsed_of_treeOfText {text : Option String} (h : treeOfText text = .ok tree) :
    tree = Json.empty ∨ ∃ s, Json.parse s = .ok tree := by
  cases text with
  | none =>
    cases h
    exact .inl rfl
  | some s =>
    rw [treeOfText] at h
    cases hparse : Json.parse s with
    | ok found =>
      rw [hparse] at h
      cases h
      exact .inr ⟨s, hparse⟩
    | error fault =>
      rw [hparse] at h
      cases h

/-- What is found again was read from a text, or is the empty tree. -/
theorem parsed_of_restore (h : (restore api space s).value.1 = .ok tree) :
    tree = Json.empty ∨ ∃ text, Json.parse text = .ok tree := by
  rw [restore_value] at h
  split at h
  · cases h
  · cases h
    exact .inl rfl
  · exact parsed_of_treeOfText h

theorem isTable_of_restore (h : (restore api space s).value.1 = .ok tree) :
    tree.Everywhere IsTable := by
  rcases parsed_of_restore h with rfl | ⟨text, hparse⟩
  · exact .empty grows_isTable
  · exact isTable_of_parseWithin hparse

theorem depth_le_of_restore (h : (restore api space s).value.1 = .ok tree) :
    tree.depth ≤ maxDepth := by
  rcases parsed_of_restore h with rfl | ⟨text, hparse⟩
  · decide
  · exact depth_le_of_parseWithin hparse

/-- The text of a tree that was published is read unless the tree nests too deep. -/
theorem exists_treeOfText_iff (tables : tree.Everywhere IsTable)
    (numbers : tree.Everywhere (IfNumber Number.ReadsBack)) :
    (∃ t, treeOfText (some tree.text) = .ok t) ↔ tree.depth ≤ maxDepth := by
  rw [← exists_parseWithin_text_iff tables numbers, treeOfText, Json.parse]
  cases parseWithin maxDepth tree.text with
  | ok found => exact iff_of_true ⟨found, rfl⟩ ⟨found, rfl⟩
  | error fault =>
    refine iff_of_false ?_ ?_
    · rintro ⟨_, h⟩
      cases h
    · rintro ⟨_, h⟩
      cases h

end Operator

end CloudFlags
