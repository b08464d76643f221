import CloudFlags.Proofs.Handling
import CloudFlags.Proofs.Serving

/-! What is relied on of a server that does everything it is asked. A request has the effect that it
has on a store of config maps; reading one tells what it holds, that it cannot be read, or that there
is none; and what is written or removed is acknowledged (`Obeys`). How such a server words its
answers is its own affair. -/

namespace CloudFlags

open Api Json Resource

namespace Api

/-! ### What config maps hold -/

/-- What a config map that is kept at a location holds, if it can be read. -/
def StoredMap.contents? (m : StoredMap) (l : Location) : Option Contents :=
  (ConfigMap.shape.ofTree (m.toJson l)).toOption.map ConfigMap.contents

/-- What the config map at a location holds, if there is one and it can be read. -/
def Store.contents? (st : Store) (l : Location) : Option Contents :=
  (st.find? l).bind (·.contents? l)

namespace StoredMap

variable {m : StoredMap} {l : Location} {c : Contents}

theorem exists_of_contents? (h : m.contents? l = some c) :
    ∃ map, ConfigMap.shape.ofTree (m.toJson l) = .ok map ∧ map.contents = c := by
  rw [contents?] at h
  cases hread : ConfigMap.shape.ofTree (m.toJson l) with
  | error mismatch =>
    rw [hread] at h
    cases h
  | ok map =>
    rw [hread] at h
    cases h
    exact ⟨map, rfl, rfl⟩

theorem exists_of_contents?_eq_none (h : m.contents? l = none) :
    ∃ mismatch, ConfigMap.shape.ofTree (m.toJson l) = .error mismatch := by
  rw [contents?] at h
  cases hread : ConfigMap.shape.ofTree (m.toJson l) with
  | error mismatch => exact ⟨mismatch, rfl⟩
  | ok map =>
    rw [hread] at h
    cases h

theorem encoded_of_contents? (h : m.contents? l = some c) : c.Encoded := by
  obtain ⟨map, hread, rfl⟩ := exists_of_contents? h
  exact ConfigMap.encoded_contents hread

/-- What was applied is what the config map holds. -/
theorem contents?_ofContents (h : c.Encoded) (l : Location) :
    (ofContents c).contents? l = some c := by
  rw [contents?, toJson_ofContents, h.ofTree_mapBody]
  rfl

end StoredMap

/-! ### What is told of them -/

/-- What there is to tell where the path for a location leads to: nothing, or of a config map what it
holds, if it can be read. -/
def Store.told? (st : Store) (l : Location) : Option (Option Contents) :=
  (st.reach? l).map fun found => found.2.contents? found.1

/-- The answer to reading a config map tells so. -/
def Reply.Tells (reply : Reply) : Option (Option Contents) → Prop
  | none => ∃ failure, reply.read ConfigMap.shape = .error failure ∧ failure.isAbsence = true
  | some none => ∃ failure, reply.read ConfigMap.shape = .error failure ∧ failure.isAbsence = false
  | some (some contents) => ∃ map, reply.read ConfigMap.shape = .ok map ∧ map.contents = contents

namespace Store

variable {st st' : Store} {l kept : Location}

theorem told?_of_addressed (h : Request.addressed? l = some kept) :
    st.told? l = (st.find? kept).map (·.contents? kept) := by
  rw [told?, reach?_of_addressed h, Option.map_map]
  rfl

theorem told?_of_unaddressed (h : Request.addressed? l = none) : st.told? l = none := by
  rw [told?, reach?, h]
  rfl

theorem told?_congr
    (h : ∀ kept, Request.addressed? l = some kept → st.find? kept = st'.find? kept) :
    st.told? l = st'.told? l := by
  rw [told?, told?, reach?_congr h]

theorem encoded_of_told? {c : Contents} (h : st.told? l = some (some c)) : c.Encoded := by
  obtain ⟨found, -, hcontents⟩ := Option.map_eq_some_iff.1 h
  exact StoredMap.encoded_of_contents? hcontents

theorem answer_readMap_store (l : Location) (st : Store) :
    (answer (.readMap l) st).2 = st := by
  rw [answer]
  split <;> rfl

end Store

theorem Reply.read_tree_of_error {α : Type} {shape : Shape α} {tree : Json} {mismatch : Mismatch}
    (h : shape.ofTree tree = .error mismatch) :
    ∃ misreading, (Reply.answered 200 (.tree tree)).read shape =
      .error (.unreadable misreading) := by
  simp only [read, Body.read, h]
  cases shape.ofWholeText (Body.tree tree).text.toList <;> exact ⟨_, rfl⟩

theorem read_missing (location : Location) :
    ∃ failure : Failure, (missing location).read ConfigMap.shape = .error failure ∧
      failure.isAbsence = true := by
  have hrefused := read_refusal "NotFound" ("configmaps " ++ Text.quote location.name ++ " not found")
  -- how a refusal is read does not depend on what was asked for
  exact ⟨_, congrArg Except.error (Except.error.inj hrefused), rfl⟩

/-- A store tells what it keeps. -/
theorem Store.tells (l : Location) (st : Store) : (answer (.readMap l) st).1.Tells (st.told? l) := by
  rw [answer, told?]
  cases st.reach? l with
  | none => exact read_missing l
  | some found =>
    obtain ⟨kept, m⟩ := found
    simp only [Option.map_some]
    cases hcontents : m.contents? kept with
    | none =>
      obtain ⟨mismatch, hread⟩ := StoredMap.exists_of_contents?_eq_none hcontents
      obtain ⟨misreading, hreply⟩ := Reply.read_tree_of_error hread
      exact ⟨_, hreply, rfl⟩
    | some contents =>
      obtain ⟨map, hread, rfl⟩ := StoredMap.exists_of_contents? hcontents
      exact ⟨map, Reply.read_tree hread, rfl⟩

end Api

/-! ### Servers that obey -/

/-- The server does what it is asked, and says so. -/
structure Obeys {σ : Type} (api : Api σ) (store : σ → Store) : Prop where
  effect (request : Request) (s : σ) :
    store (api.answer request s).2 = (Store.answer request (store s)).2
  tells (location : Location) (s : σ) :
    (api.answer (.readMap location) s).1.Tells ((store s).told? location)
  removed (location : Location) (s : σ) :
    (api.answer (.removeMap location) s).1.Acknowledges (.removeMap location)
  applied {contents : Contents} (encoded : contents.Encoded) (location : Location) (s : σ) :
    (api.answer (.applyMap location contents) s).1.Acknowledges (.applyMap location contents)

/-- A store obeys. -/
theorem Api.Store.obeys : Obeys Store.api (fun st => st) where
  effect _ _ := rfl
  tells location st := tells location st
  removed location st := by
    show (answer (.removeMap location) st).1.Acknowledges (.removeMap location)
    rw [answer]
    split
    · exact .inl read_removed
    · exact .inr ⟨_, read_refusal _ _, rfl⟩
  applied encoded location _ := encoded.read_mapBody location

namespace Obeys

open Operator

variable {σ : Type} {api : Api σ} {store : σ → Store} {l : Location}

theorem serves (obeys : Obeys api store) : Serves api store where
  effect request s := .inr (obeys.effect request s)
  acknowledged location contents s _ := obeys.effect (.applyMap location contents) s

/-- A tree is published if it can be sent. -/
theorem publishes_iff (obeys : Obeys api store) {o : Observer} {x : Occasion σ}
    (hne : x.target o ≠ x.memory.tree) : x.Publishes o api ↔ (x.request o).fault? = none := by
  rw [Occasion.publishes_iff_of_ne hne]
  exact and_iff_left (obeys.applied (encoded_publishedContents _) _ _)

end Obeys

/-! ### Reading -/

namespace Exchange

variable {σ : Type} {api : Api σ} {l : Location} {s : σ}

theorem readMap_of_sendable (sendable : (Request.readMap l).fault? = none) :
    (readMap api l s).value.1 =
      match (api.answer (.readMap l) s).1.read ConfigMap.shape with
      | .ok map => .ok (some map)
      | .error failure => if failure.isAbsence then .ok none else .error failure := by
  simp only [readMap, bind_apply, ask_of_sendable sendable]
  cases (api.answer (.readMap l) s).1.read ConfigMap.shape <;> rfl

variable (sendable : (Request.readMap l).fault? = none)
include sendable

theorem readMap_of_tells_none (h : (api.answer (.readMap l) s).1.Tells none) :
    (readMap api l s).value.1 = .ok none := by
  obtain ⟨failure, hread, habsence⟩ := h
  simp only [readMap_of_sendable sendable, hread, habsence, ↓reduceIte]

theorem readMap_of_tells_unreadable (h : (api.answer (.readMap l) s).1.Tells (some none)) :
    ∃ failure, (readMap api l s).value.1 = .error failure := by
  obtain ⟨failure, hread, habsence⟩ := h
  refine ⟨failure, ?_⟩
  simp only [readMap_of_sendable sendable, hread, habsence, Bool.false_eq_true, ↓reduceIte]

theorem readMap_of_tells {contents : Contents}
    (h : (api.answer (.readMap l) s).1.Tells (some (some contents))) :
    ∃ map, (readMap api l s).value.1 = .ok (some map) ∧ map.contents = contents := by
  obtain ⟨map, hread, hcontents⟩ := h
  refine ⟨map, ?_, hcontents⟩
  rw [readMap_of_sendable sendable, hread]

end Exchange

end CloudFlags
