import CloudFlags.Proofs.Addressing
import CloudFlags.Proofs.Confinement
import CloudFlags.Proofs.Outage

/-! What is relied on of a server that keeps the published text. Reading changes nothing, and
neither does writing or removing the operand's copy; a publication that fails for the operator may
still have been carried out, but one that is acknowledged has been (`Keeps`). A store of config maps
is such a server, also if its answers are lost. -/

namespace CloudFlags

open Api Json Resource

namespace Operator

variable {σ : Type} {api : Api σ} {space : String} {kept : σ → Option String}

/-- The server keeps the text that is published from a namespace. -/
structure Keeps (api : Api σ) (space : String) (kept : σ → Option String) : Prop where
  reading (location : Location) (s : σ) :
    kept (api.answer (.readMap location) s).2 = kept s
  removingCopy (s : σ) :
    kept (api.answer (.removeMap ⟨space, Observer.copyName⟩) s).2 = kept s
  writingCopy (contents : Contents) (s : σ) :
    kept (api.answer (.applyMap ⟨space, Observer.copyName⟩ contents) s).2 = kept s
  publishing (contents : Contents) (s : σ) :
    let after := (api.answer (.applyMap ⟨space, publishedName⟩ contents) s).2
    kept after = kept s ∨ kept after = publishedText contents
  acknowledging (contents : Contents) (s : σ) :
    let answer := api.answer (.applyMap ⟨space, publishedName⟩ contents) s
    answer.1.read (ConfigMap.shape.map fun _ => ()) = .ok () →
      kept answer.2 = publishedText contents

/-- Carrying out rules leaves the published text alone, if they make the operand's copy only. -/
theorem Keeps.reconcile (keeps : Keeps api space kept) {rules : SyncRules}
    (copies : ∀ rule ∈ rules.toList, rule.destination = ⟨space, Observer.copyName⟩) (s : σ) :
    kept (reconcile api rules s).value.2 = kept s := by
  refine (reconcile_confined rules).preserves (fun request reply s h => ?_) s
  cases request with
  | readMap location => exact keeps.reading location s
  | removeMap location =>
    obtain ⟨rule, hrule, rfl⟩ := h
    rw [copies rule hrule]
    exact keeps.removingCopy s
  | applyMap location contents =>
    obtain ⟨rule, hrule, rfl⟩ := h
    rw [copies rule hrule]
    exact keeps.writingCopy contents s
  | applyFlowControl object => exact h.elim
  | createEvent event => exact h.elim

end Operator

/-! ### Stores -/

open Operator

theorem Json.member?_ofTable (table : Table String String) (key : String) :
    (ofTable table).member? key = (table.find? key).map Json.str := by
  show Entries.find? key (table.entries.map fun entry => (entry.1, Json.str entry.2)) =
    (Entries.find? key table.entries).map Json.str
  induction table.entries with
  | nil => rfl
  | cons entry rest ih =>
    simp only [List.map_cons, Entries.find?, ih]
    split <;> rfl

namespace Api

/-- The text under the key for publishing, in a config map as it is kept. -/
def StoredMap.publishedText (m : StoredMap) : Option String :=
  m.data.bind fun data => (data.member? publishedKey).bind Json.str?

theorem StoredMap.publishedText_ofContents (contents : Contents) :
    (ofContents contents).publishedText = Operator.publishedText contents := by
  obtain ⟨data, binaryData⟩ := contents
  cases data with
  | none => rfl
  | some table =>
    show ((ofTable table).member? publishedKey).bind Json.str? = table.find? publishedKey
    rw [member?_ofTable]
    cases table.find? publishedKey <;> rfl

namespace Store

/-- The text that is published from a namespace. -/
def publishedText (space : String) (store : Store) : Option String :=
  (store.find? ⟨space, publishedName⟩).bind StoredMap.publishedText

theorem addressed_of_reach? {store : Store} {location kept : Location} {m : StoredMap}
    (h : store.reach? location = some (kept, m)) : Request.addressed? location = some kept := by
  obtain ⟨kept', haddressed, h⟩ := Option.bind_eq_some_iff.1 h
  obtain ⟨m', -, h⟩ := Option.bind_eq_some_iff.1 h
  cases h
  exact haddressed

variable {space : String}

theorem publishedText_applyMap
    (addressed : Request.addressed? ⟨space, publishedName⟩ = some ⟨space, publishedName⟩)
    (contents : Contents) (store : Store) :
    (answer (.applyMap ⟨space, publishedName⟩ contents) store).2.publishedText space =
      Operator.publishedText contents := by
  simp only [answer, addressed, publishedText, Table.find?_insert_self, Option.bind_some]
  exact StoredMap.publishedText_ofContents contents

/-- A store keeps what is published from a namespace if the path for it leads there. -/
theorem keeps
    (addressed : Request.addressed? ⟨space, publishedName⟩ = some ⟨space, publishedName⟩) :
    Keeps api space (publishedText space) := by
  constructor
  case reading =>
    intro location store
    simp only [api, answer]
    split <;> rfl
  case removingCopy =>
    intro store
    simp only [api, answer]
    cases h : store.reach? ⟨space, Observer.copyName⟩ with
    | none => rfl
    | some reached =>
      have hne := Observer.ne_of_addressed_copy (addressed_of_reach? h)
      simp only [publishedText, Table.find?_erase_of_ne hne]
  case writingCopy =>
    intro contents store
    simp only [api, answer, publishedText]
    cases h : Request.addressed? ⟨space, Observer.copyName⟩ with
    | none => rfl
    | some kept => rw [Table.find?_insert_of_ne (Observer.ne_of_addressed_copy h)]
  case publishing =>
    intro contents store
    exact .inr (publishedText_applyMap addressed contents store)
  case acknowledging =>
    intro contents store answer _
    exact publishedText_applyMap addressed contents store

end Store

end Api

namespace Scenario.LossyServer

theorem store_answer (request : Request) (server : LossyServer) :
    (api.answer request server).2.store = (Store.api.answer request server.store).2 := rfl

/-- So does one whose answers can be lost. -/
theorem keeps {space : String} {kept : Store → Option String} (h : Keeps Store.api space kept) :
    Keeps api space fun server => kept server.store := by
  constructor
  case reading =>
    intro location server
    rw [store_answer, h.reading]
  case removingCopy =>
    intro server
    rw [store_answer, h.removingCopy]
  case writingCopy =>
    intro contents server
    rw [store_answer, h.writingCopy]
  case publishing =>
    intro contents server after
    exact h.publishing contents server.store
  case acknowledging =>
    intro contents server answer hread
    refine h.acknowledging contents server.store ?_
    simp only [answer, api, LossyServer.answer] at hread
    split at hread
    · cases hread
    · exact hread

end Scenario.LossyServer

end CloudFlags
