import CloudFlags.Proofs.Persistence

/-! What is relied on of a server of config maps, of which anything else may be expected: a request
is carried out or has no effect, and one to write that is acknowledged has been carried out
(`Serves`). Its answers may be lost, or be any others. What no request of a pass addresses, the pass
leaves alone, and what a pass publishes stands where it was to be published. -/

namespace CloudFlags

open Api Json Resource

namespace Api

/-- The request leaves the config map at a location alone. -/
def Request.Spares (l : Location) : Request → Prop
  | .removeMap location => addressed? location ≠ some l
  | .applyMap location _ => addressed? location ≠ some l
  | _ => True

namespace Store

variable {store : Store} {l : Location}

theorem find?_answer_of_spares {request : Request} (h : request.Spares l) :
    (answer request store).2.find? l = store.find? l := by
  cases request with
  | readMap location =>
    rw [answer]
    split <;> rfl
  | removeMap location =>
    rw [answer]
    split
    · next kept m hreach =>
      have hne : l ≠ kept := by
        rintro rfl
        exact h (addressed_of_reach? hreach)
      exact Table.find?_erase_of_ne hne _
    · rfl
  | applyMap location contents =>
    rw [answer]
    cases haddressed : Request.addressed? location with
    | none => rfl
    | some kept =>
      have hne : l ≠ kept := by
        rintro rfl
        exact h haddressed
      exact Table.find?_insert_of_ne hne _ _
  | applyFlowControl object => rfl
  | createEvent event => rfl

/-- The path for a location leads to what is kept there. -/
theorem reach?_of_addressed {location : Location} (h : Request.addressed? location = some l) :
    store.reach? location = (store.find? l).map (l, ·) := by
  rw [reach?, h, Option.bind_eq_bind, Option.bind_some]
  cases store.find? l <;> rfl

theorem find?_applyMap (location : Location) (contents : Contents) :
    (answer (.applyMap location contents) store).2.find? l =
      if Request.addressed? location = some l then some (.ofContents contents)
      else store.find? l := by
  split
  · next h =>
    rw [answer, h]
    exact Table.find?_insert_self ..
  · next h => exact find?_answer_of_spares h

theorem find?_removeMap (location : Location) :
    (answer (.removeMap location) store).2.find? l =
      if Request.addressed? location = some l then none else store.find? l := by
  split
  · next h =>
    rw [answer, reach?_of_addressed h]
    cases hfound : store.find? l with
    | none => exact hfound
    | some m => exact Table.find?_erase_self ..
  · next h => exact find?_answer_of_spares h

/-! What is read of a config map depends on that config map alone. -/

theorem reach?_congr {store' : Store}
    (h : ∀ kept, Request.addressed? l = some kept → store.find? kept = store'.find? kept) :
    store.reach? l = store'.reach? l := by
  rw [reach?, reach?]
  cases haddressed : Request.addressed? l with
  | none => rfl
  | some kept =>
    simp only [Option.bind_eq_bind, Option.bind_some, h kept haddressed]

theorem readMap_congr {store' : Store} (h : store.reach? l = store'.reach? l) :
    (Exchange.readMap api l store).value.1 = (Exchange.readMap api l store').value.1 := by
  have hanswer : (answer (.readMap l) store).1 = (answer (.readMap l) store').1 := by
    rw [answer, answer, h]
    split <;> rfl
  simp only [Exchange.readMap, Exchange.ask, Exchange.bind_apply]
  cases (Request.readMap l).fault? with
  | some fault => rfl
  | none =>
    simp only [Exchange.send, Exchange.bind_apply, Exchange.pure_apply, api, hanswer]
    cases Reply.read ConfigMap.shape (answer (.readMap l) store').1 <;> rfl

end Store

end Api

variable {σ : Type}

/-- The server does nothing but what it is asked, though it need not do it, and acknowledges only
what it has done. -/
structure Serves (api : Api σ) (store : σ → Store) : Prop where
  effect (request : Request) (s : σ) :
    store (api.answer request s).2 = store s ∨
      store (api.answer request s).2 = (Store.answer request (store s)).2
  acknowledged (location : Location) (contents : Contents) (s : σ) :
    let answer := api.answer (.applyMap location contents) s
    answer.1.read (ConfigMap.shape.map fun _ => ()) = .ok () →
      store answer.2 = (Store.answer (.applyMap location contents) (store s)).2

/-- A store whose answers can be lost serves. -/
theorem Scenario.LossyServer.serves : Serves LossyServer.api LossyServer.store where
  effect _ _ := .inr rfl
  acknowledged _ _ _ _ := rfl

/-- The request, if it is one, leaves the config map at a location alone. -/
def Entry.Spares (l : Location) : Entry → Prop
  | .sent request _ => request.Spares l
  | _ => True

namespace Serves

variable {api : Api σ} {store : σ → Store} {l : Location}

/-- What no request addresses stays as it is. -/
theorem find?_of_spares {α : Type} (serves : Serves api store) {work : Exchange σ α}
    (h : Exchange.Confined api (Entry.Spares l) work) (s : σ) :
    (store (work s).value.2).find? l = (store s).find? l := by
  let held : σ → Option StoredMap := fun s => (store s).find? l
  have leaves : ∀ request reply s, Entry.Spares l (.sent request reply) →
      held (api.answer request s).2 = held s := by
    intro request reply s hspares
    rcases serves.effect request s with heq | heq
    · exact congrArg (·.find? l) heq
    · exact (congrArg (·.find? l) heq).trans (Store.find?_answer_of_spares hspares)
  exact h.preserves leaves s

end Serves

/-- Rules that make the operand's copy only never write where the tree is published. -/
theorem Observer.copying_ne_published {o : Observer} {rules : SyncRules}
    (copies : o.CopiesOnly rules) :
    ∀ rule ∈ rules.toList,
      Request.addressed? rule.destination ≠ some ⟨o.space, Operator.publishedName⟩ := by
  intro rule hrule
  rw [copies rule hrule]
  exact o.addressed_copy_ne_published

namespace Operator

open Exchange

variable {api : Api σ} {store : σ → Store} {o : Observer} {x : Occasion σ} {l : Location}

/-! ### What a pass addresses -/

theorem publishChange_spares {space : String}
    (h : Request.addressed? ⟨space, publishedName⟩ ≠ some l) (old new : Json) :
    Confined api (Entry.Spares l) (publishChange api space old new) := by
  refine (publishChange_confined space old new).imp fun entry hentry => ?_
  cases entry with
  | sent request reply =>
    cases request with
    | applyMap location contents =>
      cases hentry
      exact h
    | _ => exact hentry.elim
  | _ => trivial

theorem reconcile_spares {rules : SyncRules}
    (h : ∀ rule ∈ rules.toList, Request.addressed? rule.destination ≠ some l) :
    Confined api (Entry.Spares l) (reconcile api rules) := by
  refine (reconcile_confined rules).imp fun entry hentry => ?_
  match entry with
  | .sent (.removeMap location) _ =>
    obtain ⟨rule, hrule, rfl⟩ := hentry
    exact h rule hrule
  | .sent (.applyMap location _) _ =>
    obtain ⟨rule, hrule, rfl⟩ := hentry
    exact h rule hrule
  | .sent (.readMap _) _ => exact trivial
  | .sent (.applyFlowControl _) _ => exact trivial
  | .sent (.createEvent _) _ => exact trivial
  | .logged _ => exact trivial
  | .counted _ => exact trivial
  | .recorded _ => exact trivial

/-! ### What a pass leaves -/

namespace Occasion

/-- Carrying out the rules leaves alone what is no destination. -/
theorem find?_after_eq_publication (serves : Serves api store)
    (copying : ∀ rule ∈ (x.remembered o).rules.toList, Request.addressed? rule.destination ≠ some l) :
    (store (x.after o api).server).find? l = (store (x.publication o api).value.2).find? l := by
  by_cases h : x.Publishes o api
  · rw [after_of_publishes h]
    exact serves.find?_of_spares (reconcile_spares copying) _
  · rw [after_of_not_publishes h]

/-- The pass leaves alone what is neither a destination nor where it publishes. -/
theorem find?_after (serves : Serves api store)
    (publishing : Request.addressed? ⟨o.space, publishedName⟩ ≠ some l)
    (copying : ∀ rule ∈ (x.remembered o).rules.toList, Request.addressed? rule.destination ≠ some l) :
    (store (x.after o api).server).find? l = (store x.server).find? l := by
  rw [find?_after_eq_publication serves copying]
  exact serves.find?_of_spares (publishChange_spares publishing _ _) _

/-- What is published and acknowledged has been carried out. -/
theorem store_publication (serves : Serves api store) (h : x.Renews o api) :
    store (x.publication o api).value.2 = (Store.answer (x.request o) (store x.server)).2 := by
  obtain ⟨hp, hne⟩ := h
  obtain ⟨hsendable, hread⟩ := (publishes_iff_of_ne hne).1 hp
  rw [publication_of_sent hne hsendable]
  exact serves.acknowledged _ _ _ hread

/-- What stands where the tree is published, once the pass has published it. -/
def publishedAfter (o : Observer) (x : Occasion σ) (st : Store) : Option StoredMap :=
  if x.target o ≠ x.memory.tree ∧
      Request.addressed? ⟨o.space, publishedName⟩ = some ⟨o.space, publishedName⟩ then
    some (.ofContents (publishedContents (x.target o)))
  else st.find? ⟨o.space, publishedName⟩

theorem find?_published_after (serves : Serves api store) (copies : o.CopiesOnly x.memory.rules)
    (h : x.Publishes o api) :
    (store (x.after o api).server).find? ⟨o.space, publishedName⟩ =
      x.publishedAfter o (store x.server) := by
  rw [find?_after_eq_publication serves
    (Observer.copying_ne_published (copiesOnly_remembered copies)), publishedAfter]
  by_cases heq : x.target o = x.memory.tree
  · rw [publication_of_target_eq heq, if_neg fun h => h.1 heq]
  · rw [store_publication serves ⟨h, heq⟩, request, Store.find?_applyMap]
    simp only [ne_eq, heq, not_false_eq_true, true_and]

end Occasion

end Operator

end CloudFlags
