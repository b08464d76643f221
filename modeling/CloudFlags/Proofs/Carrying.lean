import CloudFlags.Proofs.Obeying

/-! Carrying out rules on a server that does everything it is asked. What is read of a source decides
how carrying out the rule ends and what the destination holds afterwards, whatever it held before
(`exists_carryOut`). Rules that make the operand's copy only are at most one rule, so this
says what becomes of the copy when all rules are carried out. -/

namespace CloudFlags

open Api Json Resource

/-- What is to be asked for a rule by what its source holds, if anything. -/
def SyncRule.request (rule : SyncRule) : Option Contents → Request
  | some contents => .applyMap rule.destination contents
  | none => .removeMap rule.destination

/-- What the request makes of the config maps. -/
theorem SyncRule.find?_request {rule : SyncRule} {l : Location} (found : Option Contents)
    (st : Store) :
    (Store.answer (rule.request found) st).2.find? l =
      if Request.addressed? rule.destination = some l then found.map StoredMap.ofContents
      else st.find? l := by
  cases found with
  | none => exact Store.find?_removeMap rule.destination
  | some contents => exact Store.find?_applyMap rule.destination contents

namespace Operator

open Exchange

variable {σ : Type} {api : Api σ} {store : σ → Store} {rule : SyncRule} {l : Location}
  {contents : Contents}

/-! ### What is asked for a rule -/

theorem removeCopy_server (h : (Request.removeMap l).fault? = none) (s : σ) :
    (removeCopy api l s).value.2 = (api.answer (.removeMap l) s).2 := by
  simp only [removeCopy, removeMap, ask_of_sendable h, bind_apply]
  cases (api.answer (.removeMap l) s).1.read Status.removalShape with
  | ok _ => rfl
  | error failure => cases hgone : failure.isGone <;> simp only [hgone] <;> rfl

theorem writeCopy_server (h : (Request.applyMap rule.destination contents).fault? = none) (s : σ) :
    (writeCopy api rule contents s).value.2 =
      (api.answer (.applyMap rule.destination contents) s).2 := by
  simp only [writeCopy, applyMap, ask_of_sendable h, bind_apply]
  cases (api.answer (.applyMap rule.destination contents) s).1.read _ <;> rfl

/-- Reading a source changes nothing. -/
theorem store_readSource (obeys : Obeys api store) (source : Location) (s : σ) :
    store (readSource api source s).value.2 = store s := by
  by_cases hnowhere : source = .nowhere
  · rw [readSource_of_nowhere hnowhere]
    rfl
  cases h : (Request.readMap source).fault? with
  | some fault => rw [readSource_of_fault hnowhere h]
  | none =>
    rw [readSource_of_sendable hnowhere h rfl]
    exact (obeys.effect _ s).trans (Store.answer_readMap_store source (store s))

/-- What is read of a source has its bytes in base 64. -/
theorem encoded_of_readSource (obeys : Obeys api store) {source : Location} {map : ConfigMap} {s : σ}
    (h : (readSource api source s).value.1 = .ok (some map)) : map.contents.Encoded := by
  rw [readSource] at h
  split at h
  · cases h
  cases hfault : (Request.readMap source).fault? with
  | some fault =>
    simp only [readMap, bind_apply, ask_of_fault hfault] at h
    cases h
  | none =>
    have tells := obeys.tells source s
    cases htold : (store s).told? source with
    | none =>
      rw [htold] at tells
      cases h.symm.trans (readMap_of_tells_none hfault tells)
    | some held =>
      rw [htold] at tells
      cases held with
      | none =>
        obtain ⟨failure, hread⟩ := readMap_of_tells_unreadable hfault tells
        cases h.symm.trans hread
      | some contents =>
        obtain ⟨found, hread, hcontents⟩ := readMap_of_tells hfault tells
        cases h.symm.trans hread
        rw [hcontents]
        exact Store.encoded_of_told? htold

/-- Of a store no more is read than the config map that the path for the source leads to. -/
theorem readSource_congr {source : Location} {st st' : Store}
    (h : source = .nowhere ∨
      ∀ l, Request.addressed? source = some l → st.find? l = st'.find? l) :
    (readSource Store.api source st).value.1 = (readSource Store.api source st').value.1 := by
  rw [readSource]
  split
  · rfl
  · next hsomewhere =>
    have hfind := h.resolve_left (by rintro rfl; exact hsomewhere rfl)
    exact Store.readMap_congr (Store.reach?_congr hfind)

theorem carryOut_value (rule : SyncRule) (s : σ) :
    (carryOut api rule s).value =
      match (readSource api rule.source s).value with
      | (.error failure, s) => (.error (.api failure), s)
      | (.ok none, s) => (removeCopy api rule.destination s).value
      | (.ok (some map), s) => (writeCopy api rule map.contents s).value := by
  rw [carryOut, bind_apply]
  obtain ⟨result, server⟩ := (readSource api rule.source s).value
  cases result with
  | error failure => rfl
  | ok found => cases found <;> rfl

/-- Carrying out a rule comes to its one request. -/
theorem carryOut_of_read (obeys : Obeys api store) {found : Option ConfigMap} {s : σ}
    (hread : (readSource api rule.source s).value.1 = .ok found)
    (sendable : (rule.request (found.map ConfigMap.contents)).fault? = none) :
    (carryOut api rule s).value.1 = .ok () ∧
      store (carryOut api rule s).value.2 =
        (Store.answer (rule.request (found.map ConfigMap.contents)) (store s)).2 := by
  have hstore := store_readSource obeys rule.source s
  have hencoded : ∀ map ∈ found, map.contents.Encoded := by
    rintro map rfl
    exact encoded_of_readSource obeys hread
  rw [carryOut_value]
  generalize (readSource api rule.source s).value = read at hread hstore
  obtain ⟨_, next⟩ := read
  cases hread
  rw [← hstore]
  cases found with
  | none =>
    refine ⟨(removeCopy_ok_iff _ next).2 ?_, ?_⟩
    · exact (exists_acknowledged_iff sendable next).2 (obeys.removed _ next)
    · exact (congrArg store (removeCopy_server sendable next)).trans (obeys.effect _ next)
  | some map =>
    refine ⟨(writeCopy_ok_iff _ next).2 ?_, ?_⟩
    · have applied := obeys.applied (hencoded map rfl) rule.destination next
      exact (exists_acknowledged_iff sendable next).2 applied
    · exact (congrArg store (writeCopy_server sendable next)).trans (obeys.effect _ next)

/-- A rule that is carried out had a source that could be read, and its request could be sent. -/
theorem exists_read_of_carryOut {s : σ} (h : (carryOut api rule s).value.1 = .ok ()) :
    ∃ found, (readSource api rule.source s).value.1 = .ok found ∧
      (rule.request (found.map ConfigMap.contents)).fault? = none := by
  rw [carryOut_value] at h
  generalize (readSource api rule.source s).value = read at h
  obtain ⟨result, next⟩ := read
  match result with
  | .error failure => cases h
  | .ok none =>
    refine ⟨none, rfl, ?_⟩
    show (Request.removeMap rule.destination).fault? = none
    cases hfault : (Request.removeMap rule.destination).fault? with
    | none => rfl
    | some fault =>
      simp only [removeCopy_of_fault hfault] at h
      cases h
  | .ok (some map) =>
    refine ⟨some map, rfl, ?_⟩
    show (Request.applyMap rule.destination map.contents).fault? = none
    cases hfault : (Request.applyMap rule.destination map.contents).fault? with
    | none => rfl
    | some fault =>
      simp only [writeCopy_of_fault hfault] at h
      cases h

/-- What is read of the source decides how carrying out a rule ends, and what the destination then
holds. -/
theorem exists_carryOut (obeys : Obeys api store) {s : σ}
    (h : (carryOut api rule s).value.1 = .ok ()) :
    ∃ copied : Option StoredMap, ∀ s' : σ,
      (readSource api rule.source s').value.1 = (readSource api rule.source s).value.1 →
        (carryOut api rule s').value.1 = .ok () ∧
          ∀ l, (store (carryOut api rule s').value.2).find? l =
            if Request.addressed? rule.destination = some l then copied
            else (store s').find? l := by
  obtain ⟨found, hread, sendable⟩ := exists_read_of_carryOut h
  refine ⟨(found.map ConfigMap.contents).map .ofContents, fun s' hsame => ?_⟩
  obtain ⟨hok, hstore⟩ := carryOut_of_read obeys (hsame.trans hread) sendable
  refine ⟨hok, fun l => ?_⟩
  rw [hstore]
  exact SyncRule.find?_request _ _

/-! ### All rules -/

variable {rules : SyncRules}

theorem reconcile_of_nil (h : rules.toList = []) (s : σ) :
    (reconcile api rules s).value = (.ok (), s) := by
  rw [reconcile, h]
  rfl

/-- Counting a rule changes neither its result nor the server. -/
theorem reconcile_of_singleton (h : rules.toList = [rule]) (s : σ) :
    (reconcile api rules s).value = (carryOut api rule s).value := by
  rw [reconcile, h]
  simp only [carryOutAll, bind_apply]
  cases hresult : (carryOut api rule s).value with
  | mk result after =>
    cases result <;> rfl

end Operator

/-- Rules for one destination are at most one rule. -/
theorem Observer.CopiesOnly.toList_eq {o : Observer} {rules : SyncRules} (h : o.CopiesOnly rules) :
    rules.toList = [] ∨ ∃ source, rules.toList = [⟨o.copyLocation, source⟩] := by
  obtain ⟨entries, sorted⟩ := rules
  match entries with
  | [] => exact .inl rfl
  | [(destination, source)] =>
    have hdestination : destination = o.copyLocation := h _ List.mem_cons_self
    cases hdestination
    exact .inr ⟨source, rfl⟩
  | (first, _) :: (second, _) :: rest =>
    have hfirst : first = o.copyLocation := h _ List.mem_cons_self
    have hsecond : second = o.copyLocation := h _ (List.mem_cons_of_mem _ List.mem_cons_self)
    have hlt : first < second := List.rel_of_pairwise_cons sorted List.mem_cons_self
    rw [hfirst, hsecond] at hlt
    exact absurd hlt (KeyOrder.lt_irrefl _)

end CloudFlags
