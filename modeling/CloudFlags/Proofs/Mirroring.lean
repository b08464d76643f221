import CloudFlags.Proofs.Carrying

/-! Carrying out rules makes every destination a copy of its source, on a server that does
everything it is asked and for rules that do not feed one another: no destination is the source of
another rule, so what one rule writes no other rule reads. Every rule copies what its source held in
the beginning, its own destination perhaps, and so carrying out the rules again changes nothing
(`reconcile_mirrors`). -/

namespace CloudFlags

open Api Json Resource

/-! ### One rule -/

namespace SyncRule

variable {rule : SyncRule} {st st' : Store}

/-- What a rule is to copy. -/
def copied? (rule : SyncRule) (st : Store) : Option Contents :=
  if rule.source = .nowhere then none else st.contents? rule.source

/-- The request by which a rule makes its destination a copy. -/
def writing (rule : SyncRule) (st : Store) : Request := rule.request (rule.copied? st)

/-- Every request for a rule is carried out: it can be sent, its path leads to the config map that
it is made for, and what is kept there can be read. -/
structure IsCarriedOut (rule : SyncRule) (st : Store) : Prop where
  asked : rule.source ≠ .nowhere → (Request.readMap rule.source).fault? = none
  found : rule.source ≠ .nowhere → Request.addressed? rule.source = some rule.source
  readable : rule.source ≠ .nowhere → (st.find? rule.source).isSome →
    (st.contents? rule.source).isSome
  reached : Request.addressed? rule.destination = some rule.destination
  sent : (rule.writing st).fault? = none

instance (rule : SyncRule) (st : Store) : Decidable (rule.IsCarriedOut st) :=
  decidable_of_iff
    ((rule.source ≠ .nowhere → (Request.readMap rule.source).fault? = none) ∧
      (rule.source ≠ .nowhere → Request.addressed? rule.source = some rule.source) ∧
      (rule.source ≠ .nowhere → (st.find? rule.source).isSome →
        (st.contents? rule.source).isSome) ∧
      Request.addressed? rule.destination = some rule.destination ∧
      (rule.writing st).fault? = none)
    ⟨fun h => ⟨h.1, h.2.1, h.2.2.1, h.2.2.2.1, h.2.2.2.2⟩,
      fun h => ⟨h.asked, h.found, h.readable, h.reached, h.sent⟩⟩

/-- The destination is a copy of the source as it was, and the source is as it was. -/
structure Mirrors (rule : SyncRule) (before after : Store) : Prop where
  exists_iff : (after.find? rule.destination).isSome ↔
    rule.source ≠ .nowhere ∧ (before.find? rule.source).isSome
  contents_eq : rule.source ≠ .nowhere → (before.find? rule.source).isSome →
    ∃ contents, before.contents? rule.source = some contents ∧
      after.contents? rule.destination = some contents
  source_eq : rule.source ≠ .nowhere →
    (after.find? rule.source).isSome = (before.find? rule.source).isSome ∧
      after.contents? rule.source = before.contents? rule.source

theorem encoded_of_copied? {contents : Contents} (h : rule.copied? st = some contents) :
    contents.Encoded := by
  rw [copied?] at h
  split at h
  · cases h
  · obtain ⟨m, -, hcontents⟩ := Option.bind_eq_some_iff.1 h
    exact StoredMap.encoded_of_contents? hcontents

/-- What the request of a rule makes of the config maps. -/
theorem find?_writing (h : rule.IsCarriedOut st) (l : Location) :
    (Store.answer (rule.writing st) st).2.find? l =
      if l = rule.destination then (rule.copied? st).map StoredMap.ofContents else st.find? l := by
  have hreached : (Request.addressed? rule.destination = some l) = (l = rule.destination) := by
    rw [h.reached, Option.some.injEq]
    exact propext eq_comm
  rw [writing, find?_request]
  simp only [hreached]

/-- There is something to copy if the source is somewhere and exists. -/
theorem IsCarriedOut.isSome_copied?_iff (h : rule.IsCarriedOut st) :
    (rule.copied? st).isSome ↔ rule.source ≠ .nowhere ∧ (st.find? rule.source).isSome := by
  rw [copied?]
  split
  · next hnowhere => simp only [Option.isSome_none, Bool.false_eq_true, hnowhere, ne_eq,
      not_true_eq_false, false_and]
  · next hsomewhere =>
    rw [ne_eq, and_iff_right hsomewhere]
    refine ⟨fun hsome => ?_, h.readable hsomewhere⟩
    exact Option.isSome_of_isSome_bind hsome

/-- Requests are carried out also from a state in which there is the same to copy. -/
theorem IsCarriedOut.of_copied?_eq (h : rule.IsCarriedOut st)
    (hcopied : rule.copied? st' = rule.copied? st)
    (hreadable : rule.source ≠ .nowhere → (st'.find? rule.source).isSome →
      (st'.contents? rule.source).isSome) : rule.IsCarriedOut st' where
  asked := h.asked
  found := h.found
  readable := hreadable
  reached := h.reached
  sent := by
    rw [writing, hcopied]
    exact h.sent

theorem copied?_congr (h : st'.find? rule.source = st.find? rule.source) :
    rule.copied? st' = rule.copied? st := by
  rw [copied?, copied?, Store.contents?, Store.contents?, h]

theorem IsCarriedOut.of_find?_eq (h : rule.IsCarriedOut st)
    (hfind : st'.find? rule.source = st.find? rule.source) : rule.IsCarriedOut st' := by
  refine h.of_copied?_eq (copied?_congr hfind) ?_
  rw [Store.contents?, hfind]
  exact h.readable

/-- No rule writes what another one reads. -/
def Apart (rules : List SyncRule) : Prop :=
  ∀ rule ∈ rules, ∀ other ∈ rules, other.source = rule.destination → other = rule

instance (rules : List SyncRule) : Decidable (Apart rules) :=
  inferInstanceAs
    (Decidable (∀ rule ∈ rules, ∀ other ∈ rules, other.source = rule.destination → other = rule))

end SyncRule

namespace Operator

open Exchange

variable {σ : Type} {api : Api σ} {store : σ → Store} {rule : SyncRule} {st st' : Store} {s : σ}

/-- Reading the source of a rule gives what it is to copy. -/
theorem exists_readSource (obeys : Obeys api store) (h : rule.IsCarriedOut (store s)) :
    ∃ found, (readSource api rule.source s).value.1 = .ok found ∧
      found.map ConfigMap.contents = rule.copied? (store s) := by
  by_cases hnowhere : rule.source = .nowhere
  · rw [readSource_of_nowhere hnowhere, SyncRule.copied?, if_pos hnowhere]
    exact ⟨none, rfl, rfl⟩
  have hsomewhere : ¬ rule.source.isNowhere = true := mt Location.isNowhere_iff.1 hnowhere
  have sendable := h.asked hnowhere
  have tells := obeys.tells rule.source s
  rw [readSource, if_neg hsomewhere, SyncRule.copied?, if_neg hnowhere, Store.contents?]
  rw [Store.told?_of_addressed (h.found hnowhere)] at tells
  cases hfind : (store s).find? rule.source with
  | none =>
    rw [hfind] at tells
    exact ⟨none, readMap_of_tells_none sendable tells, rfl⟩
  | some m =>
    have hreadable := h.readable hnowhere (hfind ▸ rfl)
    rw [Store.contents?, hfind] at hreadable
    obtain ⟨contents, hcontents⟩ := Option.isSome_iff_exists.1 hreadable
    have hheld : m.contents? rule.source = some contents := hcontents
    rw [hfind, Option.map_some, hheld] at tells
    obtain ⟨map, hread, rfl⟩ := readMap_of_tells sendable tells
    exact ⟨some map, hread, hheld.symm⟩

/-- Carrying out a rule comes to its one request to write. -/
theorem carryOut_writes (obeys : Obeys api store) (h : rule.IsCarriedOut (store s)) :
    (carryOut api rule s).value.1 = .ok () ∧
      store (carryOut api rule s).value.2 =
        (Store.answer (rule.writing (store s)) (store s)).2 := by
  obtain ⟨found, hread, hcopied⟩ := exists_readSource obeys h
  have sent := h.sent
  rw [SyncRule.writing, ← hcopied] at sent ⊢
  exact carryOut_of_read obeys hread sent

/-! ### All rules -/

/-- What stands at a location once rules are carried out: the copy where a rule has its destination,
and anywhere else what stood there. -/
def mirrored : List SyncRule → Store → Location → Option StoredMap
  | [], st, l => st.find? l
  | rule :: rest, st, l =>
    if l = rule.destination then (rule.copied? st).map StoredMap.ofContents else mirrored rest st l

theorem mirrored_of_forall_ne {rules : List SyncRule} {l : Location}
    (h : ∀ rule ∈ rules, rule.destination ≠ l) : mirrored rules st l = st.find? l := by
  induction rules with
  | nil => rfl
  | cons rule rest ih =>
    obtain ⟨hrule, hrest⟩ := List.forall_mem_cons.1 h
    rw [mirrored, if_neg (Ne.symm hrule), ih hrest]

theorem mirrored_of_mem {rules : List SyncRule}
    (distinct : rules.Pairwise (·.destination ≠ ·.destination)) (h : rule ∈ rules) :
    mirrored rules st rule.destination = (rule.copied? st).map StoredMap.ofContents := by
  induction rules with
  | nil => exact absurd h List.not_mem_nil
  | cons first rest ih =>
    obtain ⟨hfirst, hdistinct⟩ := List.pairwise_cons.1 distinct
    rcases List.mem_cons.1 h with rfl | h
    · rw [mirrored, if_pos rfl]
    · rw [mirrored, if_neg (Ne.symm (hfirst rule h)), ih hdistinct h]

/-- Where there is the same to copy, and the same stands where nothing is copied to, the same comes
to stand. -/
theorem mirrored_congr {rules : List SyncRule} {l : Location}
    (hcopied : ∀ rule ∈ rules, rule.copied? st' = rule.copied? st)
    (h : (∀ rule ∈ rules, rule.destination ≠ l) → st'.find? l = st.find? l) :
    mirrored rules st' l = mirrored rules st l := by
  induction rules with
  | nil => exact h fun _ hmem => absurd hmem List.not_mem_nil
  | cons rule rest ih =>
    obtain ⟨hrule, hrest⟩ := List.forall_mem_cons.1 hcopied
    rw [mirrored, mirrored, hrule]
    split
    · rfl
    · next hne =>
      exact ih hrest fun hothers => h (List.forall_mem_cons.2 ⟨Ne.symm hne, hothers⟩)

/-- Rules that do not feed one another copy what their sources held before any was carried out. -/
theorem carryOutAll_mirrors (obeys : Obeys api store) {rules : List SyncRule}
    (distinct : rules.Pairwise (·.destination ≠ ·.destination)) (apart : SyncRule.Apart rules)
    (carried : ∀ rule ∈ rules, rule.IsCarriedOut (store s)) :
    (carryOutAll api rules s).value.1 = .ok () ∧
      ∀ l, (store (carryOutAll api rules s).value.2).find? l = mirrored rules (store s) l := by
  induction rules generalizing s with
  | nil => exact ⟨rfl, fun _ => rfl⟩
  | cons rule rest ih =>
    obtain ⟨hrule, hrest⟩ := List.forall_mem_cons.1 carried
    obtain ⟨hfirst, hdistinct⟩ := List.pairwise_cons.1 distinct
    obtain ⟨hok, hstore⟩ := carryOut_writes obeys hrule
    have hfind := SyncRule.find?_writing hrule
    rw [← hstore] at hfind
    have hall : (carryOutAll api (rule :: rest) s).value =
        (carryOutAll api rest (carryOut api rule s).value.2).value := by
      simp only [carryOutAll, bind_apply, hok]
      rfl
    rw [hall]
    generalize (carryOut api rule s).value.2 = next at hfind
    -- what the first rule writes is no source of the others
    have hsources : ∀ other ∈ rest,
        (store next).find? other.source = (store s).find? other.source := by
      intro other hother
      rw [hfind, if_neg]
      intro heq
      have hsame := apart rule List.mem_cons_self other (List.mem_cons_of_mem _ hother) heq
      exact hfirst other hother (congrArg SyncRule.destination hsame.symm)
    have hapart : SyncRule.Apart rest := fun one hone other hother =>
      apart one (List.mem_cons_of_mem _ hone) other (List.mem_cons_of_mem _ hother)
    obtain ⟨hok, hnext⟩ := ih hdistinct hapart fun other hother =>
      (hrest other hother).of_find?_eq (hsources other hother)
    refine ⟨hok, fun l => ?_⟩
    rw [hnext, mirrored]
    split
    · next heq =>
      rw [mirrored_of_forall_ne fun other hother => heq ▸ (hfirst other hother).symm, hfind,
        if_pos heq]
    · next hne =>
      refine mirrored_congr (fun other hother => SyncRule.copied?_congr (hsources other hother)) ?_
      intro _
      rw [hfind, if_neg hne]

/-! ### What destinations and sources hold afterwards -/

section Afterwards

variable {rules : List SyncRule} (distinct : rules.Pairwise (·.destination ≠ ·.destination))
  (apart : SyncRule.Apart rules) (after : ∀ l, st'.find? l = mirrored rules st l)

include distinct after in
theorem contents?_destination (hrule : rule ∈ rules) :
    st'.contents? rule.destination = rule.copied? st := by
  rw [Store.contents?, after, mirrored_of_mem distinct hrule]
  cases hcopied : rule.copied? st with
  | none => rfl
  | some contents =>
    exact StoredMap.contents?_ofContents (SyncRule.encoded_of_copied? hcopied) rule.destination

include apart after in
/-- A source stays as it was unless it is the destination of its own rule. -/
theorem source_eq_or (hrule : rule ∈ rules) :
    rule.source = rule.destination ∨ st'.find? rule.source = st.find? rule.source := by
  by_cases h : ∃ other ∈ rules, other.destination = rule.source
  · obtain ⟨other, hother, heq⟩ := h
    have hsame := apart other hother rule hrule heq.symm
    exact .inl (heq.symm.trans (congrArg SyncRule.destination hsame.symm))
  · refine .inr ((after rule.source).trans (mirrored_of_forall_ne fun other hother heq => ?_))
    exact h ⟨other, hother, heq⟩

include distinct apart after in
/-- Its contents stay as they were in any case. -/
theorem contents?_source (hrule : rule ∈ rules) (hsomewhere : rule.source ≠ .nowhere) :
    st'.contents? rule.source = st.contents? rule.source := by
  rcases source_eq_or apart after hrule with heq | hfind
  · have hcopied := contents?_destination distinct after hrule
    rw [SyncRule.copied?, if_neg hsomewhere, ← heq] at hcopied
    exact hcopied
  · rw [Store.contents?, hfind, Store.contents?]

include distinct apart after in
theorem copied?_after (hrule : rule ∈ rules) : rule.copied? st' = rule.copied? st := by
  rw [SyncRule.copied?, SyncRule.copied?]
  split
  · rfl
  · next hsomewhere => exact contents?_source distinct apart after hrule hsomewhere

include distinct apart after in
theorem mirrors_after (hrule : rule ∈ rules) (carried : rule.IsCarriedOut st) :
    rule.Mirrors st st' where
  exists_iff := by
    rw [after, mirrored_of_mem distinct hrule, Option.isSome_map, carried.isSome_copied?_iff]
  contents_eq hsomewhere hfound := by
    obtain ⟨contents, hsource⟩ := Option.isSome_iff_exists.1 (carried.readable hsomewhere hfound)
    refine ⟨contents, hsource, ?_⟩
    rw [contents?_destination distinct after hrule, SyncRule.copied?, if_neg hsomewhere, hsource]
  source_eq hsomewhere := by
    refine ⟨?_, contents?_source distinct apart after hrule hsomewhere⟩
    rcases source_eq_or apart after hrule with heq | hfind
    · rw [Bool.eq_iff_iff, heq, after, mirrored_of_mem distinct hrule, Option.isSome_map,
        carried.isSome_copied?_iff, ← heq, and_iff_right hsomewhere]
    · rw [hfind]

include distinct apart after in
/-- Carrying out the rule again, its requests are carried out again. -/
theorem isCarriedOut_after (hrule : rule ∈ rules) (carried : rule.IsCarriedOut st) :
    rule.IsCarriedOut st' := by
  refine carried.of_copied?_eq (copied?_after distinct apart after hrule) fun hsomewhere => ?_
  have hmirrors := mirrors_after distinct apart after hrule carried
  obtain ⟨hexists, hcontents⟩ := hmirrors.source_eq hsomewhere
  rw [hexists, hcontents]
  exact carried.readable hsomewhere

end Afterwards

/-- On a server that obeys, carrying out rules of which none writes what another one reads makes
every destination a copy of its source, if every request is carried out. No other config map changes,
and carrying them out again changes nothing at all. -/
theorem reconcile_mirrors (obeys : Obeys api store) {rules : SyncRules}
    (apart : SyncRule.Apart rules.toList)
    (carried : ∀ rule ∈ rules.toList, rule.IsCarriedOut (store s)) :
    let s' := (reconcile api rules s).value.2
    (reconcile api rules s).value.1 = .ok () ∧
      (∀ rule ∈ rules.toList, rule.Mirrors (store s) (store s')) ∧
      (∀ l, (∀ rule ∈ rules.toList, rule.destination ≠ l) →
        (store s').find? l = (store s).find? l) ∧
      (reconcile api rules s').value.1 = .ok () ∧
      store (reconcile api rules s').value.2 = store s' := by
  have distinct : rules.toList.Pairwise (·.destination ≠ ·.destination) := by
    refine rules.pairwise_toList.imp fun hlt heq => ?_
    rw [heq] at hlt
    exact KeyOrder.lt_irrefl _ hlt
  obtain ⟨hok, hafter⟩ := carryOutAll_mirrors obeys distinct apart carried
  obtain ⟨hagain, hsame⟩ := carryOutAll_mirrors obeys distinct apart fun rule hrule =>
    isCarriedOut_after distinct apart hafter hrule (carried rule hrule)
  refine ⟨hok, fun rule hrule => mirrors_after distinct apart hafter hrule (carried rule hrule),
    fun l hne => (hafter l).trans (mirrored_of_forall_ne hne), hagain, ?_⟩
  refine Table.ext_find? fun l => ?_
  refine (hsame l).trans ((mirrored_congr ?_ ?_).trans (hafter l).symm)
  · exact fun rule hrule => copied?_after distinct apart hafter hrule
  · exact fun hne => (hafter l).trans (mirrored_of_forall_ne hne)

section Example

/-- A copy of something, one of itself, one of what does not exist, and one of nothing. -/
def assortedRules : SyncRules :=
  .ofList
    [(⟨"here", "copy"⟩, ⟨"there", "original"⟩), (⟨"here", "itself"⟩, ⟨"here", "itself"⟩),
      (⟨"here", "stale"⟩, ⟨"there", "gone"⟩), (⟨"here", "unwanted"⟩, .nowhere)]

/-- All destinations but one exist. -/
def assortedStore : Store :=
  .ofList
    [(⟨"there", "original"⟩, ⟨some (.obj [("key", .str "value")]), none, none⟩),
      (⟨"here", "itself"⟩,
        ⟨some .null, some (.obj [("key", .str "AAAA")]), some (.bool false)⟩),
      (⟨"here", "stale"⟩, ⟨none, none, none⟩),
      (⟨"here", "unwanted"⟩, ⟨some .null, none, none⟩)]

theorem reconcile_mirrors_assortedRules :
    SyncRule.Apart assortedRules.toList ∧
      (∀ rule ∈ assortedRules.toList, rule.IsCarriedOut assortedStore) ∧
      let st' := (reconcile Store.api assortedRules assortedStore).value.2
      (∀ rule ∈ assortedRules.toList, rule.Mirrors assortedStore st') ∧
        st'.find? ⟨"there", "original"⟩ = assortedStore.find? ⟨"there", "original"⟩ ∧
        (reconcile Store.api assortedRules st').value.1 = .ok () ∧
        (reconcile Store.api assortedRules st').value.2 = st' := by
  have apart : SyncRule.Apart assortedRules.toList := by decide +kernel
  have carried : ∀ rule ∈ assortedRules.toList, rule.IsCarriedOut assortedStore := by
    decide +kernel
  have original : ∀ rule ∈ assortedRules.toList, rule.destination ≠ ⟨"there", "original"⟩ := by
    decide +kernel
  obtain ⟨-, mirrors, rest, again, same⟩ := reconcile_mirrors Store.obeys apart carried
  exact ⟨apart, carried, mirrors, rest _ original, again, same⟩

end Example

end Operator

end CloudFlags
