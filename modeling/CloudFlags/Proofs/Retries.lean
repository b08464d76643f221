import CloudFlags.Proofs.Carrying
import CloudFlags.Proofs.History
import CloudFlags.Proofs.Sources

/-! Passes that fail, and the pass that makes up for them. While neither the cluster nor the sources
change, a pass in which every request is answered properly ends with the same tree in memory, the
same rules, the same published tree and the same copy, whatever became of the requests of the passes
before it (`agrees_after_retries`). For each of those leaves what one of two things left: what there
was at the start, or what the last pass alone would leave there (`Retrying`). -/

namespace CloudFlags

open Api Json Resource

namespace SyncRules

/-- A rule that is in force need not be put in force again. -/
theorem enforce_enforce (rules : SyncRules) (rule : SyncRule) :
    (rules.enforce rule).enforce rule = rules.enforce rule :=
  enforce_of_find? (find?_enforce_self rules rule)

end SyncRules

namespace ConfigSource

/-- Sources are looked for in the watched namespaces. -/
theorem locationOf_choose? (provider : Option InTreeProvider) (managedExists : Bool)
    (reference : FileReference) :
    locationOf (choose? provider managedExists reference) = .nowhere ∨
      (locationOf (choose? provider managedExists reference)).space ∈ spaces := by
  cases hchosen : choose? provider managedExists reference with
  | none => exact .inl rfl
  | some source =>
    obtain ⟨-, rfl⟩ := choose?_eq_some_iff.1 hchosen
    refine .inr ?_
    cases managedExists with
    | true => exact List.mem_cons_of_mem _ List.mem_cons_self
    | false => exact List.mem_cons_self

/-- Nor do the paths for them lead out of these. -/
theorem space_mem_of_addressed? {source l : Location} (h : source.space ∈ spaces)
    (haddressed : Request.addressed? source = some l) : l.space ∈ spaces := by
  have hparts : ∀ space ∈ spaces, Request.partMark ∉ space.toList := by decide
  rw [Request.eq_of_addressed?_of_space (hparts _ h) haddressed]
  exact h

end ConfigSource

/-- The rules make the operand's copy and nothing else, from nowhere or from the watched
namespaces. -/
def Observer.CopiesWatched (o : Observer) (rules : SyncRules) : Prop :=
  ∀ rule ∈ rules.toList, rule.destination = o.copyLocation ∧
    (rule.source = .nowhere ∨ rule.source.space ∈ ConfigSource.spaces)

theorem Observer.CopiesWatched.copiesOnly {o : Observer} {rules : SyncRules}
    (h : o.CopiesWatched rules) : o.CopiesOnly rules :=
  fun rule hrule => (h rule hrule).1

/-- No request about the published tree or about the operand's copy reaches a watched namespace. For
a namespace without a slash it is enough to be neither of the two (`Observer.unwatched_of_space`). -/
def Observer.Unwatched (o : Observer) : Prop := ∀ l, o.Reaches l → l.space ∉ ConfigSource.spaces

theorem Observer.unwatched_of_space {o : Observer} (hspace : Request.partMark ∉ o.space.toList)
    (h : o.space ∉ ConfigSource.spaces) : o.Unwatched := by
  intro l hreaches
  rw [hreaches.space_eq hspace]
  exact h

/-- The config maps of the two watched namespaces, the published tree and the operand's copy. -/
def Observer.Concerns (o : Observer) (l : Location) : Prop :=
  l.space ∈ ConfigSource.spaces ∨ l = ⟨o.space, Operator.publishedName⟩ ∨ l = o.copyLocation

namespace Operator

open Exchange

variable {σ : Type} {o : Observer} {api : Api σ} {store : σ → Store} {x : Occasion σ}

/-! ### Passes that no request fails -/

/-- The pass does not end with a request that failed. -/
def Occasion.Healthy (o : Observer) (api : Api σ) (x : Occasion σ) : Prop :=
  ∀ failure, x.result o api ≠ .error (.api failure)

theorem Occasion.healthy_iff :
    x.Healthy o api ↔ x.Publishes o api ∧ (x.reconciliation o api).value.1 = .ok () := by
  by_cases hp : x.Publishes o api
  · rw [Healthy, and_iff_right hp, result_of_publishes hp]
    cases hcarried : (x.reconciliation o api).value.1 with
    | ok _ =>
      refine iff_of_true (fun failure h => ?_) rfl
      simp only [Except.bind] at h
      cases herrors : (x.seen o).value.errors with
      | nil =>
        rw [herrors] at h
        cases h
      | cons e rest =>
        rw [herrors] at h
        cases h
    | error e =>
      obtain ⟨failure, rfl⟩ := reconcile_returns _ _ e hcarried
      refine iff_of_false (fun h => h failure rfl) fun h => ?_
      cases h
  · obtain ⟨e, he⟩ := exists_error_of_not_publishes hp
    obtain ⟨failure, -, rfl⟩ := publication_error_iff.1 he
    exact iff_of_false (fun h => h failure (result_of_unpublished he)) fun h => hp h.1

/-! ### The same cluster again -/

section Again

variable {ρ : Type} {y : Occasion ρ}

/-- Over the same cluster the same tree is to be published again, whether it was or not. -/
theorem Occasion.target_again (cluster : x.cluster = y.cluster)
    (tree : x.memory.tree = y.memory.tree ∨ x.memory.tree = y.target o) :
    x.target o = y.target o := by
  have settled : x.target o = y.target o ∨
      x.target o = o.paths.restrict x.memory.tree ∧ y.target o = o.paths.restrict y.memory.tree := by
    rcases o.observe_ends y.cluster SyncRule.check with
      missing | ⟨stage, e, hf⟩ | ⟨i, external, managed, hs⟩
    · exact .inl ((target_of_missing (cluster ▸ missing)).trans (target_of_missing missing).symm)
    · exact .inr ⟨target_of_failsAt (cluster ▸ hf), target_of_failsAt hf⟩
    · exact .inl ((target_of_settles (cluster ▸ hs)).trans (target_of_settles hs).symm)
  rcases settled with heq | ⟨hx, hy⟩
  · exact heq
  · rcases tree with htree | htree
    · rw [hx, hy, htree]
    · rw [hx, htree, hy, FlagPaths.restrict_restrict]

/-- Over the same cluster the same rule is asked for, or again none. -/
theorem Occasion.rules_again (cluster : x.cluster = y.cluster)
    (rules : x.memory.rules = y.memory.rules ∨ x.memory.rules = (y.remembered o).rules) :
    (x.remembered o).rules = (y.remembered o).rules := by
  obtain ⟨asked, hasked, hx, hy⟩ : ∃ asked : List SyncRule, asked.length ≤ 1 ∧
      (x.seen o).trace.filterMap Notice.accepted? = asked ∧
      (y.seen o).trace.filterMap Notice.accepted? = asked := by
    rcases o.observe_ends y.cluster SyncRule.check with
      missing | ⟨stage, e, hf⟩ | ⟨i, external, managed, hs⟩
    · exact ⟨[], Nat.zero_le _, Observer.accepted_of_missing (cluster ▸ missing) _,
        Observer.accepted_of_missing missing _⟩
    · exact ⟨[], Nat.zero_le _, Observer.accepted_of_failsAt (cluster ▸ hf) _,
        Observer.accepted_of_failsAt hf _⟩
    · exact ⟨[_], Nat.le_refl _, Observer.accepted_of_settles (cluster ▸ hs) _,
        Observer.accepted_of_settles hs _⟩
  have hx : (x.remembered o).rules = asked.foldl SyncRules.enforce x.memory.rules := by
    rw [rules_remembered, hx]
  have hy : (y.remembered o).rules = asked.foldl SyncRules.enforce y.memory.rules := by
    rw [rules_remembered, hy]
  rw [hy] at rules ⊢
  rw [hx]
  match asked with
  | [] => exact rules.elim id id
  | [rule] =>
    rcases rules with heq | heq
    · rw [heq]
    · rw [heq]
      exact SyncRules.enforce_enforce _ _

end Again

theorem Occasion.copiesWatched_remembered (h : o.CopiesWatched x.memory.rules) :
    o.CopiesWatched (x.remembered o).rules := by
  intro rule hrule
  rcases mem_rules_remembered hrule with hold | ⟨i, managed, rfl⟩
  · exact h rule hold
  · exact ⟨rfl, ConfigSource.locationOf_choose? _ _ _⟩

/-! ### On the way to what a pass alone would leave -/

/-- What passes over a cluster have left that began where a given pass would begin. Each of them may
have got as far as that pass, or nowhere. -/
structure Retrying (o : Observer) (y : Occasion Store) (memory : Memory) (st : Store) : Prop where
  tree : memory.tree = y.memory.tree ∨
    memory.tree = y.target o ∧ (y.request o).fault? = none
  rules : memory.rules = y.memory.rules ∨ memory.rules = (y.remembered o).rules
  published (h : memory.tree = y.target o) :
    st.find? ⟨o.space, publishedName⟩ = y.publishedAfter o y.server
  unpublished
    (h : Request.addressed? ⟨o.space, publishedName⟩ ≠ some ⟨o.space, publishedName⟩) :
    st.find? ⟨o.space, publishedName⟩ = y.server.find? ⟨o.space, publishedName⟩
  sources (l : Location) (h : l.space ∈ ConfigSource.spaces) : st.find? l = y.server.find? l
  uncopied
    (h : ∀ rule ∈ (y.remembered o).rules.toList,
      Request.addressed? rule.destination ≠ some o.copyLocation) :
    st.find? o.copyLocation = y.server.find? o.copyLocation

namespace Retrying

variable {y : Occasion Store} {memory : Memory} {st st' : Store}

theorem start (o : Observer) (y : Occasion Store) : Retrying o y y.memory y.server where
  tree := .inl rfl
  rules := .inl rfl
  published h := by
    rw [Occasion.publishedAfter, if_neg fun hne => hne.1 h.symm]
  unpublished _ := rfl
  sources _ _ := rfl
  uncopied _ := rfl

/-- Others may change what the passes are not about. -/
theorem of_others (h : Retrying o y memory st)
    (alone : ∀ l, o.Concerns l → st'.find? l = st.find? l) : Retrying o y memory st' where
  tree := h.tree
  rules := h.rules
  published htree := (alone _ (.inr (.inl rfl))).trans (h.published htree)
  unpublished hnot := (alone _ (.inr (.inl rfl))).trans (h.unpublished hnot)
  sources l hl := (alone l (.inl hl)).trans (h.sources l hl)
  uncopied hnot := (alone _ (.inr (.inr rfl))).trans (h.uncopied hnot)

theorem copiesOnly (h : Retrying o y memory st) (copies : o.CopiesWatched y.memory.rules) :
    o.CopiesOnly memory.rules := by
  rcases h.rules with heq | heq
  · rw [heq]
    exact copies.copiesOnly
  · rw [heq]
    exact (Occasion.copiesWatched_remembered copies).copiesOnly

section Step

variable {x : Occasion σ}

theorem target_eq (h : Retrying o y x.memory st) (cluster : x.cluster = y.cluster) :
    x.target o = y.target o :=
  Occasion.target_again cluster (h.tree.imp id And.left)

theorem request_eq (h : Retrying o y x.memory st) (cluster : x.cluster = y.cluster) :
    x.request o = y.request o := by
  rw [Occasion.request, Occasion.request, h.target_eq cluster]

/-- Short of the tree to be published there is what was there at the start. -/
theorem tree_of_ne (h : Retrying o y memory st) (hne : memory.tree ≠ y.target o) :
    memory.tree = y.memory.tree :=
  h.tree.resolve_right fun hdone => hne hdone.1

theorem rules_eq (h : Retrying o y x.memory st) (cluster : x.cluster = y.cluster) :
    (x.remembered o).rules = (y.remembered o).rules :=
  Occasion.rules_again cluster h.rules

/-- What stands where the tree is published, once a pass has published it. -/
theorem publishedAfter_eq (h : Retrying o y x.memory st) (cluster : x.cluster = y.cluster) :
    x.publishedAfter o st = y.publishedAfter o y.server := by
  have htarget := h.target_eq cluster
  by_cases hdone : x.memory.tree = y.target o
  · rw [Occasion.publishedAfter, if_neg fun hne => hne.1 (htarget.trans hdone.symm)]
    exact h.published hdone
  · have htree := h.tree_of_ne hdone
    rw [Occasion.publishedAfter, Occasion.publishedAfter, htarget, htree]
    split
    · rfl
    · next hnot =>
      refine h.unpublished fun haddressed => hnot ⟨?_, haddressed⟩
      rw [← htree]
      exact Ne.symm hdone

/-- A pass leads no farther away, whatever becomes of its requests. -/
theorem step (serves : Serves api store) (unwatched : o.Unwatched)
    (copies : o.CopiesWatched y.memory.rules) (h : Retrying o y x.memory (store x.server))
    (cluster : x.cluster = y.cluster) :
    Retrying o y (x.after o api).memory (store (x.after o api).server) := by
  have hrules := h.rules_eq cluster
  have watched : o.CopiesWatched (x.remembered o).rules := by
    rw [hrules]
    exact Occasion.copiesWatched_remembered copies
  have only := h.copiesOnly copies
  constructor
  case tree =>
    by_cases hp : x.Publishes o api
    · rw [Occasion.tree_after_of_publishes hp]
      by_cases hdone : x.target o = x.memory.tree
      · rw [hdone]
        exact h.tree
      · have sendable := ((Occasion.publishes_iff_of_ne hdone).1 hp).1
        exact .inr ⟨h.target_eq cluster, h.request_eq cluster ▸ sendable⟩
    · rw [Occasion.tree_after_of_not_publishes hp]
      exact h.tree
  case rules =>
    rw [Occasion.rules_after]
    exact .inr hrules
  case published =>
    intro htree
    by_cases hp : x.Publishes o api
    · rw [Occasion.find?_published_after serves only hp, h.publishedAfter_eq cluster]
    · -- a pass that fails to publish had something to publish
      rw [Occasion.tree_after_of_not_publishes hp] at htree
      exact absurd (Occasion.publishes_of_target_eq ((h.target_eq cluster).trans htree.symm)) hp
  case unpublished =>
    intro hnot
    rw [Occasion.find?_after serves hnot (Observer.copying_ne_published watched.copiesOnly)]
    exact h.unpublished hnot
  case sources =>
    intro l hl
    refine (Occasion.find?_after serves ?_ ?_).trans (h.sources l hl)
    · exact fun haddressed => unwatched l (.inl haddressed) hl
    · intro rule hrule haddressed
      rw [(watched rule hrule).1] at haddressed
      exact unwatched l (.inr haddressed) hl
  case uncopied =>
    intro hnot
    refine (Occasion.find?_after serves o.addressed_published_ne_copy ?_).trans (h.uncopied hnot)
    rw [hrules]
    exact hnot

end Step

/-! ### The pass that makes up for them -/

section Settle

variable {x : Occasion Store}

theorem publishes_iff (h : Retrying o y x.memory x.server) (cluster : x.cluster = y.cluster) :
    x.Publishes o Store.api ↔ y.Publishes o Store.api := by
  have htarget := h.target_eq cluster
  by_cases hdone : x.memory.tree = y.target o
  · refine iff_of_true (Occasion.publishes_of_target_eq (htarget.trans hdone.symm)) ?_
    by_cases heq : y.target o = y.memory.tree
    · exact Occasion.publishes_of_target_eq heq
    · rcases h.tree with htree | ⟨-, sendable⟩
      · exact absurd (hdone.symm.trans htree) heq
      · exact (Store.obeys.publishes_iff heq).2 sendable
  · have htree := h.tree_of_ne hdone
    have hne : y.target o ≠ y.memory.tree := fun heq => hdone (htree.trans heq.symm)
    have hne' : x.target o ≠ x.memory.tree := by
      rw [htarget, htree]
      exact hne
    rw [Store.obeys.publishes_iff hne, Store.obeys.publishes_iff hne', h.request_eq cluster]

/-- Publishing leaves what is published elsewhere alone. -/
theorem find?_publication {l : Location}
    (hl : Request.addressed? ⟨o.space, publishedName⟩ ≠ some l) :
    (x.publication o Store.api).value.2.find? l = x.server.find? l :=
  Store.obeys.serves.find?_of_spares (publishChange_spares hl _ _) _

/-- Carrying out the rules then ends as it would have ended, with the same copy if it succeeds. -/
theorem reconciles (unwatched : o.Unwatched) (copies : o.CopiesWatched y.memory.rules)
    (h : Retrying o y x.memory x.server) (cluster : x.cluster = y.cluster) :
    ((x.reconciliation o Store.api).value.1 = .ok () ↔
        (y.reconciliation o Store.api).value.1 = .ok ()) ∧
      ((y.reconciliation o Store.api).value.1 = .ok () →
        (x.reconciliation o Store.api).value.2.find? o.copyLocation =
          (y.reconciliation o Store.api).value.2.find? o.copyLocation) := by
  have hrules := h.rules_eq cluster
  have watched : o.CopiesWatched (y.remembered o).rules :=
    Occasion.copiesWatched_remembered copies
  have hcopy : (∀ rule ∈ (y.remembered o).rules.toList,
        Request.addressed? rule.destination ≠ some o.copyLocation) →
      (x.publication o Store.api).value.2.find? o.copyLocation =
        (y.publication o Store.api).value.2.find? o.copyLocation := by
    intro hnot
    rw [find?_publication o.addressed_published_ne_copy,
      find?_publication o.addressed_published_ne_copy]
    exact h.uncopied hnot
  rw [Occasion.reconciliation, Occasion.reconciliation, hrules]
  rcases watched.copiesOnly.toList_eq with hnil | ⟨source, hsingle⟩
  · rw [reconcile_of_nil hnil, reconcile_of_nil hnil]
    refine ⟨Iff.rfl, fun _ => hcopy fun rule hrule => ?_⟩
    rw [hnil] at hrule
    exact absurd hrule List.not_mem_nil
  · have hmem : ⟨o.copyLocation, source⟩ ∈ (y.remembered o).rules.toList := by
      rw [hsingle]
      exact List.mem_cons_self
    have hread : (readSource Store.api source (x.publication o Store.api).value.2).value.1 =
        (readSource Store.api source (y.publication o Store.api).value.2).value.1 := by
      refine readSource_congr ((watched _ hmem).2.imp id fun hspace l haddressed => ?_)
      have hl : l.space ∈ ConfigSource.spaces :=
        ConfigSource.space_mem_of_addressed? hspace haddressed
      have hother : Request.addressed? ⟨o.space, publishedName⟩ ≠ some l :=
        fun hpublished => unwatched l (.inl hpublished) hl
      rw [find?_publication hother, find?_publication hother]
      exact h.sources l hl
    rw [reconcile_of_singleton hsingle, reconcile_of_singleton hsingle]
    constructor
    · constructor
      · intro carried
        obtain ⟨_, hcopied⟩ := exists_carryOut Store.obeys carried
        exact (hcopied _ hread.symm).1
      · intro carried
        obtain ⟨_, hcopied⟩ := exists_carryOut Store.obeys carried
        exact (hcopied _ hread).1
    · intro carried
      obtain ⟨copied, hcopied⟩ := exists_carryOut Store.obeys carried
      have left := (hcopied _ hread).2 o.copyLocation
      have right := (hcopied _ rfl).2 o.copyLocation
      rw [left, right]
      split
      · rfl
      · next hnot =>
        refine hcopy fun rule hrule => ?_
        rw [hsingle] at hrule
        rw [List.mem_singleton.1 hrule]
        exact hnot

/-- The pass is one that no request fails if and only if the pass alone would be. -/
theorem healthy_iff (unwatched : o.Unwatched) (copies : o.CopiesWatched y.memory.rules)
    (h : Retrying o y x.memory x.server) (cluster : x.cluster = y.cluster) :
    x.Healthy o Store.api ↔ y.Healthy o Store.api := by
  rw [Occasion.healthy_iff, Occasion.healthy_iff]
  exact and_congr (h.publishes_iff cluster) (h.reconciles unwatched copies cluster).1

end Settle

end Retrying

/-- Two worlds are the same to an operand: the tree in memory, the rules, the published tree and the
copy. -/
structure AgreeFor (o : Observer) (a b : World Store) : Prop where
  tree : a.memory.tree = b.memory.tree
  rules : a.memory.rules = b.memory.rules
  published : a.server.find? ⟨o.space, publishedName⟩ = b.server.find? ⟨o.space, publishedName⟩
  copy : a.server.find? o.copyLocation = b.server.find? o.copyLocation

/-- What the pass leaves is then what the pass alone would leave. -/
theorem Retrying.agree {y x : Occasion Store} (unwatched : o.Unwatched)
    (copies : o.CopiesWatched y.memory.rules) (h : Retrying o y x.memory x.server)
    (cluster : x.cluster = y.cluster) (healthy : y.Healthy o Store.api) :
    AgreeFor o (x.after o Store.api) (y.after o Store.api) := by
  obtain ⟨hy, carried⟩ := Occasion.healthy_iff.1 healthy
  have hx := (h.publishes_iff cluster).2 hy
  have only := h.copiesOnly copies
  constructor
  case tree =>
    rw [Occasion.tree_after_of_publishes hx, Occasion.tree_after_of_publishes hy]
    exact h.target_eq cluster
  case rules =>
    rw [Occasion.rules_after, Occasion.rules_after]
    exact h.rules_eq cluster
  case published =>
    have left : (x.after o Store.api).server.find? ⟨o.space, publishedName⟩ =
        x.publishedAfter o x.server :=
      Occasion.find?_published_after Store.obeys.serves only hx
    have right : (y.after o Store.api).server.find? ⟨o.space, publishedName⟩ =
        y.publishedAfter o y.server :=
      Occasion.find?_published_after Store.obeys.serves copies.copiesOnly hy
    rw [left, right]
    exact h.publishedAfter_eq cluster
  case copy =>
    rw [Occasion.after_of_publishes hx, Occasion.after_of_publishes hy]
    exact (h.reconciles unwatched copies cluster).2 carried

/-! ### Any number of passes before it -/

/-- A pass over a cluster on a server that holds what this one holds, and does everything it is
asked. -/
def World.servedPass (world : World σ) (store : σ → Store) (cluster : Cluster) : Occasion Store :=
  ⟨cluster, world.memory, store world.server⟩

/-- Whatever became of their requests, passes over the same cluster lead no farther than the pass
would alone. -/
theorem Retrying.through (serves : Serves api store) (unwatched : o.Unwatched)
    {y : Occasion Store} (copies : o.CopiesWatched y.memory.rules) {rounds : List (Round σ)}
    (fixed : ∀ round ∈ rounds, round.cluster = y.cluster)
    (alone : ∀ round ∈ rounds, ∀ s l, o.Concerns l →
      (store (round.others s)).find? l = (store s).find? l)
    {world : World σ} (h : Retrying o y world.memory (store world.server)) :
    Retrying o y (world.through o api rounds).memory
      (store (world.through o api rounds).server) := by
  induction rounds generalizing world with
  | nil => exact h
  | cons round rest ih =>
    obtain ⟨hcluster, hfixed⟩ := List.forall_mem_cons.1 fixed
    obtain ⟨hothers, halone⟩ := List.forall_mem_cons.1 alone
    have found : Retrying o y (round.occasion world).memory
        (store (round.occasion world).server) :=
      h.of_others (hothers world.server)
    exact ih hfixed halone (found.step serves unwatched copies hcluster)

/-- If the operand writes to no watched namespace, passes whose requests fail, with or without taking
effect, change nothing about what a pass in which no request fails leaves, nor whether there can be
one. -/
theorem agrees_after_retries (start : World σ) (cluster : Cluster) (rounds : List (Round σ))
    (serves : Serves api store) (unwatched : o.Unwatched)
    (copies : o.CopiesWatched start.memory.rules)
    (fixed : ∀ round ∈ rounds, round.cluster = cluster)
    (alone : ∀ round ∈ rounds, ∀ s l, o.Concerns l →
      (store (round.others s)).find? l = (store s).find? l) :
    let direct := start.servedPass store cluster
    let retried := (start.through o api rounds).servedPass store cluster
    (retried.Healthy o Store.api ↔ direct.Healthy o Store.api) ∧
      (direct.Healthy o Store.api →
        AgreeFor o (retried.after o Store.api) (direct.after o Store.api)) := by
  intro direct retried
  have h : Retrying o direct retried.memory retried.server :=
    (Retrying.start o direct).through serves unwatched copies fixed alone
  exact ⟨h.healthy_iff unwatched copies rfl, h.agree unwatched copies rfl⟩

section LostAnswer

open Scenario

/-- The pass over the cluster of the round without answers, had it been the first and been answered. -/
def heard : Occasion Store :=
  World.servedPass ⟨.initial, {}⟩ LossyServer.store unheardRound.cluster

theorem healthy_heard : heard.Healthy standardObserver Store.api := by
  have hsettles :
      standardObserver.Settles heard.cluster SyncRule.check (awsInfrastructure "") false none :=
    settles_awsCache _
  have htarget : heard.target standardObserver = unheard.target standardObserver := by
    rw [Occasion.target_of_settles hsettles, Occasion.target_of_settles settles_unheard]
  have hne : heard.target standardObserver ≠ heard.memory.tree := by
    rw [htarget]
    exact target_unheard_ne
  have hrules : (heard.remembered standardObserver).rules =
      SyncRules.enforce Table.empty ⟨standardObserver.copyLocation, .nowhere⟩ := by
    rw [Occasion.rules_remembered, Occasion.seen, Observer.accepted_of_settles hsettles]
    rfl
  have hsingle : (heard.remembered standardObserver).rules.toList =
      [⟨standardObserver.copyLocation, .nowhere⟩] := by
    rw [hrules]
    rfl
  have hp := (Store.obeys.publishes_iff hne).2 (fault?_standardObserver _)
  refine Occasion.healthy_iff.2 ⟨hp, ?_⟩
  rw [Occasion.reconciliation, reconcile_of_singleton hsingle]
  have nothing : (readSource Store.api .nowhere
      (heard.publication standardObserver Store.api).value.2).value.1 = .ok none := by
    rw [readSource_of_nowhere rfl]
    rfl
  exact And.left (carryOut_of_read Store.obeys nothing fault?_removeCopy)

/-- After a pass without answers, one with answers makes up for it. -/
theorem agrees_after_unheard :
    let retried : Occasion Store :=
      (World.through standardObserver LossyServer.api ⟨.initial, {}⟩ [unheardRound]).servedPass
        LossyServer.store unheardRound.cluster
    ¬ unheard.Publishes standardObserver LossyServer.api ∧
      retried.Healthy standardObserver Store.api ∧
      AgreeFor standardObserver (retried.after standardObserver Store.api)
        (heard.after standardObserver Store.api) := by
  intro retried
  have unwatched : standardObserver.Unwatched :=
    Observer.unwatched_of_space (by decide) (by decide)
  have copies : standardObserver.CopiesWatched Memory.initial.rules :=
    fun rule hrule => absurd hrule List.not_mem_nil
  obtain ⟨hhealthy, hagree⟩ := agrees_after_retries ⟨.initial, {}⟩ unheardRound.cluster
    [unheardRound] LossyServer.serves unwatched copies
    (fun round hround => by rw [List.mem_singleton.1 hround])
    (fun round hround server l _ => by rw [List.mem_singleton.1 hround]; rfl)
  exact ⟨strays_unheard.1, hhealthy.2 healthy_heard, hagree healthy_heard⟩

end LostAnswer

end Operator

end CloudFlags
