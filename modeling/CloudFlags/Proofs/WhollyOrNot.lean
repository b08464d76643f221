import CloudFlags.Proofs.Convergence
import CloudFlags.Proofs.Handling
import CloudFlags.Proofs.Serving

/-! A pass takes the tree observed wholly or not at all. A tree other than the one in memory is
written once, and first of all. If writing fails, the failure is what the pass ends with, the tree
in memory stays, and no rule is carried out. Otherwise the tree observed is the one in memory, and
the rules are carried out once, whatever the observation reported. There are two ways for the
requests to look otherwise: a rule for the config map of the published tree, by which that is
written as well, and a namespace that no request can name, for which nothing is sent. -/

namespace CloudFlags

/-- A request for the one location reaches the config map at the other: they are the same, or the
path for the one leads to the other. -/
def Location.LeadsTo (location l : Location) : Prop :=
  location = l ∨ Api.Request.addressed? location = some l

instance (location l : Location) : Decidable (location.LeadsTo l) :=
  inferInstanceAs (Decidable (_ ∨ _))

/-- The operand's copy is another config map than that of the published tree. -/
theorem Observer.not_leadsTo_copyLocation (o : Observer) :
    ¬ o.copyLocation.LeadsTo ⟨o.space, Operator.publishedName⟩ := by
  have hname : copyName ≠ Operator.publishedName := by decide
  rintro (heq | haddressed)
  · exact hname (congrArg Location.name heq)
  · exact o.addressed_copy_ne_published haddressed

end CloudFlags

namespace CloudFlags.Operator

open Api Exchange Resource

variable {σ : Type}

namespace Occasion

/-! ### Writing the tree -/

/-- The request by which the tree observed is written, with its answer: if it is another tree than
in memory, and if the request can be sent. -/
def write? (o : Observer) (api : Api σ) (x : Occasion σ) : Option (Request × Reply) :=
  if x.target o ≠ x.memory.tree ∧ (x.request o).fault? = none then
    some (x.request o, (api.answer (x.request o) x.server).1)
  else none

/-- The requests of a pass that write or remove the config map of the published tree. -/
def writes (o : Observer) (api : Api σ) (x : Occasion σ) : List (Request × Reply) :=
  (talk (x.outcome o api).trace).filter fun said =>
    said.1.written?.any (·.LeadsTo ⟨o.space, publishedName⟩)

variable {o : Observer} {api : Api σ} {x : Occasion σ}

theorem write?_of_target_eq (h : x.target o = x.memory.tree) : x.write? o api = none :=
  if_neg fun hand => hand.1 h

/-- A write is one of the published tree's config map. -/
theorem written?_of_mem_write? {said : Request × Reply} (h : said ∈ x.write? o api) :
    said.1.written? = some ⟨o.space, publishedName⟩ := by
  rw [Option.mem_def, write?, Option.ite_none_right_eq_some] at h
  obtain ⟨-, h⟩ := h
  cases h
  rfl

theorem talk_publication : talk (x.publication o api).trace = (x.write? o api).toList := by
  by_cases h : x.target o = x.memory.tree
  · rw [publication_of_target_eq h, write?_of_target_eq h]
    rfl
  have hwrite : x.write? o api = exchanged? api (x.request o) x.server := by
    unfold write?
    cases hfault : (x.request o).fault? with
    | some fault =>
      rw [exchanged?_of_fault hfault]
      exact if_neg fun hand => Option.some_ne_none fault hand.2
    | none =>
      rw [exchanged?_of_sendable hfault]
      exact if_pos ⟨h, rfl⟩
  rw [hwrite, ← talk_ask (ConfigMap.shape.map fun _ => ()), publication, publishChange, if_neg h]
  simp only [bind_apply, publish, applyMap]
  -- after the request lines are logged and a failure is counted, which says nothing
  cases (ask api (.applyMap ⟨o.space, publishedName⟩ (publishedContents (x.target o)))
    (ConfigMap.shape.map fun _ => ()) x.server).value.1 <;>
    simp only [bind_apply, pure_apply, talk_append, talk_log, talk_count, List.append_nil] <;>
    rfl

/-! ### The other requests -/

/-- Without a rule for the config map of the published tree, none is put in force. -/
theorem not_leadsTo_published
    (other : ∀ rule ∈ x.memory.rules.toList, ¬ rule.destination.LeadsTo ⟨o.space, publishedName⟩) :
    ∀ rule ∈ (x.remembered o).rules.toList,
      ¬ rule.destination.LeadsTo ⟨o.space, publishedName⟩ := by
  intro rule hrule
  rcases mem_rules_remembered hrule with hold | ⟨i, managed, rfl⟩
  · exact other rule hold
  · exact o.not_leadsTo_copyLocation

/-- Then the tree observed is all that is written there. -/
theorem writes_eq
    (other : ∀ rule ∈ x.memory.rules.toList, ¬ rule.destination.LeadsTo ⟨o.space, publishedName⟩) :
    x.writes o api = (x.write? o api).toList := by
  have hpublication : (x.write? o api).toList.filter (fun said =>
      said.1.written?.any (·.LeadsTo ⟨o.space, publishedName⟩)) = (x.write? o api).toList := by
    apply List.filter_eq_self.2
    intro said hsaid
    rw [written?_of_mem_write? (Option.mem_toList.1 hsaid)]
    exact decide_eq_true (.inl rfl)
  unfold writes
  by_cases hp : x.Publishes o api
  · have hreconciliation : (talk (x.reconciliation o api).trace).filter (fun said =>
        said.1.written?.any (·.LeadsTo ⟨o.space, publishedName⟩)) = [] := by
      apply List.filter_eq_nil_iff.2
      intro said hsaid hreached
      cases hwritten : said.1.written? with
      | none =>
        rw [hwritten] at hreached
        cases hreached
      | some location =>
        rw [hwritten] at hreached
        obtain ⟨rule, hrule, rfl⟩ := exists_destination_of_carriesOut
          ((reconcile_confined _).trace _ _ (mem_talk.1 hsaid)) hwritten
        exact not_leadsTo_published other rule hrule (of_decide_eq_true hreached)
    rw [talk_outcome_of_publishes hp, List.filter_append, talk_publication, hpublication,
      hreconciliation, List.append_nil]
  · rw [talk_outcome_of_not_publishes hp, talk_publication, hpublication]

end Occasion

/-- Whatever the cluster, the memory and the answers: before any rule is carried out, the tree
observed is written once if it is another one than in memory, and else not at all; and nothing else
is written there without a rule for that config map. If writing fails, that is the result, the tree
in memory stays, and no rule is carried out. If not, the tree observed is in memory, the rules are
carried out once, and their failure goes before what the observation reported. -/
theorem tree_taken_wholly_or_not_at_all (o : Observer) (api : Api σ) (x : Occasion σ) :
    let errors := (x.seen o).value.errors
    let reconciled := (x.reconciliation o api).value.1
    (x.seen o).value.tree o.paths = .ok (x.target o) ∧
      talk ((x.heeding o).trace ++ (x.publication o api).trace) = (x.write? o api).toList ∧
      ((∀ rule ∈ x.memory.rules.toList,
          ¬ rule.destination.LeadsTo ⟨o.space, publishedName⟩) →
        x.writes o api = (x.write? o api).toList) ∧
      (∀ failure, x.WriteFails o api failure →
        x.result o api = .error (.api failure) ∧
        (x.after o api).memory.tree = x.memory.tree ∧
        (x.outcome o api).trace = (x.heeding o).trace ++ (x.publication o api).trace) ∧
      ((∀ failure, ¬ x.WriteFails o api failure) →
        (x.after o api).memory.tree = x.target o ∧
        (x.outcome o api).trace =
          (x.heeding o).trace ++ (x.publication o api).trace ++ (x.reconciliation o api).trace ∧
        (∀ e, reconciled = .error e → x.result o api = .error e) ∧
        (reconciled = .ok () → errors ≠ [] → x.result o api = .error (.observation errors))) ∧
      (x.result o api = .ok () ↔
        (∀ failure, ¬ x.WriteFails o api failure) ∧ reconciled = .ok () ∧ errors = []) ∧
      ∃ done, HandledInOrder (x.remembered o).rules.toList done reconciled ∧
        talk (x.reconciliation o api).trace = done.flatMap Handling.said := by
  intro errors reconciled
  refine ⟨Occasion.tree_seen, ?_, Occasion.writes_eq, ?_, ?_, ?_, exists_handledInOrder ..⟩
  · rw [talk_append, Occasion.heeding, Memory.talk_heedAll, List.nil_append,
      Occasion.talk_publication]
  · intro failure hfails
    have hunpublished : ¬ x.Publishes o api := fun hp =>
      Occasion.publishes_iff_not_writeFails.1 hp failure hfails
    have herror : (x.publication o api).value.1 = .error (.api failure) :=
      Occasion.publication_error_iff.2 ⟨failure, hfails, rfl⟩
    refine ⟨Occasion.result_of_unpublished herror,
      Occasion.tree_after_of_not_publishes hunpublished, ?_⟩
    rw [Occasion.outcome_of_unpublished herror]
  · intro hwritten
    have hp : x.Publishes o api := Occasion.publishes_iff_not_writeFails.2 hwritten
    have hresult : x.result o api = reconciled.bind fun _ => verdict errors :=
      Occasion.result_of_publishes hp
    refine ⟨Occasion.tree_after_of_publishes hp, ?_, fun e he => ?_, fun hok herrors => ?_⟩
    · rw [Occasion.outcome_of_publishes hp, List.append_assoc]
    · rw [hresult, he]
      rfl
    · rw [hresult, hok]
      exact verdict_of_ne_nil herrors
  · rw [Occasion.result_eq_ok_iff, Occasion.publishes_iff_not_writeFails]

/-! ### Requests that look otherwise -/

section Otherwise

open Scenario

/-- A server that answers everything with an empty config map. -/
def emptyMaps : Api Unit := ⟨fun _ server => (.answered 200 (.tree Json.empty), server)⟩

/-- A rule for the config map of the published tree. -/
def overwritingRule : SyncRule :=
  ⟨⟨standardObserver.space, publishedName⟩, ⟨ConfigSource.userSpace, "site"⟩⟩

/-- That rule is in force, and nothing is there to observe. -/
def ruledOccasion : Occasion Unit where
  cluster := Cluster.empty
  memory := { Memory.initial with rules := SyncRules.enforce Table.empty overwritingRule }
  server := ()

theorem talk_overwritingRule :
    talk (carryOut emptyMaps overwritingRule ()).trace =
      [(.readMap overwritingRule.source, .answered 200 (.tree Json.empty)),
        (.applyMap ⟨standardObserver.space, publishedName⟩ ⟨none, none⟩,
          .answered 200 (.tree Json.empty))] := by
  have hsomewhere : overwritingRule.source ≠ .nowhere := by decide
  have hread : (Request.readMap overwritingRule.source).fault? = none := by decide +kernel
  have hwrite : (Request.applyMap overwritingRule.destination ⟨none, none⟩).fault? = none :=
    fault?_publishStandard _
  have hmap : (emptyMaps.answer (.readMap overwritingRule.source) ()).1.read ConfigMap.shape =
      .ok ⟨{}, none, none, none⟩ := rfl
  rw [talk_carryOut_of_read hsomewhere hread hmap]
  simp only [ConfigMap.contents, exchanged?_of_sendable hwrite]
  rfl

theorem rules_ruledOccasion :
    (ruledOccasion.remembered standardObserver).rules.toList = [overwritingRule] := by
  rw [Occasion.rules_remembered, Occasion.seen, Observer.accepted_of_missing rfl]
  rfl

/-- The operand stands in a namespace with a blank. -/
def blankObserver : Observer := ⟨"a b", standardObserver.paths⟩

/-- A cluster on AWS is observed for the first time. -/
def firstOccasion : Occasion Unit := ⟨(awsCache "" "").cluster, .initial, ()⟩

theorem target_firstOccasion_ne :
    firstOccasion.target blankObserver ≠ firstOccasion.memory.tree := by
  have hsettles : blankObserver.Settles firstOccasion.cluster SyncRule.check (awsInfrastructure "")
      false none := settles_awsCache_of_space (by decide) ""
  rw [Occasion.target_of_settles hsettles]
  decide +kernel

theorem fault?_firstOccasion :
    (firstOccasion.request blankObserver).fault? = some .invalidCharacter := by
  rw [Occasion.request, Request.fault?_applyMap _ _ ⟨none, none⟩]
  decide +kernel

/-- With such a rule the config map is written though the tree is that in memory; and in such a
namespace nothing is written though it is another one. -/
theorem written_otherwise :
    (ruledOccasion.target standardObserver = ruledOccasion.memory.tree ∧
      ruledOccasion.writes standardObserver emptyMaps =
        [(.applyMap ⟨standardObserver.space, publishedName⟩ ⟨none, none⟩,
          .answered 200 (.tree Json.empty))]) ∧
      firstOccasion.target blankObserver ≠ firstOccasion.memory.tree ∧
      firstOccasion.writes blankObserver emptyMaps = [] := by
  have hsame : ruledOccasion.target standardObserver = ruledOccasion.memory.tree :=
    Occasion.target_of_missing rfl
  refine ⟨⟨hsame, ?_⟩, target_firstOccasion_ne, ?_⟩
  · have htalk : talk (ruledOccasion.outcome standardObserver emptyMaps).trace =
        talk (carryOut emptyMaps overwritingRule ()).trace := by
      rw [Occasion.talk_outcome_of_publishes (Occasion.publishes_of_target_eq hsame),
        Occasion.talk_publication, Occasion.write?_of_target_eq hsame, Occasion.reconciliation,
        Occasion.publication_of_target_eq hsame, reconcile, rules_ruledOccasion,
        talk_carryOutAll_singleton, Option.toList_none, List.nil_append]
    rw [Occasion.writes, htalk, talk_overwritingRule]
    simp [Request.written?, Location.LeadsTo]
  · have hunsent : firstOccasion.write? blankObserver emptyMaps = none :=
      if_neg fun hand => by
        rw [fault?_firstOccasion] at hand
        cases hand.2
    rw [Occasion.writes_eq fun _ hrule => absurd hrule List.not_mem_nil, hunsent]
    rfl

end Otherwise

end CloudFlags.Operator
