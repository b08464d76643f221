import Mathlib.Data.List.Induction
import CloudFlags.Proofs.History
import CloudFlags.Proofs.Json.Parts

/-! Requests for rules, one after another. A request is refused for its destination alone, and a
table is known by what it holds for each destination; so the table is the history of the requests
with all but the last accepted one of a destination forgotten (`SyncRules.last_request_stands`). -/

namespace CloudFlags

namespace SyncRule

/-- The destination has a namespace and a name. -/
def IsComplete (rule : SyncRule) : Prop :=
  rule.destination.space ≠ "" ∧ rule.destination.name ≠ ""

/-- The rule was asked for and accepted, and no other was accepted for its destination since. -/
def IsLastOf (rule : SyncRule) (requests : List SyncRule) : Prop :=
  Since (fun r => r = rule ∧ r.IsComplete)
    (fun r => r.IsComplete → r.destination ≠ rule.destination) requests

variable {rule : SyncRule} {e : Error}

theorem check_of_isComplete (h : rule.IsComplete) : rule.check = .ok () := by
  rw [check, if_neg]
  simp only [Bool.or_eq_true, String.isEmpty_iff, not_or]
  exact h

theorem check_eq_error_iff :
    rule.check = .error e ↔
      (rule.destination.space = "" ∨ rule.destination.name = "") ∧
        e = .invalidSyncDestination rule.destination.text := by
  rw [check]
  simp only [Bool.or_eq_true, String.isEmpty_iff]
  split
  · next hbad =>
    rw [Except.error.injEq]
    exact ⟨fun h => ⟨hbad, h.symm⟩, fun h => h.2.symm⟩
  · next hgood =>
    simp only [reduceCtorEq, false_iff]
    exact fun h => hgood h.1

end SyncRule

namespace SyncRules

variable {rules : SyncRules} {rule : SyncRule} {requests : List SyncRule} {e : Error}

/-! ### One request -/

/-- The table after a request, which is the same if the request is refused. -/
def after (rules : SyncRules) (rule : SyncRule) : SyncRules :=
  match rules.request rule with
  | .ok rules => rules
  | .error _ => rules

theorem request_eq_error_iff :
    rules.request rule = .error e ↔
      (rule.destination.space = "" ∨ rule.destination.name = "") ∧
        e = .invalidSyncDestination rule.destination.text := by
  rw [← SyncRule.check_eq_error_iff, request]
  cases rule.check with
  | ok _ => exact iff_of_false (fun h => nomatch h) fun h => nomatch h
  | error _ => exact Iff.of_eq (by simp only [Except.map, Except.error.injEq])

theorem after_of_refused (h : rules.request rule = .error e) : rules.after rule = rules := by
  rw [after, h]

theorem after_of_isComplete (h : rule.IsComplete) : rules.after rule = rules.enforce rule := by
  rw [after, request, SyncRule.check_of_isComplete h]
  rfl

theorem after_of_not_isComplete (h : ¬ rule.IsComplete) : rules.after rule = rules := by
  refine after_of_refused (request_eq_error_iff.2 ⟨?_, rfl⟩)
  exact Decidable.byContradiction fun hbad => h (not_or.1 hbad)

/-- A request says nothing of other destinations. -/
theorem find?_after_of_ne {l : Location} (h : rule.IsComplete → rule.destination ≠ l) :
    (rules.after rule).find? l = rules.find? l := by
  by_cases hcomplete : rule.IsComplete
  · rw [after_of_isComplete hcomplete]
    exact find?_enforce_of_ne (h hcomplete).symm rules
  · rw [after_of_not_isComplete hcomplete]

theorem find?_after_self (h : rule.IsComplete) :
    (rules.after rule).find? rule.destination = some rule.source := by
  rw [after_of_isComplete h, find?_enforce_self]

/-- A request for what is there already changes nothing. -/
theorem after_of_find? (h : rules.find? rule.destination = some rule.source) :
    rules.after rule = rules := by
  by_cases hcomplete : rule.IsComplete
  · rw [after_of_isComplete hcomplete, enforce_of_find? h]
  · exact after_of_not_isComplete hcomplete

/-- Requests for different destinations can be made in either order. -/
theorem after_comm {a b : SyncRule} (h : a.destination ≠ b.destination) :
    (rules.after a).after b = (rules.after b).after a := by
  refine Table.ext_find? fun l => ?_
  by_cases ha : a.IsComplete ∧ a.destination = l
  · obtain ⟨ha, rfl⟩ := ha
    rw [find?_after_of_ne fun _ => h.symm, find?_after_self ha, find?_after_self ha]
  · have haway : a.IsComplete → a.destination ≠ l := fun hc hl => ha ⟨hc, hl⟩
    rw [find?_after_of_ne haway]
    by_cases hb : b.IsComplete ∧ b.destination = l
    · obtain ⟨hb, rfl⟩ := hb
      rw [find?_after_self hb, find?_after_self hb]
    · have hbway : b.IsComplete → b.destination ≠ l := fun hc hl => hb ⟨hc, hl⟩
      rw [find?_after_of_ne hbway, find?_after_of_ne hbway, find?_after_of_ne haway]

/-! ### All of them -/

/-- The table after requests, from none in force. -/
def ofRequests (requests : List SyncRule) : SyncRules := requests.foldl after Table.empty

theorem ofRequests_concat (requests : List SyncRule) (rule : SyncRule) :
    ofRequests (requests ++ [rule]) = (ofRequests requests).after rule := by
  rw [ofRequests, List.foldl_append]
  rfl

theorem mem_toList_iff : rule ∈ rules.toList ↔ rules.find? rule.destination = some rule.source := by
  rw [Table.find?, rules.sorted.find?_eq_some_iff, toList, List.mem_map]
  constructor
  · rintro ⟨entry, hentry, rfl⟩
    exact hentry
  · exact fun h => ⟨_, h, rfl⟩

/-- What is in force is what was asked for last. -/
theorem find?_ofRequests_iff {l s : Location} :
    (ofRequests requests).find? l = some s ↔ SyncRule.IsLastOf ⟨l, s⟩ requests := by
  -- by induction on the requests from the last one backwards, as `Since` looks at them
  induction requests using List.reverseRecOn with
  | nil => exact iff_of_false (fun h => nomatch h) Since.not_nil
  | append_singleton earlier rule ih =>
    rw [ofRequests_concat, SyncRule.IsLastOf, Since.append_singleton_iff]
    by_cases hsame : rule.IsComplete ∧ rule.destination = l
    · obtain ⟨hcomplete, rfl⟩ := hsame
      rw [find?_after_self hcomplete, Option.some.injEq]
      constructor
      · rintro rfl
        exact .inl ⟨rfl, hcomplete⟩
      · rintro (⟨hrule, -⟩ | ⟨-, haway⟩)
        · exact congrArg SyncRule.source hrule
        · exact absurd rfl (haway hcomplete)
    · have haway : rule.IsComplete → rule.destination ≠ l := fun hc hl => hsame ⟨hc, hl⟩
      rw [find?_after_of_ne haway, ih]
      constructor
      · exact fun h => .inr ⟨h, haway⟩
      · rintro (⟨rfl, hcomplete⟩ | ⟨h, -⟩)
        · exact absurd rfl (haway hcomplete)
        · exact h

/-- There is a rule for a destination once one was accepted. -/
theorem isSome_find?_ofRequests_iff {l : Location} :
    ((ofRequests requests).find? l).isSome ↔ ∃ rule ∈ requests, rule.IsComplete ∧
      rule.destination = l := by
  induction requests using List.reverseRecOn with
  | nil => exact iff_of_false Bool.false_ne_true (by rintro ⟨_, h, -⟩; cases h)
  | append_singleton earlier rule ih =>
    simp only [ofRequests_concat, List.mem_append, List.mem_singleton, or_and_right, exists_or,
      exists_eq_left]
    by_cases hsame : rule.IsComplete ∧ rule.destination = l
    · obtain ⟨hcomplete, rfl⟩ := hsame
      rw [find?_after_self hcomplete]
      exact iff_of_true rfl (.inr ⟨hcomplete, rfl⟩)
    · rw [find?_after_of_ne fun hc hl => hsame ⟨hc, hl⟩, ih, or_iff_left hsame]

/-- A rule that was asked for stays until there is a request for its destination. -/
theorem after_ofRequests_of_mem {earlier later : List SyncRule}
    (h : ∀ r ∈ later, r.destination ≠ rule.destination) :
    (ofRequests (earlier ++ rule :: later)).after rule = ofRequests (earlier ++ rule :: later) := by
  by_cases hcomplete : rule.IsComplete
  · refine after_of_find? (find?_ofRequests_iff.2 ?_)
    exact ⟨earlier, rule, later, rfl, ⟨rfl, hcomplete⟩, fun r hr _ => h r hr⟩
  · exact after_of_not_isComplete hcomplete

/-- After any requests, one more is refused exactly if its destination lacks a namespace or a name,
with an error that tells the destination, and then the table stays as it is. The table has a rule
for each destination of an accepted request and for no other, which is the last one accepted, and
has them in the order of their destinations. So a request repeated before another one for its
destination changes nothing, and neighbouring requests for different destinations may change
places. -/
theorem last_request_stands (requests : List SyncRule) :
    (∀ rule e, (ofRequests requests).request rule = .error e ↔
      (rule.destination.space = "" ∨ rule.destination.name = "") ∧
        e = .invalidSyncDestination (rule.destination.space ++ "/" ++ rule.destination.name)) ∧
    (∀ rule e, (ofRequests requests).request rule = .error e →
      ofRequests (requests ++ [rule]) = ofRequests requests) ∧
    (∀ l, (∃ rule ∈ (ofRequests requests).toList, rule.destination = l) ↔
      ∃ rule ∈ requests, rule.IsComplete ∧ rule.destination = l) ∧
    (∀ rule, rule ∈ (ofRequests requests).toList ↔ rule.IsLastOf requests) ∧
    (ofRequests requests).toList.Pairwise (·.destination < ·.destination) ∧
    (∀ earlier rule later, requests = earlier ++ rule :: later →
      (∀ r ∈ later, r.destination ≠ rule.destination) →
        ofRequests (requests ++ [rule]) = ofRequests requests) ∧
    ∀ a b later, a.destination ≠ b.destination →
      ofRequests (requests ++ a :: b :: later) = ofRequests (requests ++ b :: a :: later) := by
  refine ⟨fun rule e => request_eq_error_iff, fun rule e h => ?_, fun l => ?_, fun rule => ?_,
    List.pairwise_map.2 (ofRequests requests).sorted, ?_, fun a b later h => ?_⟩
  · rw [ofRequests_concat, after_of_refused h]
  · rw [← isSome_find?_ofRequests_iff, Option.isSome_iff_exists]
    constructor
    · rintro ⟨rule, hrule, rfl⟩
      exact ⟨rule.source, mem_toList_iff.1 hrule⟩
    · exact fun ⟨source, h⟩ => ⟨⟨l, source⟩, mem_toList_iff.2 h, rfl⟩
  · rw [mem_toList_iff, find?_ofRequests_iff]
  · rintro earlier rule later rfl h
    rw [ofRequests_concat, after_ofRequests_of_mem h]
  · simp only [ofRequests, List.foldl_append, List.foldl_cons]
    rw [after_comm h]

end SyncRules

end CloudFlags
