import CloudFlags.Operator.Pass
import CloudFlags.Proofs.Observation

/-! What the notices of an observation come to. Heeding them never touches the tree, and puts
exactly the accepted rules in force. An observation accepts the one rule of the operand's copy if it
goes through every stage, and none otherwise; and before a failure it notes nothing of a later stage
and no change of the file. -/

namespace CloudFlags

open Observation Observer Resource

/-- The rule that a notice tells was asked for, and whether it was accepted. -/
def Notice.request? : Notice → Option (SyncRule × Bool)
  | .requested rule accepted => some (rule, accepted)
  | _ => none

/-- The rule that a notice puts in force. -/
def Notice.accepted? : Notice → Option SyncRule
  | .requested rule true => some rule
  | _ => none

/-- The rules accepted are found among those that were asked for. -/
theorem Notice.filterMap_accepted? (notices : List Notice) :
    notices.filterMap accepted? =
      (notices.filterMap request?).filterMap fun request =>
        if request.2 then some request.1 else none := by
  rw [List.filterMap_filterMap]
  congr 1
  funext notice
  cases notice with
  | requested rule accepted => cases accepted <;> rfl
  | _ => rfl

/-- The stage at which lookups of a kind are made. -/
def ResourceKind.stage : ResourceKind → Stage
  | .infrastructure => .infrastructure
  | .featureGate => .featureGate
  | .configMap => .managedMap

/-- The stage that a notice shows to be consulted. -/
def Notice.stage? : Notice → Option Stage
  | .lookedUp kind _ => some kind.stage
  | .requested .. => some .rule
  | .recorded _ => none
  | .warned _ => none

/-! ### Heeding notices -/

namespace Operator.Memory

theorem heed_tree (memory : Memory) (notice : Notice) :
    (memory.heed notice).value.tree = memory.tree := by
  cases notice with
  | requested rule accepted => cases accepted <;> rfl
  | _ => rfl

theorem heed_rules (memory : Memory) (notice : Notice) :
    (memory.heed notice).value.rules =
      notice.accepted?.toList.foldl SyncRules.enforce memory.rules := by
  cases notice with
  | requested rule accepted => cases accepted <;> rfl
  | _ => rfl

theorem heedAll_cons (memory : Memory) (notice : Notice) (rest : List Notice) :
    (memory.heedAll (notice :: rest)).value = ((memory.heed notice).value.heedAll rest).value := rfl

@[simp] theorem heedAll_tree (memory : Memory) (notices : List Notice) :
    (memory.heedAll notices).value.tree = memory.tree := by
  induction notices generalizing memory with
  | nil => rfl
  | cons notice rest ih => rw [heedAll_cons, ih, heed_tree]

/-- The rules in force after notices: the accepted ones came into force, in order. -/
theorem heedAll_rules (memory : Memory) (notices : List Notice) :
    (memory.heedAll notices).value.rules =
      (notices.filterMap Notice.accepted?).foldl SyncRules.enforce memory.rules := by
  induction notices generalizing memory with
  | nil => rfl
  | cons notice rest ih =>
    rw [heedAll_cons, ih, heed_rules]
    cases h : notice.accepted? with
    | none => rw [List.filterMap_cons_none h]; rfl
    | some rule => rw [List.filterMap_cons_some h]; rfl

end Operator.Memory

/-! ### What an observation notes -/

/-- A notice that can stand before a failure at a stage: a lookup of this stage or an earlier one,
an event that tells of no change of the file, a rule that was refused, or a warning. -/
def Notice.PrecedesFailure (stage : Stage) : Notice → Prop
  | .lookedUp kind _ => kind.stage.rank ≤ stage.rank
  | .recorded event => event.reason ≠ changeReason
  | .requested _ accepted => stage = .rule ∧ accepted = false
  | .warned _ => True

namespace Observer

variable {o : Observer} {cluster : Cluster} {accept : SyncRule → Except Error Unit}

/-- The warnings about platforms differ in their messages only. -/
theorem exists_eq_of_platformWarning {platform : Platform} {event : Event}
    (h : platformWarning? platform = some event) :
    ∃ message, event = ⟨.warning, platformReason, message⟩ := by
  cases platform <;> simp only [platformWarning?, Option.some.injEq, reduceCtorEq] at h <;>
    exact ⟨_, h.symm⟩

/-- What is noted of the platform: warnings about it, and the lookup of the maintained config map.
-/
theorem mem_platformNotices {notice : Notice} (h : notice ∈ platformNotices cluster) :
    (∃ event, notice = .recorded event ∧ event.reason = platformReason) ∨
      notice = .lookedUp .configMap ConfigSource.managed.location.text := by
  rcases List.mem_append.1 h with h | h
  · refine .inl ?_
    split at h
    · next i _ =>
      rw [Option.mem_toList, Option.map_eq_some_iff] at h
      obtain ⟨event, hevent, rfl⟩ := h
      obtain ⟨message, rfl⟩ := exists_eq_of_platformWarning hevent
      exact ⟨_, rfl, rfl⟩
    · cases h
  · exact .inr (List.mem_singleton.1 h)

theorem request?_platformNotices (cluster : Cluster) :
    (platformNotices cluster).filterMap Notice.request? = [] := by
  apply List.filterMap_eq_nil_iff.2
  intro notice h
  rcases mem_platformNotices h with ⟨event, rfl, -⟩ | rfl <;> rfl

theorem precedesFailure_of_mem_firstLookups {stage : Stage} (h : 1 ≤ stage.rank) {notice : Notice}
    (hn : notice ∈ firstLookups) : notice.PrecedesFailure stage := by
  simp only [firstLookups, List.mem_cons, List.not_mem_nil, or_false] at hn
  rcases hn with rfl | rfl
  · exact Nat.zero_le _
  · exact h

theorem precedesFailure_of_mem_platformNotices {stage : Stage} (h : 3 ≤ stage.rank)
    {notice : Notice} (hn : notice ∈ platformNotices cluster) : notice.PrecedesFailure stage := by
  rcases mem_platformNotices hn with ⟨event, rfl, hr⟩ | rfl
  · show event.reason ≠ changeReason
    rw [hr]
    decide
  · exact h

theorem precedesFailure_of_mem_refusedRule {notice : Notice} (hn : notice ∈ o.refusedRule cluster) :
    notice.PrecedesFailure .rule := by
  rw [refusedRule] at hn
  split at hn
  · rw [List.mem_singleton.1 hn]
    exact ⟨rfl, rfl⟩
  · cases hn

theorem precedesFailure_of_mem_noticesTo {e : Error} {stage : Stage} {notice : Notice}
    (hn : notice ∈ o.noticesTo cluster e stage) : notice.PrecedesFailure stage := by
  have undecided {stage : Stage} : Notice.PrecedesFailure stage (.recorded (undecidedProvider e)) :=
    show observeReason ≠ changeReason by decide
  cases stage with
  | infrastructure =>
    rw [List.mem_singleton.1 hn]
    exact Nat.le_refl _
  | featureGate | externalProvider =>
    rcases List.mem_append.1 hn with hn | hn
    · exact precedesFailure_of_mem_firstLookups (by decide) hn
    · exact List.mem_singleton.1 hn ▸ undecided
  | managedMap =>
    rcases List.mem_append.1 hn with hn | hn
    · exact precedesFailure_of_mem_firstLookups (by decide) hn
    · exact precedesFailure_of_mem_platformNotices (Nat.le_refl _) hn
  | rule =>
    rcases List.mem_append.1 hn with hn | hn
    · rcases List.mem_append.1 hn with hn | hn
      · exact precedesFailure_of_mem_firstLookups (by decide) hn
      · exact precedesFailure_of_mem_platformNotices (by decide) hn
    · exact precedesFailure_of_mem_refusedRule hn

theorem precedesFailure_of_mem_keep {existing : Json} {e : Error} {stage : Stage} {notice : Notice}
    (hn : notice ∈ (o.keep existing e).trace) : notice.PrecedesFailure stage := by
  obtain ⟨error, -, rfl⟩ := List.mem_map.1 hn
  trivial

/-- Everything noted by an observation that fails at a stage. -/
theorem precedesFailure_of_mem_trace {stage : Stage} {e : Error}
    (h : o.FailsAt cluster accept stage e) {existing : Json} {notice : Notice}
    (hn : notice ∈ (o.observe cluster accept existing).trace) : notice.PrecedesFailure stage := by
  rw [observe_of_failsAt h] at hn
  rcases List.mem_append.1 hn with hn | hn
  · exact precedesFailure_of_mem_noticesTo hn
  · exact precedesFailure_of_mem_keep hn

/-! ### What is noted as an observation ends -/

/-- A file was there before if it stands alone in the list at its path. -/
theorem previousFile_eq_iff {existing : Json} {file : String} :
    (o.previousFile existing).value.1 = some [file] ↔
      o.paths.config.get? existing = some (Json.single file) := by
  have hlist : o.paths.config.get? existing = some (Json.single file) ↔
      o.paths.config.readList existing = .ok (some [file]) :=
    (@KeyPath.readList_eq_some_iff o.paths.config existing [file]).symm
  rw [hlist]
  unfold previousFile
  cases o.paths.config.readList existing with
  | ok previous => simp
  | error e => simp

/-- The change of the file, if it is another one than before. -/
def changeNotices (o : Observer) (existing : Json) : Option ConfigSource → List Notice
  | none => []
  | some source =>
    if o.paths.config.get? existing = some (Json.single source.file) then []
    else [.recorded (fileChanged source.file)]

section Silent

variable {α : Type} {f : Notice → Option α} (silent : ∀ text, f (.warned text) = none)

include silent

/-- Keeping everything as it was notes nothing but warnings. -/
theorem filterMap_keep (o : Observer) (existing : Json) (e : Error) :
    (o.keep existing e).trace.filterMap f = [] := by
  apply List.filterMap_eq_nil_iff.2
  intro notice hn
  obtain ⟨error, -, rfl⟩ := List.mem_map.1 hn
  exact silent _

/-- Settling notes the change of the file, and nothing else but a warning. -/
theorem filterMap_settle (o : Observer) (existing : Json) (name : Option String)
    (source : Option ConfigSource) :
    (o.settle existing name source).trace.filterMap f =
      (o.changeNotices existing source).filterMap f := by
  cases source with
  | none => rfl
  | some source =>
    have hprevious : (o.previousFile existing).trace.filterMap f = [] := by
      unfold previousFile
      split
      · rfl
      · exact List.filterMap_cons_none (silent _)
    simp only [settle_some, List.filterMap_append, hprevious, List.nil_append, changeNotices,
      previousFile_eq_iff]

end Silent

/-! ### The rules asked for and accepted -/

theorem accepted_of_missing (missing : cluster.infrastructure = .ok none) (existing : Json) :
    (o.observe cluster accept existing).trace.filterMap Notice.accepted? = [] := by
  rw [observe_of_missing missing]
  rfl

theorem accepted_of_failsAt {stage : Stage} {e : Error} (h : o.FailsAt cluster accept stage e)
    (existing : Json) :
    (o.observe cluster accept existing).trace.filterMap Notice.accepted? = [] := by
  rw [List.filterMap_eq_nil_iff]
  intro notice hn
  have fits := precedesFailure_of_mem_trace h hn
  cases notice with
  | requested rule accepted =>
    obtain ⟨-, rfl⟩ := fits
    rfl
  | _ => rfl

/-- An observation that goes through every stage asks for one rule, that of the operand's copy, and
it is accepted. -/
theorem requests_of_settles {i : Infrastructure} {external : Bool} {managed : Option ConfigMap}
    (h : o.Settles cluster accept i external managed) (existing : Json) :
    (o.observe cluster accept existing).trace.filterMap Notice.request? =
      [(o.copyRule (sourceFor i managed), true)] := by
  have hchange (source : Option ConfigSource) :
      (o.changeNotices existing source).filterMap Notice.request? = [] := by
    unfold changeNotices
    split
    · rfl
    · split <;> rfl
  rw [observe_of_settles h, List.filterMap_append, List.filterMap_append, request?_platformNotices,
    List.filterMap_cons, filterMap_settle fun _ => rfl, hchange]
  rfl

theorem accepted_of_settles {i : Infrastructure} {external : Bool} {managed : Option ConfigMap}
    (h : o.Settles cluster accept i external managed) (existing : Json) :
    (o.observe cluster accept existing).trace.filterMap Notice.accepted? =
      [o.copyRule (sourceFor i managed)] := by
  rw [Notice.filterMap_accepted?, requests_of_settles h]
  rfl

end Observer

end CloudFlags
