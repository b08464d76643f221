import CloudFlags.Proofs.Confinement
import CloudFlags.Proofs.Notices

/-! What is warned of. There is one warning that passes fail in a row, and it can be told from every
other line of the log (`Entry.Calm`). A pass does not log it, since all that a pass warns of comes
from what it observed, and an observation words its notices differently (`Observer.worded_observe`,
`Operator.pass_calm`). -/

namespace CloudFlags

open Observation

/-- The warning that passes fail in a row. -/
def Operator.streakWarning (failures : Nat) : LogLine :=
  ⟨.warn, "Observation has failed " ++ toString failures ++ " times in a row"⟩

theorem Operator.streakWarning_inj {m n : Nat} :
    streakWarning m = streakWarning n ↔ m = n := by
  refine ⟨fun h => ?_, congrArg _⟩
  have htext := congrArg (fun line => line.text.toList) h
  simp only [streakWarning, String.toList_append, List.append_cancel_right_eq,
    List.append_cancel_left_eq] at htext
  have hdigits : Nat.toDigits 10 m = Nat.toDigits 10 n := by
    rw [← Nat.toList_repr, ← Nat.toList_repr]
    exact htext
  calc
    m = Nat.ofDigitChars 10 (Nat.toDigits 10 m) 0 := Nat.ofDigitChars_ten_toDigits.symm
    _ = Nat.ofDigitChars 10 (Nat.toDigits 10 n) 0 := by rw [hdigits]
    _ = n := Nat.ofDigitChars_ten_toDigits

/-- The entry is not that warning. -/
def Entry.Calm (entry : Entry) : Prop := ∀ n, entry ≠ .logged (Operator.streakWarning n)

namespace Entry

theorem calm_of_unalarming {entry : Entry} (h : entry.Unalarming) : entry.Calm := by
  rintro n rfl
  exact h rfl

/-- The warning is told from other lines by its seventh letter. -/
theorem calm_of_text {level : Level} {text : String} (h : text.toList[6]? ≠ some 'a') :
    Calm (.logged ⟨level, text⟩) := by
  intro n heq
  have hletter := congrArg (fun line => line.text.toList[6]?) (Entry.logged.inj heq)
  rw [Operator.streakWarning, String.toList_append, String.toList_append, List.append_assoc,
    List.getElem?_append_left (by decide)] at hletter
  exact h (hletter.trans (by decide))

theorem calm_of_append {level : Level} {text rest : String} (hlength : 6 < text.toList.length)
    (h : text.toList[6]? ≠ some 'a') : Calm (.logged ⟨level, text ++ rest⟩) :=
  calm_of_text (by rwa [String.toList_append, List.getElem?_append_left hlength])

end Entry

/-- The events and warnings of an observation, as they are worded. -/
def Notice.Worded : Notice → Prop
  | .recorded event => event.reason ∈ [observeReason, changeReason, platformReason]
  | .warned text => ∃ rest, text = "Failed to read previously observed value: " ++ rest ∨
    text = "Failed to read previously observed cloud config: " ++ rest
  | _ => True

namespace Observer

theorem worded_firstLookups : ∀ notice ∈ firstLookups, notice.Worded :=
  List.forall_mem_cons.2 ⟨trivial, List.forall_mem_singleton.2 trivial⟩

theorem worded_platformNotices (cluster : Cluster) :
    ∀ notice ∈ platformNotices cluster, notice.Worded := by
  intro notice h
  rcases mem_platformNotices h with ⟨event, rfl, hreason⟩ | rfl
  · show event.reason ∈ _
    rw [hreason]
    decide
  · trivial

theorem worded_refusedRule (o : Observer) (cluster : Cluster) :
    ∀ notice ∈ o.refusedRule cluster, notice.Worded := by
  rw [refusedRule]
  split
  · exact List.forall_mem_singleton.2 trivial
  · exact List.forall_mem_nil _

theorem worded_noticesTo (o : Observer) (cluster : Cluster) (e : Error) (stage : Stage) :
    ∀ notice ∈ o.noticesTo cluster e stage, notice.Worded := by
  have undecided : (Notice.recorded (undecidedProvider e)).Worded :=
    (by decide : observeReason ∈ [observeReason, changeReason, platformReason])
  have decided := List.forall_mem_append.2 ⟨worded_firstLookups, worded_platformNotices cluster⟩
  cases stage with
  | infrastructure => exact List.forall_mem_singleton.2 trivial
  | featureGate | externalProvider =>
    exact List.forall_mem_append.2 ⟨worded_firstLookups, List.forall_mem_singleton.2 undecided⟩
  | managedMap => exact decided
  | rule => exact List.forall_mem_append.2 ⟨decided, worded_refusedRule o cluster⟩

theorem worded_keep (o : Observer) (existing : Json) (e : Error) :
    ∀ notice ∈ (o.keep existing e).trace, notice.Worded := by
  intro notice h
  obtain ⟨error, -, rfl⟩ := List.mem_map.1 h
  exact ⟨_, .inl rfl⟩

theorem worded_previousFile (o : Observer) (existing : Json) :
    ∀ notice ∈ (o.previousFile existing).trace, notice.Worded := by
  rw [previousFile]
  split
  · exact List.forall_mem_nil _
  · exact List.forall_mem_singleton.2 ⟨_, .inr rfl⟩

theorem worded_settle (o : Observer) (existing : Json) (name : Option String)
    (source : Option ConfigSource) :
    ∀ notice ∈ (o.settle existing name source).trace, notice.Worded := by
  cases source with
  | none => exact List.forall_mem_nil _
  | some source =>
    rw [settle_some]
    refine List.forall_mem_append.2 ⟨worded_previousFile o existing, ?_⟩
    split
    · exact List.forall_mem_nil _
    · exact List.forall_mem_singleton.2
        (by decide : changeReason ∈ [observeReason, changeReason, platformReason])

/-- Whatever an observation ends with, this is how it tells of it. -/
theorem worded_observe (o : Observer) (cluster : Cluster) (accept : SyncRule → Except Error Unit)
    (existing : Json) : ∀ notice ∈ (o.observe cluster accept existing).trace, notice.Worded := by
  rcases o.observe_ends cluster accept with missing | ⟨stage, e, hf⟩ | ⟨i, external, managed, hs⟩
  · rw [observe_of_missing missing]
    exact List.forall_mem_cons.2 ⟨trivial, List.forall_mem_singleton.2
      (by decide : observeReason ∈ [observeReason, changeReason, platformReason])⟩
  · rw [observe_of_failsAt hf]
    exact List.forall_mem_append.2 ⟨worded_noticesTo o cluster e stage, worded_keep o existing e⟩
  · rw [observe_of_settles hs]
    exact List.forall_mem_append.2
      ⟨List.forall_mem_append.2 ⟨worded_firstLookups, worded_platformNotices cluster⟩,
        List.forall_mem_cons.2 ⟨trivial, worded_settle o existing _ _⟩⟩

end Observer

namespace Operator

open Exchange

variable {σ : Type}

theorem record_calm {event : Event} (queue : EventQueue)
    (h : event.reason ∈ [observeReason, changeReason, platformReason]) :
    ∀ entry ∈ (record queue event).trace, entry.Calm := by
  have hline : (Entry.logged event.logLine).Calm := by
    rw [Event.logLine, String.append_assoc]
    simp only [List.mem_cons, List.not_mem_nil, or_false] at h
    rcases h with h | h | h <;> rw [h] <;> exact Entry.calm_of_append (by decide) (by decide)
  refine List.forall_mem_cons.2 ⟨hline, List.forall_mem_cons.2
    ⟨Entry.calm_of_unalarming trivial, List.forall_mem_singleton.2 ?_⟩⟩
  split
  · exact Entry.calm_of_unalarming trivial
  · exact Entry.calm_of_text (by decide)

theorem heed_calm {notice : Notice} (memory : Memory) (h : notice.Worded) :
    ∀ entry ∈ (memory.heed notice).trace, entry.Calm := by
  cases notice with
  | lookedUp => exact List.forall_mem_nil _
  | recorded event =>
    simp only [Memory.heed, Traced.bind_trace, Traced.pure_trace, List.append_nil]
    exact record_calm memory.queue h
  | requested rule accepted =>
    cases accepted with
    | false => exact List.forall_mem_nil _
    | true =>
      simp only [Memory.heed, Memory.enforce, SyncRules.enforcementLog]
      split
      · exact List.forall_mem_nil _
      · exact List.forall_mem_singleton.2 (Entry.calm_of_unalarming Level.noConfusion)
  | warned text =>
    refine List.forall_mem_singleton.2 ?_
    obtain ⟨rest, rfl | rfl⟩ := h <;> exact Entry.calm_of_append (by decide) (by decide)

theorem heedAll_calm {notices : List Notice} (memory : Memory)
    (h : ∀ notice ∈ notices, notice.Worded) :
    ∀ entry ∈ (memory.heedAll notices).trace, entry.Calm := by
  induction notices generalizing memory with
  | nil => exact List.forall_mem_nil _
  | cons notice rest ih =>
    obtain ⟨hnotice, hrest⟩ := List.forall_mem_cons.1 h
    exact List.forall_mem_append.2 ⟨heed_calm memory hnotice, ih _ hrest⟩

/-- A pass warns of other things. -/
theorem pass_calm (o : Observer) (api : Api σ) (cluster : Cluster) (memory : Memory) :
    Confined api Entry.Calm (pass o api cluster memory) := by
  refine .bind (.lift (heedAll_calm memory (o.worded_observe cluster _ _))) fun memory => ?_
  split
  · exact .pure _
  · refine .bind ((publishChange_confined_unalarming ..).imp
      fun _ h => Entry.calm_of_unalarming h.2) fun result => ?_
    cases result with
    | error e => exact .pure _
    | ok _ =>
      refine .bind ((reconcile_unalarming _).imp fun _ h => Entry.calm_of_unalarming h)
        fun result => ?_
      cases result <;> exact .pure _

end Operator

end CloudFlags
