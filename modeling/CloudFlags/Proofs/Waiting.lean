import CloudFlags.Proofs.FailingStage
import CloudFlags.Proofs.Turns
import CloudFlags.Proofs.Warnings
import CloudFlags.Scenario.Life

/-! How long the operator waits after a turn. The failures in a row are counted in 32 bits, the delay
is computed in 64, and neither is ever felt: for as long as fewer than `UInt32.size` passes fail in a
row, the delay is the power of two that their number asks for, up to an hour, and from the eleventh
failure on every turn warns of it, which no pass does by itself (`wait_of_failures_in_row`). -/

namespace CloudFlags

/-! ### Delays -/

namespace Backoff

/-- The power is exact as far as 64 bits go, and beyond it is the most that they hold. -/
theorem power_eq (n : Nat) : power n = min most (Nat.pow 2 n) := by
  rw [power]
  split
  · have hp : Nat.pow 2 n ≤ Nat.pow 2 63 := Nat.pow_le_pow_right (by omega) (by omega)
    have hmost : Nat.pow 2 63 ≤ most := by decide
    omega
  · have hp : Nat.pow 2 64 ≤ Nat.pow 2 n := Nat.pow_le_pow_right (by omega) (by omega)
    have hmost : most ≤ Nat.pow 2 64 := by decide
    omega

theorem delay_mono {m n : Nat} (h : m ≤ n) : delay m ≤ delay n := by
  have hp : Nat.pow 2 (m + 1) ≤ Nat.pow 2 (n + 1) := Nat.pow_le_pow_right (by omega) (by omega)
  rw [delay_eq, delay_eq]
  omega

theorem delay_eq_longest_iff (n : Nat) : delay n = longest ↔ 11 ≤ n := by
  rw [delay_eq, longest]
  rcases Nat.lt_or_ge n 11 with hlt | hge
  · have hp : Nat.pow 2 (n + 1) ≤ Nat.pow 2 11 := Nat.pow_le_pow_right (by omega) (by omega)
    have h11 : Nat.pow 2 11 = 2048 := by decide
    omega
  · have hp : Nat.pow 2 12 ≤ Nat.pow 2 (n + 1) := Nat.pow_le_pow_right (by omega) (by omega)
    have h12 : Nat.pow 2 12 = 4096 := by decide
    omega

end Backoff

namespace Operator

variable {σ : Type}

/-! ### What follows a pass -/

theorem conclude_ok (settings : Settings) (failures : UInt32) :
    conclude settings failures (.ok ()) =
      ⟨(⟨settings.interval, settings.interval_pos⟩, 0), [.counted (.observations true)]⟩ := rfl

theorem conclude_error (settings : Settings) (failures : UInt32) (e : Error) :
    conclude settings failures (.error e) =
      let count := (failures + 1).toNat
      ⟨(⟨Backoff.delay count, Backoff.delay_pos count⟩, failures + 1),
        .counted (.observations false) :: .logged ⟨.error, "Observation failed: " ++ e.message⟩ ::
          if Backoff.delay count = Backoff.longest then [.logged (streakWarning count)] else []⟩ := by
  simp only [conclude]
  split <;> rfl

namespace Turn

variable (settings : Settings) (api : Api σ) (t : Turn σ)

/-- The pass of the turn fails. -/
def Fails : Prop := ∃ e, t.result settings api = .error e

variable {settings api t}

theorem conclusion_of_ok (h : t.result settings api = .ok ()) :
    t.conclusion settings api =
      ⟨(⟨settings.interval, settings.interval_pos⟩, 0), [.counted (.observations true)]⟩ := by
  rw [conclusion, h, conclude_ok]

theorem wait_of_fails (h : t.Fails settings api) :
    (t.wait settings api).val = Backoff.delay (t.failuresAfter settings api).toNat := by
  obtain ⟨e, h⟩ := h
  rw [wait, failuresAfter, conclusion, h, conclude_error]

theorem mem_conclusion_iff (n : Nat) :
    .logged (streakWarning n) ∈ (t.conclusion settings api).trace ↔
      n = (t.failuresAfter settings api).toNat ∧ 11 ≤ n := by
  have hcounted (ok : Bool) : Entry.logged (streakWarning n) ≠ .counted (.observations ok) :=
    Entry.noConfusion
  rw [failuresAfter, conclusion]
  cases t.result settings api with
  | ok _ =>
    rw [conclude_ok, List.mem_singleton, iff_false_left (hcounted true)]
    rintro ⟨rfl, h⟩
    exact Nat.not_succ_le_zero 10 h
  | error e =>
    have hlevel : Entry.logged (streakWarning n) ≠
        .logged ⟨.error, "Observation failed: " ++ e.message⟩ :=
      fun h => Level.noConfusion (congrArg LogLine.level (Entry.logged.inj h))
    rw [conclude_error, List.mem_cons, List.mem_cons, or_iff_right (hcounted false),
      or_iff_right hlevel]
    split
    · next hlongest =>
      rw [List.mem_singleton, Entry.logged.injEq, streakWarning_inj]
      rw [Backoff.delay_eq_longest_iff] at hlongest
      exact ⟨fun h => ⟨h, h ▸ hlongest⟩, fun h => h.1⟩
    · next hshort =>
      rw [Backoff.delay_eq_longest_iff] at hshort
      exact iff_of_false List.not_mem_nil fun h => hshort (h.1 ▸ h.2)

/-- The warning comes with every failure from the eleventh in a row on, and with nothing else. -/
theorem mem_outcome_iff (n : Nat) :
    .logged (streakWarning n) ∈ (t.outcome settings api).trace ↔
      n = (t.failuresAfter settings api).toNat ∧ 11 ≤ n := by
  have hpass : Entry.logged (streakWarning n) ∉ (t.occasion.outcome settings.observer api).trace :=
    fun h => (pass_calm ..).trace _ _ h n rfl
  have hlast (text : String) : Entry.logged (streakWarning n) ∉ [.logged ⟨.debug, text⟩] :=
    fun h => Level.noConfusion (congrArg LogLine.level (Entry.logged.inj (List.mem_singleton.1 h)))
  rw [outcome_eq, List.mem_append, or_iff_right hpass, List.mem_append, or_iff_left (hlast _),
    mem_conclusion_iff]

end Turn

/-! ### Failures in a row -/

section

variable (settings : Settings) (api : Api σ)

/-- How many turns at the end of the list have failed. -/
def streak (ts : List (Turn σ)) : Nat :=
  (ts.reverse.takeWhile fun t => !(t.result settings api).isOk).length

variable {settings api} {rounds : List (Round σ)} {past later : List (Turn σ)} {t : Turn σ}

theorem streak_concat_of_ok (h : t.result settings api = .ok ()) :
    streak settings api (past ++ [t]) = 0 := by
  rw [streak, List.reverse_append, List.reverse_singleton, List.singleton_append,
    List.takeWhile_cons_of_neg (by rw [h]; decide)]
  rfl

theorem streak_append {failing : List (Turn σ)} (h : ∀ t ∈ failing, t.Fails settings api) :
    streak settings api (past ++ failing) = streak settings api past + failing.length := by
  have hall : ∀ t ∈ failing.reverse, (!(t.result settings api).isOk) = true := by
    intro t ht
    obtain ⟨e, he⟩ := h t (List.mem_reverse.1 ht)
    rw [he]
    rfl
  rw [streak, List.reverse_append, List.takeWhile_append_of_pos hall, List.length_append,
    List.length_reverse, Nat.add_comm]
  rfl

theorem streak_concat_of_fails (h : t.Fails settings api) :
    streak settings api (past ++ [t]) = streak settings api past + 1 :=
  streak_append (List.forall_mem_singleton.2 h)

/-- The count goes with the failures in a row, as far as 32 bits go. -/
theorem Turn.failuresAfter_eq
    (h : t.failures.toNat = streak settings api past % UInt32.size) :
    (t.failuresAfter settings api).toNat = streak settings api (past ++ [t]) % UInt32.size := by
  cases hr : t.result settings api with
  | ok _ =>
    rw [failuresAfter, conclusion_of_ok hr, streak_concat_of_ok hr]
    rfl
  | error e =>
    rw [failuresAfter, conclusion, hr, conclude_error, streak_concat_of_fails ⟨e, hr⟩,
      UInt32.toNat_add, h]
    exact Nat.mod_add_mod ..

theorem failures_eq {memory : Memory} {server : σ}
    (run : turns settings api (Session.start memory) server rounds = past ++ t :: later) :
    t.failures.toNat = streak settings api past % UInt32.size := by
  obtain ⟨session, server, h, round, -, rfl⟩ :=
    turns_induction
      (P := fun past session _ => session.failures.toNat = streak settings api past % UInt32.size)
      (fun past session server h round _ => Turn.failuresAfter_eq h) rfl run
  exact h

theorem failuresAfter_eq_streak {memory : Memory} {server : σ}
    (run : turns settings api (Session.start memory) server rounds = past ++ t :: later)
    (few : streak settings api (past ++ [t]) < UInt32.size) :
    (t.failuresAfter settings api).toNat = streak settings api (past ++ [t]) := by
  rw [Turn.failuresAfter_eq (failures_eq run), Nat.mod_eq_of_lt few]

theorem wait_eq_delay_streak {memory : Memory} {server : σ}
    (run : turns settings api (Session.start memory) server rounds = past ++ t :: later)
    (few : streak settings api (past ++ [t]) < UInt32.size) (h : t.Fails settings api) :
    (t.wait settings api).val = Backoff.delay (streak settings api (past ++ [t])) := by
  rw [Turn.wait_of_fails h, failuresAfter_eq_streak run few]

/-- While turns fail, waits do not shrink. -/
theorem wait_le_of_fails {memory : Memory} {server : σ} {before between : List (Turn σ)}
    {y : Turn σ}
    (run : turns settings api (Session.start memory) server rounds =
      before ++ y :: between ++ t :: later)
    (few : streak settings api (before ++ y :: between ++ [t]) < UInt32.size)
    (hfail : ∀ z ∈ y :: between, z.Fails settings api) (h : t.Fails settings api) :
    (y.wait settings api).val ≤ (t.wait settings api).val := by
  have hlater : streak settings api (before ++ [y]) ≤
      streak settings api (before ++ y :: between ++ [t]) := by
    rw [streak_concat_of_fails h, streak_append hfail,
      streak_concat_of_fails (hfail y List.mem_cons_self), List.length_cons]
    omega
  have hy : turns settings api (Session.start memory) server rounds =
      before ++ y :: (between ++ t :: later) := by
    rw [run, List.append_assoc, List.cons_append]
  rw [wait_eq_delay_streak hy (Nat.lt_of_le_of_lt hlater few) (hfail y List.mem_cons_self),
    wait_eq_delay_streak run few h]
  exact Backoff.delay_mono hlater

end

/-- On a clock that keeps every wait the operator can ask for: a turn whose pass succeeds is followed
by the interval; one whose pass is the last of `k` that failed in a row, by two to the power of
`k + 1` seconds, but at most an hour, and with a warning from the eleventh on. -/
theorem wait_of_failures_in_row (settings : Settings) (api : Api σ) (clock : Clock)
    (memory : Memory) (server : σ) (punctual : clock.PunctualTo (max settings.interval 3600)) :
    (∀ (rounds : List (Round σ)) (past later : List (Turn σ)) (t : Turn σ) (k : Nat),
      turns settings api (Session.start memory) server rounds = past ++ t :: later →
      streak settings api (past ++ [t]) = k → k < UInt32.size →
        (t.result settings api = .ok () →
          k = 0 ∧ (t.wait settings api).val = settings.interval ∧
            clock.lasts (t.wait settings api) = settings.interval) ∧
        (∀ e, t.result settings api = .error e →
          1 ≤ k ∧ (t.wait settings api).val = min 3600 (Nat.pow 2 (k + 1)) ∧
            0 < (t.wait settings api).val ∧ (t.wait settings api).val ≤ 3600 ∧
            clock.lasts (t.wait settings api) = (t.wait settings api).val ∧
            (t.failuresAfter settings api).toNat = t.failures.toNat + 1 ∧
            ∀ before y between, past = before ++ y :: between →
              (∀ z ∈ y :: between, ∃ e, z.result settings api = .error e) →
              (y.wait settings api).val ≤ (t.wait settings api).val) ∧
        ∀ n, .logged (streakWarning n) ∈ (t.outcome settings api).trace ↔ n = k ∧ 11 ≤ k) ∧
    (∀ attempt : UInt32,
      Backoff.power attempt.toNat = min Backoff.most (Nat.pow 2 attempt.toNat) ∧
        Backoff.delay attempt.toNat = min 3600 (Nat.pow 2 (attempt.toNat + 1))) ∧
    ∀ cluster window, ∃ n,
      let ts := turns settings api (Session.start memory) server
        (List.replicate n (Round.unchanged cluster))
      Fills settings api clock window 0 ts ∧
        (run settings api clock cluster window (Session.start memory) server).trace =
          timed settings api clock 0 ts := by
  refine ⟨fun rounds past later t k hrun hk few => ?_,
    fun _ => ⟨Backoff.power_eq _, Backoff.delay_eq _⟩,
    fun cluster window => exists_run_eq_timed settings api clock cluster window _ server⟩
  subst hk
  have hcount := failuresAfter_eq_streak hrun few
  refine ⟨fun hok => ?_, fun e he => ?_, fun n => ?_⟩
  · have hwait : (t.wait settings api).val = settings.interval := by
      rw [Turn.wait, Turn.conclusion_of_ok hok]
    have hlasts := punctual (t.wait settings api) (by omega)
    exact ⟨streak_concat_of_ok hok, hwait, hlasts.trans hwait⟩
  · have hfails : t.Fails settings api := ⟨e, he⟩
    have hstreak : streak settings api (past ++ [t]) = streak settings api past + 1 :=
      streak_concat_of_fails hfails
    have hwait := wait_eq_delay_streak hrun few hfails
    have hle : (t.wait settings api).val ≤ 3600 := hwait ▸ Backoff.delay_le _
    refine ⟨by omega, hwait.trans (Backoff.delay_eq _), (t.wait settings api).property, hle,
      punctual _ (by omega), ?_, ?_⟩
    · rw [hcount, failures_eq hrun, hstreak, Nat.mod_eq_of_lt (by omega)]
    · rintro before y between rfl hfail
      exact wait_le_of_fails hrun few hfail hfails
  · rw [Turn.mem_outcome_iff, hcount]
    exact and_congr_right fun h => by rw [h]

section Outage

open Scenario

/-- Where a stage of the observation fails, the turn does. -/
theorem fails_of_mem_turns {settings : Settings} {api : Api σ} {rounds : List (Round σ)}
    (h : ∀ round ∈ rounds, ∃ stage e,
      settings.observer.FailsAt round.cluster SyncRule.check stage e)
    {session : Session} {server : σ} :
    ∀ t ∈ turns settings api session server rounds, t.Fails settings api := by
  induction rounds generalizing session server with
  | nil => exact List.forall_mem_nil _
  | cons round rest ih =>
    obtain ⟨⟨stage, e, hf⟩, hrest⟩ := List.forall_mem_cons.1 h
    have hfirst : (round.turn session server).Fails settings api :=
      Observer.exists_error_of_failsAt (x := round.occasion ⟨session.memory, server⟩) hf
    exact List.forall_mem_cons.2 ⟨hfirst, ih hrest⟩

/-- Eleven turns over a cluster with an unknown feature set. -/
def unknownTurns : List (Turn LossyServer) :=
  turns standardSettings LossyServer.api (Session.start Memory.initial) {}
    (List.replicate 11 (Round.unchanged (awsCache "" "Unknown").cluster))

/-- None of them succeeds, and after the eleventh the operator waits for an hour. -/
theorem wait_of_failures_in_row_unknownTurns :
    ∃ past t, unknownTurns = past ++ [t] ∧
      streak standardSettings LossyServer.api (past ++ [t]) = 11 ∧
      (t.wait standardSettings LossyServer.api).val = 3600 ∧
      skippingClock.lasts (t.wait standardSettings LossyServer.api) = 3600 ∧
      .logged (streakWarning 11) ∈ (t.outcome standardSettings LossyServer.api).trace := by
  have hfails : ∀ t ∈ unknownTurns, t.Fails standardSettings LossyServer.api := by
    refine fails_of_mem_turns fun round h => ?_
    rw [List.eq_of_mem_replicate h]
    exact ⟨_, _, failsAt_awsCache ""⟩
  have hlength : unknownTurns.length = 11 := length_turns ..
  have hk : streak standardSettings LossyServer.api unknownTurns = 11 := by
    rw [← List.nil_append unknownTurns, streak_append hfails, hlength]
    rfl
  obtain ⟨past, t, hts⟩ : ∃ past t, unknownTurns = past ++ [t] := by
    rcases List.eq_nil_or_concat unknownTurns with hnil | ⟨past, t, hts⟩
    · exact absurd (congrArg List.length hnil) (by rw [hlength]; decide)
    · exact ⟨past, t, hts.trans (List.concat_eq_append ..)⟩
  rw [hts] at hk
  obtain ⟨e, he⟩ := hfails t (hts ▸ List.mem_append_right _ (List.mem_singleton.2 rfl))
  have hpunctual : skippingClock.PunctualTo (max standardSettings.interval 3600) := by
    intro wait hle
    have hmost : max standardSettings.interval 3600 ≤ 946080000 := by decide
    exact Nat.min_eq_left (Nat.le_trans hle hmost)
  obtain ⟨-, hfailed, hwarned⟩ :=
    (wait_of_failures_in_row standardSettings LossyServer.api skippingClock Memory.initial {}
      hpunctual).1 _ past [] t 11 hts hk (by decide)
  obtain ⟨-, hwait, -, -, hlasts, -⟩ := hfailed e he
  exact ⟨past, t, hts, hk, hwait, hlasts.trans hwait, (hwarned 11).2 ⟨rfl, Nat.le_refl 11⟩⟩

end Outage

end Operator

end CloudFlags
