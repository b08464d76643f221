import CloudFlags.Operator.Schedule
import CloudFlags.Proofs.History

/-! Turn after turn. A turn is a pass with what follows it: a wait, and the count of failures with
which the next turn begins. The turns of some rounds list what each of them finds, in order, and
what holds at the start and is kept by every turn holds before each (`turns_induction`). A window of
time is such turns as well: each begins as soon as the wait before it is over, and they go on until
the window is over (`exists_run_eq_timed`). -/

namespace CloudFlags.Operator

variable {σ : Type}

/-- What a turn finds: the occasion of its pass, and the failures in a row counted so far. -/
structure Turn (σ : Type) where
  occasion : Occasion σ
  failures : UInt32

namespace Turn

variable (settings : Settings) (api : Api σ) (t : Turn σ)

/-- The result of the pass. -/
def result : Except Error Unit := t.occasion.result settings.observer api

/-- What follows the pass. -/
def conclusion : Traced Entry (Wait × UInt32) :=
  conclude settings t.failures (t.result settings api)

/-- The wait after the turn. -/
def wait : Wait := (t.conclusion settings api).value.1

/-- The count of failures after the turn. -/
def failuresAfter : UInt32 := (t.conclusion settings api).value.2

/-- Everything that is done in the turn. -/
def outcome : Traced Entry ((Wait × Session) × σ) :=
  turn settings api t.occasion.cluster ⟨t.occasion.memory, t.failures⟩ t.occasion.server

/-- What the turn leaves to the next. -/
def session : Session := (t.outcome settings api).value.1.2

def server : σ := (t.outcome settings api).value.2

theorem outcome_eq :
    t.outcome settings api =
      let after := t.occasion.after settings.observer api
      ⟨((t.wait settings api, ⟨after.memory, t.failuresAfter settings api⟩), after.server),
        (t.occasion.outcome settings.observer api).trace ++
          ((t.conclusion settings api).trace ++
            [.logged ⟨.debug,
              "Next observation in " ++ toString (t.wait settings api).val ++ "s"⟩])⟩ := rfl

end Turn

/-- The turn of a round. -/
def Round.turn (round : Round σ) (session : Session) (server : σ) : Turn σ :=
  ⟨round.occasion ⟨session.memory, server⟩, session.failures⟩

variable (settings : Settings) (api : Api σ)

/-- The turns of some rounds, in order. -/
def turns (session : Session) (server : σ) (rounds : List (Round σ)) : List (Turn σ) :=
  trail (fun round (world : Session × σ) => round.turn world.1 world.2)
    (fun t => (t.session settings api, t.server settings api)) (session, server) rounds

theorem turns_cons (session : Session) (server : σ) (round : Round σ) (rest : List (Round σ)) :
    turns settings api session server (round :: rest) =
      let t := round.turn session server
      t :: turns settings api (t.session settings api) (t.server settings api) rest := rfl

theorem length_turns (session : Session) (server : σ) (rounds : List (Round σ)) :
    (turns settings api session server rounds).length = rounds.length :=
  length_trail ..

variable {settings api} {rounds : List (Round σ)}

/-- Turns follow on one another: a property of the turns so far and of what they leave, true at the
start and kept by every turn, is true before each turn. -/
theorem turns_induction {P : List (Turn σ) → Session → σ → Prop}
    (step : ∀ past session server, P past session server → ∀ round ∈ rounds,
      P (past ++ [round.turn session server]) ((round.turn session server).session settings api)
        ((round.turn session server).server settings api))
    {session : Session} {server : σ} (start : P [] session server) {past later : List (Turn σ)}
    {t : Turn σ} (run : turns settings api session server rounds = past ++ t :: later) :
    ∃ session server, P past session server ∧
      ∃ round ∈ rounds, t = round.turn session server := by
  obtain ⟨⟨session, server⟩, h, found⟩ :=
    trail_induction (P := fun past world => P past world.1 world.2)
      (fun past world => step past world.1 world.2) start run
  exact ⟨session, server, h, found⟩

/-! ### A window of time -/

section

variable (settings api) (clock : Clock)

/-- What is done in turns at which second, if the first begins at this one and every other as soon
as the wait before it is over. -/
def timed : Nat → List (Turn σ) → List TimedEntry
  | _, [] => []
  | now, t :: rest =>
    (t.outcome settings api).trace.map (⟨now, ·⟩) ++
      timed (now + clock.lasts (t.wait settings api)) rest

/-- The seconds from the first of some turns to the end of the wait after the last. -/
def elapsed : List (Turn σ) → Nat
  | [] => 0
  | t :: rest => clock.lasts (t.wait settings api) + elapsed rest

/-- The turns of a window of time, if the first begins at this second: each begins before the window
is over, and the wait after the last ends when it is. -/
structure Fills (window now : Nat) (ts : List (Turn σ)) : Prop where
  within : ∀ past t later, ts = past ++ t :: later →
    now + elapsed settings api clock past ≤ window
  ended : window < now + elapsed settings api clock ts

variable {settings api clock} {window now : Nat} {t : Turn σ} {ts : List (Turn σ)}

theorem Fills.nil (h : window < now) : Fills settings api clock window now [] where
  within past _ _ heq := absurd heq.symm (List.append_ne_nil_of_right_ne_nil past nofun)
  ended := h

theorem Fills.cons (h : now ≤ window)
    (rest : Fills settings api clock window (now + clock.lasts (t.wait settings api)) ts) :
    Fills settings api clock window now (t :: ts) where
  within past u later heq := by
    cases past with
    | nil => exact h
    | cons v past =>
      rw [List.cons_append, List.cons.injEq] at heq
      obtain ⟨rfl, hts⟩ := heq
      rw [elapsed, ← Nat.add_assoc]
      exact rest.within past u later hts
  ended := by
    rw [elapsed, ← Nat.add_assoc]
    exact rest.ended

end

/-- The round in which nothing is new. -/
def Round.unchanged (cluster : Cluster) : Round σ := ⟨cluster, id⟩

variable (settings api) (clock : Clock)

theorem exists_runFrom_eq_timed (cluster : Cluster) (window now : Nat) (session : Session)
    (server : σ) :
    ∃ n, let ts := turns settings api session server (List.replicate n (Round.unchanged cluster))
      Fills settings api clock window now ts ∧
        (runFrom settings api clock cluster window now session server).trace =
          timed settings api clock now ts := by
  fun_induction runFrom settings api clock cluster window now session server with
  | case1 now session server hnow step next rest ih =>
    obtain ⟨n, hfills, htrace⟩ := ih
    refine ⟨n + 1, ?_⟩
    rw [List.replicate_succ, turns_cons]
    exact ⟨hfills.cons hnow, congrArg (step.trace.map (⟨now, ·⟩) ++ ·) htrace⟩
  | case2 now session server hnow => exact ⟨0, Fills.nil (Nat.lt_of_not_le hnow), rfl⟩

/-- A window of time is the turns that fill it, over a cluster that stays as it is. -/
theorem exists_run_eq_timed (cluster : Cluster) (window : Nat) (session : Session) (server : σ) :
    ∃ n, let ts := turns settings api session server (List.replicate n (Round.unchanged cluster))
      Fills settings api clock window 0 ts ∧
        (run settings api clock cluster window session server).trace =
          timed settings api clock 0 ts :=
  exists_runFrom_eq_timed settings api clock cluster window 0 session server

end CloudFlags.Operator
