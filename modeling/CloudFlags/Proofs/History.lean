import CloudFlags.Proofs.Pass

/-! Pass after pass, with a cluster that changes in between and a server that others use as well.
The history of a run lists what each pass found, in order. What holds at the start and is kept by
every pass holds before each pass of the history, and it may speak of all the passes so far
(`history_induction`): for instance of the last pass that did something, and of what no pass did
since (`Since`). -/

namespace CloudFlags

/-- One item of a list is of a kind, and all that come after it are of another. -/
def Since {α : Type} (did keeps : α → Prop) (past : List α) : Prop :=
  ∃ before x after, past = before ++ x :: after ∧ did x ∧ ∀ y ∈ after, keeps y

namespace Since

variable {α : Type} {did keeps : α → Prop}

theorem not_nil : ¬ Since did keeps [] := by
  rintro ⟨before, x, after, h, -⟩
  cases before <;> cases h

theorem imp {did' : α → Prop} {past : List α} (h : Since did keeps past)
    (himp : ∀ x ∈ past, did x → did' x) : Since did' keeps past := by
  obtain ⟨before, x, after, rfl, hx, hafter⟩ := h
  exact ⟨before, x, after, rfl, himp x (by simp) hx, hafter⟩

theorem append_singleton_iff {past : List α} {x : α} :
    Since did keeps (past ++ [x]) ↔ did x ∨ Since did keeps past ∧ keeps x := by
  constructor
  · rintro ⟨before, y, after, h, hy, hafter⟩
    rcases List.eq_nil_or_concat after with rfl | ⟨after, z, rfl⟩
    · obtain ⟨-, hx⟩ := List.append_inj' h rfl
      cases hx
      exact .inl hy
    · rw [List.concat_eq_append] at h hafter
      have hsplit : past ++ [x] = (before ++ y :: after) ++ [z] := by simpa using h
      obtain ⟨hpast, hx⟩ := List.append_inj' hsplit rfl
      cases hx
      refine .inr ⟨⟨before, y, after, hpast, hy, fun w hw => hafter w ?_⟩, hafter x ?_⟩
      · exact List.mem_append_left _ hw
      · exact List.mem_append_right _ (List.mem_singleton.2 rfl)
  · rintro (hx | ⟨⟨before, y, after, rfl, hy, hafter⟩, hx⟩)
    · exact ⟨past, x, [], rfl, hx, fun _ h => absurd h List.not_mem_nil⟩
    · refine ⟨before, y, after ++ [x], by simp, hy, fun w hw => ?_⟩
      rcases List.mem_append.1 hw with hw | hw
      · exact hafter w hw
      · rwa [List.mem_singleton.1 hw]

theorem singleton_iff {x : α} : Since did keeps [x] ↔ did x := by
  rw [← List.nil_append [x], append_singleton_iff]
  exact or_iff_left fun h => not_nil h.1

end Since

section Trail

variable {ρ κ α : Type} (enter : ρ → κ → α) (leave : α → κ)

/-- What is found in some rounds, if each begins with what the one before it leaves. -/
def trail : κ → List ρ → List α
  | _, [] => []
  | s, round :: rest => enter round s :: trail (leave (enter round s)) rest

theorem length_trail (s : κ) (rounds : List ρ) :
    (trail enter leave s rounds).length = rounds.length := by
  induction rounds generalizing s with
  | nil => rfl
  | cons round rest ih => rw [trail, List.length_cons, List.length_cons, ih]

variable {enter leave} {rounds : List ρ}

/-- A property of what was found so far and of what it leaves, true at the start and kept in every
round, is true before each. -/
theorem trail_induction {P : List α → κ → Prop}
    (step : ∀ past s, P past s → ∀ round ∈ rounds,
      P (past ++ [enter round s]) (leave (enter round s)))
    {s : κ} (start : P [] s) {past later : List α} {x : α}
    (h : trail enter leave s rounds = past ++ x :: later) :
    ∃ s, P past s ∧ ∃ round ∈ rounds, x = enter round s := by
  -- by induction on the rounds to come, with what was found before given up to the property
  suffices aux : ∀ (todo : List ρ) (before : List α) (s : κ) (past), todo ⊆ rounds → P before s →
      trail enter leave s todo = past ++ x :: later →
      ∃ s, P (before ++ past) s ∧ ∃ round ∈ rounds, x = enter round s from
    aux rounds [] s past (List.Subset.refl _) start h
  intro todo
  induction todo with
  | nil =>
    intro before s past _ _ h
    exact absurd h.symm (by simp [trail])
  | cons round rest ih =>
    intro before s past hsub hP h
    obtain ⟨hround, hrest⟩ := List.cons_subset.1 hsub
    cases past with
    | nil =>
      obtain ⟨rfl, -⟩ := List.cons.inj h
      exact ⟨s, by simpa using hP, round, hround, rfl⟩
    | cons y past =>
      obtain ⟨rfl, htail⟩ := List.cons.inj h
      obtain ⟨final, hfinal, hx⟩ := ih _ _ past hrest (step before s hP round hround) htail
      exact ⟨final, by simpa using hfinal, hx⟩

end Trail

end CloudFlags

namespace CloudFlags.Operator

variable {σ : Type}

/-- What is new before a pass: the cluster, and what others have done to the server. -/
structure Round (σ : Type) where
  cluster : Cluster
  others : σ → σ

/-- What the pass of a round finds. -/
def Round.occasion (round : Round σ) (world : World σ) : Occasion σ :=
  ⟨round.cluster, world.memory, round.others world.server⟩

theorem Round.occasion_memory (round : Round σ) (world : World σ) :
    (round.occasion world).memory = world.memory := rfl

/-- The world after the passes of some rounds. -/
def World.through (o : Observer) (api : Api σ) (world : World σ) (rounds : List (Round σ)) :
    World σ :=
  rounds.foldl (fun w round => (round.occasion w).after o api) world

theorem World.through_concat {o : Observer} {api : Api σ} (world : World σ)
    (rounds : List (Round σ)) (round : Round σ) :
    world.through o api (rounds ++ [round]) =
      (round.occasion (world.through o api rounds)).after o api := by
  rw [through, List.foldl_append]
  rfl

variable (o : Observer) (api : Api σ)

/-- What the passes of some rounds find, in order. -/
def history : World σ → List (Round σ) → List (Occasion σ)
  | _, [] => []
  | world, round :: rest =>
    let x := round.occasion world
    x :: history (x.after o api) rest

variable {o api} {rounds : List (Round σ)}

/-- What holds at the start and is kept by every pass holds after any number of passes. -/
theorem World.through_induction {P : World σ → Prop}
    (step : ∀ world, P world → ∀ round ∈ rounds, P ((round.occasion world).after o api))
    {world : World σ} (start : P world) : P (world.through o api rounds) := by
  induction rounds generalizing world with
  | nil => exact start
  | cons round rest ih =>
    obtain ⟨hround, hrest⟩ := List.forall_mem_cons.1 fun round hround world h =>
      step world h round hround
    exact ih (fun world h round hround => hrest round hround world h) (hround world start)

theorem history_eq_trail (world : World σ) (rounds : List (Round σ)) :
    history o api world rounds = trail Round.occasion (Occasion.after o api) world rounds := by
  induction rounds generalizing world with
  | nil => rfl
  | cons round rest ih => rw [history, trail, ih]

/-- The passes in a history follow on one another: a property of the passes so far and of what they
leave, true at the start and kept by every pass, is true before each pass. -/
theorem history_induction {P : List (Occasion σ) → World σ → Prop}
    (step : ∀ past world, P past world → ∀ round ∈ rounds,
      P (past ++ [round.occasion world]) ((round.occasion world).after o api))
    {world : World σ} (start : P [] world) {past later : List (Occasion σ)} {x : Occasion σ}
    (h : history o api world rounds = past ++ x :: later) :
    ∃ world, P past world ∧ ∃ round ∈ rounds, x = round.occasion world :=
  trail_induction step start ((history_eq_trail world rounds).symm.trans h)

end CloudFlags.Operator
