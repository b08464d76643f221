import CloudFlags.Proofs.Backing
import CloudFlags.Proofs.Serving
import CloudFlags.Proofs.Talk

/-! What passes have to do with config maps. Whatever the server answers, a pass reads no config map
but a source, writes none but the published tree and the operand's copy, and removes none but the
copy. What carries this is a rule table with no other destination than the copy and no other source
than nowhere, the config map that the cluster maintains and those of the administrator
(`Observer.CopiesSources`). So where requests reach the config maps that they are made for, a server
on which a config map changes only by a request that addresses it keeps everything but these two as
it was (`touches_own_only`). -/

namespace CloudFlags

open Api Resource

/-! ### Sources -/

/-- Where the operand's copy can be made from: nowhere, the config map that the cluster maintains,
or one of the administrator's. -/
def ConfigSource.IsSource (l : Location) : Prop :=
  l = .nowhere ∨ l = managed.location ∨ ∃ name, name ≠ "" ∧ l = ⟨userSpace, name⟩

theorem ConfigSource.isSource_locationOf_choose? (provider : Option InTreeProvider)
    (managedExists : Bool) (reference : FileReference) :
    IsSource (locationOf (choose? provider managedExists reference)) := by
  cases hchosen : choose? provider managedExists reference with
  | none => exact .inl rfl
  | some source =>
    obtain ⟨⟨-, hsome⟩, rfl⟩ := choose?_eq_some_iff.1 hchosen
    cases managedExists with
    | true => exact .inr (.inl rfl)
    | false => exact .inr (.inr ⟨reference.name, hsome.resolve_left Bool.false_ne_true, rfl⟩)

/-- The rules make the operand's copy and nothing else, from a source. -/
def Observer.CopiesSources (o : Observer) (rules : SyncRules) : Prop :=
  ∀ rule ∈ rules.toList, rule.destination = o.copyLocation ∧ ConfigSource.IsSource rule.source

theorem Observer.copiesSources_empty (o : Observer) : o.CopiesSources Table.empty :=
  fun _ h => absurd h List.not_mem_nil

/-! ### Requests -/

/-- A request of a pass: a source is read, the operand's copy is written or removed, the tree is
published. -/
def Api.Request.OfPass (o : Observer) : Request → Prop
  | .readMap location => ConfigSource.IsSource location
  | .removeMap location => location = o.copyLocation
  | .applyMap location _ =>
    location = o.copyLocation ∨ location = ⟨o.space, Operator.publishedName⟩
  | .applyFlowControl _ => False
  | .createEvent _ => False

/-- What is held of a config map changes on no request but one that addresses it. -/
def ActsWhereAddressed {σ κ : Type} (api : Api σ) (held : σ → Location → κ) : Prop :=
  ∀ request s l, request.Spares l → held (api.answer request s).2 l = held s l

namespace Operator

open Exchange

variable {σ κ : Type} {o : Observer} {api : Api σ}

namespace Occasion

variable {x : Occasion σ}

theorem copiesSources_remembered (h : o.CopiesSources x.memory.rules) :
    o.CopiesSources (x.remembered o).rules := by
  intro rule hrule
  rcases mem_rules_remembered hrule with hold | ⟨i, managed, rfl⟩
  · exact h rule hold
  · exact ⟨rfl, ConfigSource.isSource_locationOf_choose? _ _ _⟩

theorem copiesSources_after (h : o.CopiesSources x.memory.rules) :
    o.CopiesSources (x.after o api).memory.rules := by
  rw [rules_after]
  exact copiesSources_remembered h

/-! ### One pass -/

theorem ofPass_of_mem_publication {request : Request} {reply : Reply}
    (h : (request, reply) ∈ talk (x.publication o api).trace) : request.OfPass o := by
  have hpublishes : Entry.PublishesTo ⟨o.space, publishedName⟩ (.sent request reply) :=
    (publishChange_confined o.space _ _).trace x.server _ (mem_talk.1 h)
  cases request with
  | applyMap location contents => exact .inr hpublishes
  | _ => exact hpublishes.elim

theorem ofPass_of_mem_reconciliation (copies : o.CopiesSources x.memory.rules)
    {request : Request} {reply : Reply}
    (h : (request, reply) ∈ talk (x.reconciliation o api).trace) : request.OfPass o := by
  have copies := copiesSources_remembered copies
  have hcarries : Entry.CarriesOut (x.remembered o).rules.toList (.sent request reply) :=
    (reconcile_confined _).trace _ _ (mem_talk.1 h)
  cases request with
  | readMap location =>
    obtain ⟨rule, hrule, rfl⟩ := hcarries
    exact (copies rule hrule).2
  | removeMap location =>
    obtain ⟨rule, hrule, rfl⟩ := hcarries
    exact (copies rule hrule).1
  | applyMap location contents =>
    obtain ⟨rule, hrule, rfl⟩ := hcarries
    exact .inl (copies rule hrule).1
  | applyFlowControl => exact hcarries.elim
  | createEvent => exact hcarries.elim

/-- A pass sends no request but its own. -/
theorem ofPass_of_mem_talk (copies : o.CopiesSources x.memory.rules) {request : Request}
    {reply : Reply} (h : (request, reply) ∈ talk (x.outcome o api).trace) : request.OfPass o := by
  by_cases hp : x.Publishes o api
  · rw [talk_outcome_of_publishes hp] at h
    rcases List.mem_append.1 h with h | h
    · exact ofPass_of_mem_publication h
    · exact ofPass_of_mem_reconciliation copies h
  · rw [talk_outcome_of_not_publishes hp] at h
    exact ofPass_of_mem_publication h

/-- A pass leaves alone what is neither the published tree nor the operand's copy. -/
theorem held_after {held : σ → Location → κ} (acts : ActsWhereAddressed api held)
    (addresses : o.Addresses) (copies : o.CopiesSources x.memory.rules) {l : Location}
    (uncopied : l ≠ o.copyLocation) (unpublished : l ≠ ⟨o.space, publishedName⟩) :
    held (x.after o api).server l = held x.server l := by
  have publishing : Request.addressed? ⟨o.space, publishedName⟩ ≠ some l :=
    fun h => unpublished (addresses.published l h)
  have copying : ∀ rule ∈ (x.remembered o).rules.toList,
      Request.addressed? rule.destination ≠ some l := by
    intro rule hrule h
    rw [(copiesSources_remembered copies rule hrule).1] at h
    exact uncopied (addresses.copy l h)
  let kept : σ → κ := fun s => held s l
  have leaves : ∀ request reply s, Entry.Spares l (.sent request reply) →
      kept (api.answer request s).2 = kept s :=
    fun request _ s h => acts request s l h
  have published : held (x.publication o api).value.2 l = held x.server l :=
    (publishChange_spares publishing _ _).preserves leaves x.server
  by_cases h : x.Publishes o api
  · rw [after_of_publishes h, ← published]
    exact (reconcile_spares copying).preserves leaves _
  · rw [after_of_not_publishes h, published]

end Occasion

/-! ### Any number of passes -/

theorem copiesSources_through (start : World σ) (copies : o.CopiesSources start.memory.rules)
    (rounds : List (Round σ)) : o.CopiesSources (start.through o api rounds).memory.rules :=
  World.through_induction (P := fun world => o.CopiesSources world.memory.rules)
    (fun _ h _ _ => Occasion.copiesSources_after h) copies

/-- A config map that neither the passes are about nor anyone else changes stays as it was. -/
theorem held_through {held : σ → Location → κ} (acts : ActsWhereAddressed api held)
    (addresses : o.Addresses) {start : World σ} (copies : o.CopiesSources start.memory.rules)
    {l : Location} (uncopied : l ≠ o.copyLocation) (unpublished : l ≠ ⟨o.space, publishedName⟩)
    {rounds : List (Round σ)} (alone : ∀ r ∈ rounds, ∀ s, held (r.others s) l = held s l) :
    held (start.through o api rounds).server l = held start.server l := by
  have kept : o.CopiesSources (start.through o api rounds).memory.rules ∧
      held (start.through o api rounds).server l = held start.server l := by
    refine World.through_induction
      (P := fun world => o.CopiesSources world.memory.rules ∧
        held world.server l = held start.server l)
      (fun world h round hround => ⟨Occasion.copiesSources_after h.1, ?_⟩) ⟨copies, rfl⟩
    rw [Occasion.held_after acts addresses h.1 uncopied unpublished, ← h.2]
    exact alone round hround world.server
  exact kept.2

/-- Whatever the cluster comes to and the server answers, a pass of an operator that was started
without rules sends no request but its own, and knows no rule but for the operand's copy. If its
requests reach the config maps that they are made for, it leaves every config map but the two of the
operand as it is; and one that no one else changes is to the end what it was at the start. -/
theorem touches_own_only (o : Observer) (api : Api σ) {held : σ → Location → κ}
    (acts : ActsWhereAddressed api held) (tree : Json) (queue : EventQueue) (server : σ)
    (rounds : List (Round σ)) (round : Round σ) :
    let start : World σ := ⟨⟨tree, Table.empty, queue⟩, server⟩
    let x := round.occasion (start.through o api rounds)
    (∀ request reply, .sent request reply ∈ (x.outcome o api).trace → request.OfPass o) ∧
      o.CopiesSources (x.after o api).memory.rules ∧
      (o.Addresses → ∀ l, l ≠ o.copyLocation → l ≠ ⟨o.space, publishedName⟩ →
        held (x.after o api).server l = held x.server l ∧
          ((∀ r ∈ rounds ++ [round], ∀ s, held (r.others s) l = held s l) →
            held (x.after o api).server l = held start.server l)) := by
  intro start x
  have copies : o.CopiesSources x.memory.rules :=
    copiesSources_through start o.copiesSources_empty rounds
  refine ⟨fun request reply h => Occasion.ofPass_of_mem_talk copies (mem_talk.2 h),
    Occasion.copiesSources_after copies, fun addresses l uncopied unpublished =>
      ⟨Occasion.held_after acts addresses copies uncopied unpublished, fun alone => ?_⟩⟩
  have last : x.after o api = start.through o api (rounds ++ [round]) :=
    (start.through_concat rounds round).symm
  rw [last]
  exact held_through acts addresses o.copiesSources_empty uncopied unpublished alone

section Outage

open Scenario

theorem actsWhereAddressed_lossyServer :
    ActsWhereAddressed LossyServer.api fun server l => server.store.find? l :=
  fun _ _ _ h => Store.find?_answer_of_spares h

/-- The config map that the administrator names. -/
def adminLocation : Location := ⟨ConfigSource.userSpace, "cloud-provider-config"⟩

/-- A server with nothing but that. -/
def adminServer : LossyServer :=
  { store := Table.empty.insert adminLocation ⟨some Json.empty, none, none⟩ }

/-- An outage costs the administrator nothing: the config map that was copied stays, though at last
the copy is removed. -/
theorem touches_own_only_outage :
    let start : World LossyServer := ⟨⟨Json.empty, Table.empty, {}⟩, adminServer⟩
    let x := gatedRound.occasion
      (start.through standardObserver LossyServer.api [namedRound, clearedRound])
    (∀ request reply, .sent request reply ∈ (x.outcome standardObserver LossyServer.api).trace →
        request.OfPass standardObserver) ∧
      (x.after standardObserver LossyServer.api).server.store.find? adminLocation =
        some ⟨some Json.empty, none, none⟩ := by
  dsimp only
  obtain ⟨requests, -, others⟩ := touches_own_only standardObserver LossyServer.api
    actsWhereAddressed_lossyServer Json.empty {} adminServer [namedRound, clearedRound] gatedRound
  have alone : ∀ r ∈ [namedRound, clearedRound] ++ [gatedRound], ∀ server : LossyServer,
      (r.others server).store.find? adminLocation = server.store.find? adminLocation := by
    intro r hr server
    simp only [List.cons_append, List.nil_append, List.mem_cons, List.not_mem_nil, or_false] at hr
    rcases hr with rfl | rfl | rfl <;> rfl
  have addresses : standardObserver.Addresses := Observer.addresses_of_space (by decide)
  have stays := (others addresses adminLocation (by decide) (by decide)).2 alone
  have there : adminServer.store.find? adminLocation = some ⟨some Json.empty, none, none⟩ :=
    Table.find?_insert_self ..
  exact ⟨requests, stays.trans there⟩

end Outage

end Operator

end CloudFlags
