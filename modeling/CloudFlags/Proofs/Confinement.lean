import CloudFlags.Operator.Pass

/-! Work with a server that keeps to some kind of entries: everything in its trace is of that kind,
and the server changes by nothing but the requests in the trace. What such requests leave alone, the
work leaves alone. Publishing keeps to writing its config map. Carrying out rules keeps to reading
their sources and to writing or removing their destinations, and fails with nothing but a request
that failed. Neither of the two warns of anything. -/

namespace CloudFlags

open Api Resource

namespace Exchange

variable {σ α β κ : Type} {api : Api σ} {Q : Entry → Prop}

/-- The work leaves only entries of a kind, and reaches the server by the requests among them. -/
inductive Confined (api : Api σ) (Q : Entry → Prop) : {α : Type} → Exchange σ α → Prop where
  | pure {α : Type} (a : α) : Confined api Q (pure a : Exchange σ α)
  | lift {α : Type} {t : Traced Entry α} (h : ∀ entry ∈ t.trace, Q entry) :
    Confined api Q (lift t)
  | send {request : Request} (h : ∀ reply, Q (.sent request reply)) :
    Confined api Q (send api request)
  | bind {α β : Type} {work : Exchange σ α} {next : α → Exchange σ β}
    (first : Confined api Q work) (then_ : ∀ a, Confined api Q (next a)) :
    Confined api Q (work >>= next)

namespace Confined

theorem trace {work : Exchange σ α} (h : Confined api Q work) (s : σ) :
    ∀ entry ∈ (work s).trace, Q entry := by
  induction h generalizing s with
  | pure a => exact fun entry hm => absurd hm List.not_mem_nil
  | lift ht => exact ht
  | send hr =>
    intro entry hm
    rw [List.mem_singleton.1 hm]
    exact hr _
  | bind _ _ ih ih' =>
    intro entry hm
    rcases List.mem_append.1 hm with hm | hm
    · exact ih s entry hm
    · exact ih' _ _ entry hm

/-- What none of the requests changes is the same after the work. -/
theorem preserves {held : σ → κ}
    (leaves : ∀ request reply s, Q (.sent request reply) →
      held (api.answer request s).2 = held s)
    {work : Exchange σ α} (h : Confined api Q work) (s : σ) :
    held (work s).value.2 = held s := by
  induction h generalizing s with
  | pure a => rfl
  | lift _ => rfl
  | @send request hr => exact leaves request (api.answer request s).1 s (hr _)
  | bind _ _ ih ih' => exact (ih' _ _).trans (ih s)

/-- Work that keeps to a kind of entries keeps to any wider kind. -/
theorem imp {R : Entry → Prop} {work : Exchange σ α} (h : Confined api Q work)
    (himp : ∀ entry, Q entry → R entry) : Confined api R work := by
  induction h with
  | pure a => exact .pure a
  | lift ht => exact .lift fun entry hm => himp entry (ht entry hm)
  | send hr => exact .send fun reply => himp _ (hr reply)
  | bind _ _ ih ih' => exact .bind ih ih'

theorem log {level : Level} {text : String} (h : Q (.logged ⟨level, text⟩)) :
    Confined api Q (log level text) :=
  .lift fun _ hm => List.mem_singleton.1 hm ▸ h

theorem count {counter : Counter} (h : Q (.counted counter)) : Confined api Q (count counter) :=
  .lift fun _ hm => List.mem_singleton.1 hm ▸ h

theorem ask {request : Request} {shape : Json.Shape α} (h : ∀ reply, Q (.sent request reply)) :
    Confined api Q (ask api request shape) := by
  rw [Exchange.ask]
  split
  · exact .pure _
  · exact .bind (.send h) fun _ => .pure _

theorem readMap {location : Location} (h : ∀ reply, Q (.sent (.readMap location) reply)) :
    Confined api Q (readMap api location) := by
  refine .bind (.ask h) fun answer => ?_
  cases answer <;> exact .pure _

end Confined

/-- Whatever the server does, what the work comes to has a property. -/
def Returns (P : α → Prop) (work : Exchange σ α) : Prop := ∀ s, P (work s).value.1

namespace Returns

variable {P : α → Prop} {R : β → Prop} {work : Exchange σ α} {next : α → Exchange σ β}

theorem pure {a : α} (h : P a) : Returns P (Pure.pure a : Exchange σ α) := fun _ => h

theorem bind (first : Returns P work) (then_ : ∀ a, P a → Returns R (next a)) :
    Returns R (work >>= next) := fun s => then_ _ (first s) _

/-- What comes last decides. -/
theorem andThen (then_ : ∀ a, Returns R (next a)) : Returns R (work >>= next) :=
  fun _ => then_ _ _

end Returns

end Exchange

/-- The entry is no warning. -/
def Entry.Unalarming : Entry → Prop
  | .logged line => line.level ≠ .warn
  | _ => True

/-! ### Publishing -/

/-- The entries of publishing to a config map: it is written, lines are logged, and failures are
counted. -/
def Entry.PublishesTo (location : Location) : Entry → Prop
  | .sent (.applyMap written _) _ => written = location
  | .sent _ _ => False
  | .logged _ => True
  | .counted .patchErrors => True
  | .counted _ => False
  | .recorded _ => False

theorem Operator.publishChange_confined_unalarming {σ : Type} {api : Api σ} (space : String)
    (old new : Json) :
    Exchange.Confined api
      (fun entry => entry.PublishesTo ⟨space, publishedName⟩ ∧ entry.Unalarming)
      (publishChange api space old new) := by
  rw [publishChange]
  split
  · exact .pure _
  · refine .bind (.bind (.ask fun _ => ⟨rfl, trivial⟩) fun answer => ?_) fun result => ?_
    · cases answer with
      | ok _ => exact .pure _
      | error failure => exact .bind (.count ⟨trivial, trivial⟩) fun _ => .pure _
    · cases result with
      | ok _ => exact .bind (.log ⟨trivial, Level.noConfusion⟩) fun _ => .pure _
      | error e => exact .pure _

/-- Publishing keeps to the config map for the tree. -/
theorem Operator.publishChange_confined {σ : Type} {api : Api σ} (space : String)
    (old new : Json) :
    Exchange.Confined api (Entry.PublishesTo ⟨space, publishedName⟩)
      (publishChange api space old new) :=
  (publishChange_confined_unalarming space old new).imp fun _ h => h.1

/-! ### Carrying out rules -/

/-- The entries of carrying out some rules: their sources are read, their destinations written or
removed, lines are logged, and the results and failures of rules are counted. -/
def Entry.CarriesOut (rules : List SyncRule) : Entry → Prop
  | .sent (.readMap location) _ => ∃ rule ∈ rules, rule.source = location
  | .sent (.removeMap location) _ => ∃ rule ∈ rules, rule.destination = location
  | .sent (.applyMap location _) _ => ∃ rule ∈ rules, rule.destination = location
  | .sent _ _ => False
  | .logged _ => True
  | .counted (.syncs _) => True
  | .counted .patchErrors => True
  | .counted .deleteErrors => True
  | .counted _ => False
  | .recorded _ => False

/-- An entry of that kind which is no warning. -/
def Entry.CarriesOutUnalarming (rules : List SyncRule) (entry : Entry) : Prop :=
  entry.CarriesOut rules ∧ entry.Unalarming

namespace Operator

open Exchange

variable {σ : Type} {api : Api σ}

theorem removeCopy_confined {rules : List SyncRule} {rule : SyncRule} (h : rule ∈ rules) :
    Confined api (Entry.CarriesOutUnalarming rules) (removeCopy api rule.destination) := by
  refine .bind (.ask fun _ => ⟨⟨rule, h, rfl⟩, trivial⟩) fun answer => ?_
  cases answer with
  | ok _ => exact .bind (.log ⟨trivial, Level.noConfusion⟩) fun _ => .pure _
  | error failure =>
    show Confined api _ (if failure.isGone then _ else _)
    split
    · exact .pure _
    · exact .bind (.count ⟨trivial, trivial⟩) fun _ => .pure _

theorem writeCopy_confined {rules : List SyncRule} {rule : SyncRule} (h : rule ∈ rules)
    (contents : Contents) :
    Confined api (Entry.CarriesOutUnalarming rules) (writeCopy api rule contents) := by
  refine .bind (.ask fun _ => ⟨⟨rule, h, rfl⟩, trivial⟩) fun answer => ?_
  cases answer with
  | ok _ => exact .bind (.log ⟨trivial, Level.noConfusion⟩) fun _ => .pure _
  | error failure => exact .bind (.count ⟨trivial, trivial⟩) fun _ => .pure _

theorem readSource_confined {rules : List SyncRule} {rule : SyncRule} (h : rule ∈ rules) :
    Confined api (Entry.CarriesOutUnalarming rules) (readSource api rule.source) := by
  rw [readSource]
  split
  · exact .pure _
  · exact .readMap fun _ => ⟨⟨rule, h, rfl⟩, trivial⟩

theorem carryOut_confined {rules : List SyncRule} {rule : SyncRule} (h : rule ∈ rules) :
    Confined api (Entry.CarriesOutUnalarming rules) (carryOut api rule) := by
  refine .bind (readSource_confined h) fun source => ?_
  match source with
  | .error _ => exact .pure _
  | .ok none => exact removeCopy_confined h
  | .ok (some map) => exact writeCopy_confined h map.contents

theorem carryOutAll_confined {rules todo : List SyncRule} (h : todo ⊆ rules) :
    Confined api (Entry.CarriesOutUnalarming rules) (carryOutAll api todo) := by
  induction todo with
  | nil => exact .pure _
  | cons rule rest ih =>
    obtain ⟨hrule, hrest⟩ := List.cons_subset.1 h
    refine .bind (carryOut_confined hrule) fun result => ?_
    cases result with
    | error e => exact .bind (.count ⟨trivial, trivial⟩) fun _ => .pure _
    | ok _ => exact .bind (.count ⟨trivial, trivial⟩) fun _ => ih hrest

/-- Carrying out the rules in force keeps to their sources and destinations. -/
theorem reconcile_confined (rules : SyncRules) :
    Confined api (Entry.CarriesOut rules.toList) (reconcile api rules) :=
  (carryOutAll_confined (List.Subset.refl _)).imp fun _ h => h.1

theorem reconcile_unalarming (rules : SyncRules) :
    Confined api Entry.Unalarming (reconcile api rules) :=
  (carryOutAll_confined (List.Subset.refl rules.toList)).imp fun _ h => h.2

/-! ### How carrying out rules fails -/

/-- The failure, if any, is one of a request. -/
def FailsByRequest (result : Except Error Unit) : Prop :=
  ∀ e, result = .error e → ∃ failure, e = .api failure

theorem failsByRequest_ok : FailsByRequest (.ok ()) := fun _ h => nomatch h

theorem failsByRequest_api (failure : Failure) : FailsByRequest (.error (.api failure)) := by
  intro e h
  cases h
  exact ⟨failure, rfl⟩

theorem removeCopy_returns (destination : Location) :
    Returns FailsByRequest (removeCopy api destination) := by
  refine .andThen fun answer => ?_
  cases answer with
  | ok _ => exact .andThen fun _ => .pure failsByRequest_ok
  | error failure =>
    show Returns _ (if failure.isGone then _ else _)
    split
    · exact .pure failsByRequest_ok
    · exact .andThen fun _ => .pure (failsByRequest_api failure)

theorem writeCopy_returns (rule : SyncRule) (contents : Contents) :
    Returns FailsByRequest (writeCopy api rule contents) := by
  refine .andThen fun answer => ?_
  cases answer with
  | ok _ => exact .andThen fun _ => .pure failsByRequest_ok
  | error failure => exact .andThen fun _ => .pure (failsByRequest_api failure)

theorem carryOut_returns (rule : SyncRule) : Returns FailsByRequest (carryOut api rule) := by
  refine .andThen fun source => ?_
  match source with
  | .error failure => exact .pure (failsByRequest_api failure)
  | .ok none => exact removeCopy_returns rule.destination
  | .ok (some map) => exact writeCopy_returns rule map.contents

theorem carryOutAll_returns (rules : List SyncRule) :
    Returns FailsByRequest (carryOutAll api rules) := by
  induction rules with
  | nil => exact .pure failsByRequest_ok
  | cons rule rest ih =>
    refine .bind (carryOut_returns rule) fun result hresult => ?_
    cases result with
    | error e => exact .andThen fun _ => .pure hresult
    | ok _ => exact .andThen fun _ => ih

/-- Carrying out rules fails with a request that failed, and with nothing else. -/
theorem reconcile_returns (rules : SyncRules) : Returns FailsByRequest (reconcile api rules) :=
  carryOutAll_returns rules.toList

end Operator

end CloudFlags
