import CloudFlags.Cache
import CloudFlags.Proofs.History
import CloudFlags.Proofs.Outage

/-! A cluster that stays as it is. What an observation of it publishes is what the next one
publishes again, whatever the tree was before: after a failing stage because restricting a tree
twice is restricting it once, and otherwise because the tree is that of the flags, from which the
file can be read back (`rests_published`). So once a tree could be published, every pass over the
same objects is idle, and goes on being so (`idle_since_published`). -/

namespace CloudFlags

open Api Observation Resource

/-- The errors with which a pass ends. -/
def Error.reported : Error → List Error
  | .observation errors => errors
  | e => [e]

/-- The config map that a request writes or removes. -/
def Api.Request.written? : Request → Option Location
  | .removeMap location => some location
  | .applyMap location _ => some location
  | _ => none

namespace Observer

variable {o : Observer} {cache : Cache} {tree : Json}

/-- Observing the cluster changes nothing about a tree: it is published again, no change of the file
is recorded, and everything in it can be read. -/
structure Rests (o : Observer) (cluster : Cluster) (tree : Json) : Prop where
  published : (o.observe cluster SyncRule.check tree).value.published o.paths = tree
  unrecorded (event : Event) (h : .recorded event ∈ (o.observe cluster SyncRule.check tree).trace) :
    event.reason ≠ changeReason
  readable (path reason : String) :
    .undecodable path reason ∉ (o.observe cluster SyncRule.check tree).value.errors

/-- No stage fails for a cached cluster because of what a tree holds. -/
theorem ne_undecodable_of_failsAt {stage : Stage} {e : Error}
    (h : o.FailsAt cache.cluster SyncRule.check stage e) (path reason : String) :
    e ≠ .undecodable path reason := by
  cases h with
  | infrastructure failed => cases failed
  | featureGate => exact Error.noConfusion
  | externalProvider => exact Error.noConfusion
  | managedMap _ _ failed =>
    simp only [Cache.cluster, Cache.configMap] at failed
    split at failed
    · cases failed
    · cases failed
      exact Error.noConfusion
  | rule _ _ _ failed =>
    rw [SyncRule.check] at failed
    split at failed
    · cases failed
      exact Error.noConfusion
    · cases failed

theorem rests_of_missing (missing : cache.cluster.infrastructure = .ok none) :
    o.Rests cache.cluster (o.paths.treeOf none none) where
  published := published_of_missing missing _
  unrecorded event h := by
    rw [observe_of_missing missing] at h
    simp only [List.mem_cons, reduceCtorEq, Notice.recorded.injEq, List.not_mem_nil, or_false,
      false_or] at h
    rw [h]
    decide
  readable path reason h := by
    rw [observe_of_missing missing] at h
    cases h

theorem rests_of_failsAt {stage : Stage} {e : Error}
    (h : o.FailsAt cache.cluster SyncRule.check stage e) (existing : Json) :
    o.Rests cache.cluster (o.paths.restrict existing) where
  published := by
    rw [published_of_failsAt h]
    exact o.paths.restrict_restrict existing
  unrecorded event hn := precedesFailure_of_mem_trace h hn
  readable path reason he := by
    rw [observe_of_failsAt h] at he
    exact ne_undecodable_of_failsAt h path reason (List.mem_singleton.1 he).symm

/-- The file is read back from the tree in which it was published. -/
theorem settle_treeOf (u : Option Json) (name : Option String) (source : Option ConfigSource) :
    o.settle (o.paths.treeOf u (source.map fun source => Json.single source.file)) name source =
      ⟨{ flags := ⟨name, source.map ConfigSource.file⟩ }, []⟩ := by
  cases source with
  | none => rfl
  | some source =>
    have hlist := KeyPath.readList_single
      (o.paths.get?_config_treeOf u (some (Json.single source.file)))
    have hprevious : o.previousFile (o.paths.treeOf u (some (Json.single source.file))) =
        ⟨(some [source.file], []), []⟩ := by
      rw [previousFile, hlist]
      rfl
    rw [Option.map_some, settle_some, hprevious]
    simp only [↓reduceIte, List.append_nil, Option.map_some]

theorem rests_of_settles {i : Infrastructure} {external : Bool} {managed : Option ConfigMap}
    (h : o.Settles cache.cluster SyncRule.check i external managed) :
    o.Rests cache.cluster
      (o.paths.treeOf ((providerName external i.platform.inTree?).map Json.single)
        ((sourceFor i managed).map fun source => Json.single source.file)) where
  published := published_of_settles h _
  unrecorded event hn := by
    rw [observe_of_settles h, settle_treeOf] at hn
    simp only [List.mem_append, List.mem_cons, reduceCtorEq, List.not_mem_nil, or_false] at hn
    rcases hn with hn | hn
    · simp [firstLookups] at hn
    · rcases mem_platformNotices hn with ⟨event', heq, hreason⟩ | heq
      · cases heq
        rw [hreason]
        decide
      · cases heq
  readable path reason he := by
    rw [observe_of_settles h, settle_treeOf] at he
    cases he

/-- What an observation publishes is at rest. -/
theorem rests_published (o : Observer) (cache : Cache) (existing : Json) :
    o.Rests cache.cluster
      ((o.observe cache.cluster SyncRule.check existing).value.published o.paths) := by
  rcases o.observe_ends cache.cluster SyncRule.check with
    missing | ⟨stage, e, hf⟩ | ⟨i, external, managed, hs⟩
  · rw [published_of_missing missing]
    exact rests_of_missing missing
  · rw [published_of_failsAt hf]
    exact rests_of_failsAt hf existing
  · rw [published_of_settles hs]
    exact rests_of_settles hs

end Observer

/-! ### Idle passes -/

/-- An entry that is neither a write or removal of a config map, nor a change of the file. -/
def Entry.Still (location : Location) : Entry → Prop
  | .sent request _ => request.written? ≠ some location
  | .recorded event => event.reason ≠ changeReason
  | .counted (.events _ reason) => reason ≠ changeReason
  | _ => True

namespace Operator

variable {σ : Type} {o : Observer} {api : Api σ} {location : Location}

/-- To carry out rules, only their destinations are written. -/
theorem exists_destination_of_carriesOut {rules : List SyncRule} {request : Request}
    {reply : Reply} (h : Entry.CarriesOut rules (.sent request reply))
    (written : request.written? = some location) : ∃ rule ∈ rules, rule.destination = location := by
  cases request with
  | readMap => cases written
  | removeMap destination | applyMap destination =>
    cases written
    exact h
  | applyFlowControl | createEvent => exact h.elim

/-- Rules for other config maps leave this one alone. -/
theorem still_of_carriesOut {rules : List SyncRule} {entry : Entry}
    (other : ∀ rule ∈ rules, rule.destination ≠ location) (h : entry.CarriesOut rules) :
    entry.Still location := by
  cases entry with
  | sent request reply =>
    intro written
    obtain ⟨rule, hrule, hdestination⟩ := exists_destination_of_carriesOut h written
    exact other rule hrule hdestination
  | logged => trivial
  | counted counter =>
    cases counter with
    | events => exact h.elim
    | _ => trivial
  | recorded => exact h.elim

theorem still_of_mem_heed {memory : Memory} {notice : Notice} {entry : Entry}
    (unchanged : ∀ event, notice = .recorded event → event.reason ≠ changeReason)
    (h : entry ∈ (memory.heed notice).trace) : entry.Still location := by
  cases notice with
  | lookedUp => cases h
  | recorded event =>
    have hreason : event.reason ≠ changeReason := unchanged event rfl
    have hrecord : entry ∈ (record memory.queue event).trace := by
      simpa only [Memory.heed, Traced.bind_trace, Traced.pure_trace, List.append_nil] using h
    simp only [record, List.mem_cons, List.not_mem_nil, or_false] at hrecord
    rcases hrecord with rfl | rfl | rfl
    · trivial
    · exact hreason
    · split
      · exact hreason
      · trivial
  | requested rule accepted =>
    cases accepted with
    | false => cases h
    | true =>
      obtain ⟨line, -, rfl⟩ := List.mem_map.1 h
      trivial
  | warned text =>
    rw [List.mem_singleton.1 h]
    trivial

/-- Heeding notices that tell of no change leaves no other entries. -/
theorem still_of_mem_heedAll {memory : Memory} {notices : List Notice} {entry : Entry}
    (unchanged : ∀ event, .recorded event ∈ notices → event.reason ≠ changeReason)
    (h : entry ∈ (memory.heedAll notices).trace) : entry.Still location := by
  induction notices generalizing memory with
  | nil => cases h
  | cons notice rest ih =>
    rcases List.mem_append.1 h with h | h
    · exact still_of_mem_heed (fun event heq => unchanged event (heq ▸ List.mem_cons_self)) h
    · exact ih (fun event hevent => unchanged event (List.mem_cons_of_mem _ hevent)) h

theorem reported_of_verdict {errors : List Error} {e : Error} (h : verdict errors = .error e) :
    e.reported = errors := by
  cases errors with
  | nil => cases h
  | cons => cases h; rfl

/-- A pass that leaves the tree as it is, writes no tree, records no change of the file, and can
read everything. -/
structure Occasion.Idle (o : Observer) (api : Api σ) (x : Occasion σ) : Prop where
  tree : (x.after o api).memory.tree = x.memory.tree
  unwritten (request : Request) (reply : Reply)
    (h : .sent request reply ∈ (x.outcome o api).trace) :
    request.written? ≠ some ⟨o.space, publishedName⟩
  unrecorded (event : Event) (h : .recorded event ∈ (x.outcome o api).trace) :
    event.reason ≠ changeReason
  uncounted (type : EventType) (reason : String)
    (h : .counted (.events type reason) ∈ (x.outcome o api).trace) : reason ≠ changeReason
  readable (e : Error) (h : x.result o api = .error e) (path reason : String) :
    .undecodable path reason ∉ e.reported

namespace Occasion

variable {x : Occasion σ}

/-- Everything a pass does with a tree at rest. -/
theorem still_of_rests (copies : o.CopiesOnly x.memory.rules)
    (rests : o.Rests x.cluster x.memory.tree) {entry : Entry}
    (h : entry ∈ (x.outcome o api).trace) : entry.Still ⟨o.space, publishedName⟩ := by
  have htarget : x.target o = x.memory.tree := rests.published
  rw [outcome_of_publishes (publishes_of_target_eq htarget), publication_of_target_eq htarget] at h
  rcases List.mem_append.1 h with h | h
  · exact still_of_mem_heedAll rests.unrecorded h
  · refine still_of_carriesOut (fun rule hrule => ?_) ((reconcile_confined _).trace _ entry h)
    rw [copiesOnly_remembered copies rule hrule]
    have hname : Observer.copyName ≠ publishedName := by decide
    exact fun heq => hname (congrArg Location.name heq)

/-- A pass over a tree at rest is idle. -/
theorem idle_of_rests (copies : o.CopiesOnly x.memory.rules)
    (rests : o.Rests x.cluster x.memory.tree) : x.Idle o api where
  tree := by
    have htarget : x.target o = x.memory.tree := rests.published
    rw [tree_after_of_publishes (publishes_of_target_eq htarget), htarget]
  unwritten _ _ h := still_of_rests copies rests h
  unrecorded _ h := still_of_rests copies rests h
  uncounted _ _ h := still_of_rests copies rests h
  readable e he path reason := by
    have htarget : x.target o = x.memory.tree := rests.published
    rw [result_of_publishes (publishes_of_target_eq htarget)] at he
    cases hreconciled : (x.reconciliation o api).value.1 with
    | error e' =>
      simp only [hreconciled, Except.bind] at he
      cases he
      obtain ⟨failure, rfl⟩ := reconcile_returns _ _ e hreconciled
      exact fun h => nomatch List.mem_singleton.1 h
    | ok _ =>
      simp only [hreconciled, Except.bind] at he
      rw [reported_of_verdict he]
      exact rests.readable path reason

end Occasion

/-! ### Over a run -/

/-- What holds between passes: no rule is for another config map than the operand's copy, and if a
tree was published from the cached objects, which have been the same since, the tree is at rest. -/
structure Convergence (o : Observer) (cache : Cache) (api : Api σ) (past : List (Occasion σ))
    (world : World σ) : Prop where
  copies : o.CopiesOnly world.memory.rules
  rests (h : Since (fun y => y.Publishes o api ∧ y.cluster = cache.cluster)
    (fun y => y.cluster = cache.cluster) past) : o.Rests cache.cluster world.memory.tree

theorem Convergence.step {cache : Cache} {past : List (Occasion σ)} {world : World σ}
    {x : Occasion σ} (h : Convergence o cache api past world) (hx : x.memory = world.memory) :
    Convergence o cache api (past ++ [x]) (x.after o api) := by
  have copies : o.CopiesOnly x.memory.rules := hx ▸ h.copies
  refine ⟨Occasion.copiesOnly_after copies, fun hsince => ?_⟩
  -- the pass published its tree, or found one that is at rest already
  rcases Since.append_singleton_iff.1 hsince with ⟨hpublishes, hsame⟩ | ⟨hsince, hsame⟩
  · rw [Occasion.tree_after_of_publishes hpublishes, Occasion.target, Occasion.seen, hsame]
    exact o.rests_published cache x.memory.tree
  · have hrests : o.Rests cache.cluster x.memory.tree := by
      rw [hx]
      exact h.rests hsince
    rw [(Occasion.idle_of_rests copies (hsame ▸ hrests)).tree]
    exact hrests

/-- Once a tree could be published, every pass is idle for as long as the cached objects stay the
same. -/
theorem idle_since_published (o : Observer) (cache : Cache) (api : Api σ) {start : World σ}
    (copies : o.CopiesOnly start.memory.rules) {rounds : List (Round σ)}
    {past later : List (Occasion σ)} {x : Occasion σ}
    (run : history o api start rounds = past ++ x :: later)
    (published : Since (fun y => y.Publishes o api ∧ y.cluster = cache.cluster)
      (fun y => y.cluster = cache.cluster) past)
    (same : x.cluster = cache.cluster) : x.Idle o api := by
  obtain ⟨world, h, round, -, rfl⟩ := history_induction (P := Convergence o cache api)
    (fun _ _ h _ _ => h.step rfl) ⟨copies, fun h => absurd h Since.not_nil⟩ run
  refine Occasion.idle_of_rests h.copies ?_
  rw [same]
  exact h.rests published

/-! ### A steady cluster -/

section Steady

open Scenario

/-- The administrator names a config map, pass after pass. -/
def steadyRound : Round LossyServer := ⟨(awsCache "cloud-provider-config" "").cluster, id⟩

/-- Before the first pass, with a tree in which nothing can be read. -/
def garbledWorld : World LossyServer := ⟨⟨.str "garbled", Table.empty, {}⟩, {}⟩

def firstSteady : Occasion LossyServer := steadyRound.occasion garbledWorld

def secondSteady : Occasion LossyServer :=
  steadyRound.occasion (firstSteady.after standardObserver LossyServer.api)

/-- One pass is enough to get over such a tree. -/
theorem idle_secondSteady : secondSteady.Idle standardObserver LossyServer.api := by
  have run : history standardObserver LossyServer.api garbledWorld [steadyRound, steadyRound] =
      [firstSteady] ++ secondSteady :: [] := rfl
  have publishes : firstSteady.Publishes standardObserver LossyServer.api :=
    (LossyServer.publishes_iff (fault?_standardObserver _)).2 (.inr rfl)
  exact idle_since_published standardObserver (awsCache "cloud-provider-config" "") LossyServer.api
    (Observer.copiesOnly_empty _) run
    (Since.singleton_iff.2 ⟨publishes, rfl⟩) rfl

end Steady

end Operator

end CloudFlags
