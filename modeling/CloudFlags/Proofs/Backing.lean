import CloudFlags.Proofs.History
import CloudFlags.Proofs.Outage
import CloudFlags.Proofs.Sources

/-! The file that the published tree names, and the rule by which it is copied. A rule comes into
force as it is accepted, a tree only once it is published, and after a failing stage the old tree is
published again and the rules are carried out all the same. So a file can be named that no rule
copies, and there is exactly one way to it: a pass puts another rule in force but cannot publish its
tree, and then a stage of the next observations fails (`backed_iff_not_stranded`). What carries the
proof is what the last rule accepted says of the rules, and of the tree (`Backing`). -/

namespace CloudFlags

/-- A tree names this file for the configuration. -/
def FlagPaths.Names (paths : FlagPaths) (tree : Json) (file : String) : Prop :=
  paths.config.readSingle tree = .ok (some file)

namespace FlagPaths

variable {paths : FlagPaths} {file : String}

theorem names_restrict {tree : Json} :
    paths.Names (paths.restrict tree) file ↔ paths.Names tree file := by
  rw [Names, Names, KeyPath.readSingle_congr (paths.get?_config_restrict tree)]

theorem not_names_treeOf_none {u : Option Json} : ¬ paths.Names (paths.treeOf u none) file := by
  rw [Names, KeyPath.readSingle_none (paths.get?_config_treeOf u none)]
  exact fun h => nomatch h

theorem names_treeOf_single {u : Option Json} {named : String} :
    paths.Names (paths.treeOf u (some (Json.single named))) file ↔ named = file := by
  rw [Names, KeyPath.readSingle_single (paths.get?_config_treeOf u _), Except.ok.injEq,
    Option.some.injEq]

theorem not_names_empty : ¬ paths.Names Json.empty file := by
  rw [Names, KeyPath.readSingle_none (Json.get?_empty paths.config.keys_ne_nil)]
  exact fun h => nomatch h

end FlagPaths

/-- Every source chosen stands in a namespace. -/
theorem ConfigSource.somewhere_of_choose? {provider : Option InTreeProvider} {managedExists : Bool}
    {reference : Resource.FileReference} {source : ConfigSource}
    (h : choose? provider managedExists reference = some source) :
    source.location.isNowhere = false := by
  obtain ⟨-, rfl⟩ := choose?_eq_some_iff.1 h
  have hspace : (foremost managedExists reference).location.space.isEmpty = false := by
    simpa using space_foremost_ne_empty
  exact Bool.and_eq_false_imp.2 fun h => absurd h (by rw [hspace]; decide)

namespace Operator

open Resource

variable {σ : Type} {o : Observer} {api : Api σ}

namespace Occasion

/-! ### What an observation asks for -/

/-- The observation puts a rule for the operand's copy in force, with this source. -/
def Asks (o : Observer) (source : Location) (x : Occasion σ) : Prop :=
  Notice.requested ⟨o.copyLocation, source⟩ true ∈ (x.seen o).trace

/-- The observation puts no rule for the operand's copy in force. -/
def Silent (o : Observer) (x : Occasion σ) : Prop := ∀ source, ¬ x.Asks o source

/-- The observation asks for a source, and tells the operand to find it in a file. -/
def Chooses (o : Observer) (source : Location) (file : String) (x : Occasion σ) : Prop :=
  x.Asks o source ∧ (x.seen o).value.flags.configFile = some file

/-- A stage of the observation fails. -/
def Fails (o : Observer) (x : Occasion σ) : Prop :=
  ∃ stage e, o.FailsAt x.cluster SyncRule.check stage e

variable {x : Occasion σ} {source : Location} {file : String}

theorem asks_iff :
    x.Asks o source ↔
      ⟨o.copyLocation, source⟩ ∈ (x.seen o).trace.filterMap Notice.accepted? := by
  rw [Asks, List.mem_filterMap]
  constructor
  · exact fun h => ⟨_, h, rfl⟩
  · rintro ⟨notice, h, ha⟩
    cases notice with
    | requested rule accepted =>
      cases accepted with
      | true =>
        cases ha
        exact h
      | false => cases ha
    | _ => cases ha

theorem silent_of_accepted (h : (x.seen o).trace.filterMap Notice.accepted? = []) :
    x.Silent o := by
  intro source hs
  rw [asks_iff, h] at hs
  cases hs

theorem silent_of_fails (h : x.Fails o) : x.Silent o := by
  obtain ⟨stage, e, h⟩ := h
  exact silent_of_accepted (Observer.accepted_of_failsAt h _)

theorem asks_of_settles {i : Infrastructure} {external : Bool} {managed : Option ConfigMap}
    (h : o.Settles x.cluster SyncRule.check i external managed) :
    x.Asks o source ↔ source = ConfigSource.locationOf (Observer.sourceFor i managed) := by
  rw [asks_iff, seen, Observer.accepted_of_settles h, List.mem_singleton, Observer.copyRule,
    SyncRule.mk.injEq]
  exact and_iff_right rfl

/-- Only an observation that goes through every stage asks for a source. -/
theorem settles_of_asks (h : x.Asks o source) :
    ∃ i external managed, o.Settles x.cluster SyncRule.check i external managed ∧
      source = ConfigSource.locationOf (Observer.sourceFor i managed) := by
  rcases o.observe_ends x.cluster SyncRule.check with
    missing | ⟨stage, e, hf⟩ | ⟨i, external, managed, hs⟩
  · exact absurd h (silent_of_accepted (Observer.accepted_of_missing missing _) source)
  · exact absurd h (silent_of_fails ⟨stage, e, hf⟩ source)
  · exact ⟨i, external, managed, hs, (asks_of_settles hs).1 h⟩

/-- The last rule asked for is the one in force. -/
theorem rules_after_of_asks (h : x.Asks o source) :
    (x.after o api).memory.rules.find? o.copyLocation = some source := by
  obtain ⟨i, external, managed, hs, rfl⟩ := settles_of_asks h
  rw [rules_after, rules_remembered, seen, Observer.accepted_of_settles hs]
  exact SyncRules.find?_enforce_self x.memory.rules (o.copyRule (Observer.sourceFor i managed))

theorem rules_after_of_silent (h : x.Silent o) :
    (x.after o api).memory.rules = x.memory.rules := by
  rw [rules_after, rules_remembered, seen]
  rcases o.observe_ends x.cluster SyncRule.check with
    missing | ⟨stage, e, hf⟩ | ⟨i, external, managed, hs⟩
  · rw [Observer.accepted_of_missing missing]
    rfl
  · rw [Observer.accepted_of_failsAt hf]
    rfl
  · exact absurd ((asks_of_settles hs).2 rfl) (h _)

/-- A file is named by the tree to publish either because it was named before and a stage failed, or
because it was chosen. -/
theorem names_target (h : o.paths.Names (x.target o) file) :
    x.Fails o ∧ o.paths.Names x.memory.tree file ∨ ∃ source, x.Chooses o source file := by
  rcases o.observe_ends x.cluster SyncRule.check with
    missing | ⟨stage, e, hf⟩ | ⟨i, external, managed, hs⟩
  · rw [target_of_missing missing] at h
    exact absurd h FlagPaths.not_names_treeOf_none
  · rw [target_of_failsAt hf, FlagPaths.names_restrict] at h
    exact .inl ⟨⟨stage, e, hf⟩, h⟩
  · refine .inr ⟨_, (asks_of_settles hs).2 rfl, ?_⟩
    rw [target_of_settles hs] at h
    rw [seen, Observer.observe_of_settles hs, Observer.settle_value_flags]
    cases hc : Observer.sourceFor i managed with
    | none =>
      rw [hc] at h
      exact absurd h FlagPaths.not_names_treeOf_none
    | some source =>
      rw [hc] at h
      exact congrArg some (FlagPaths.names_treeOf_single.1 h)

/-- A source chosen with a file is somewhere. -/
theorem somewhere_of_chooses (h : x.Chooses o source file) : source.isNowhere = false := by
  obtain ⟨hasked, hfile⟩ := h
  obtain ⟨i, external, managed, hs, rfl⟩ := settles_of_asks hasked
  rw [seen, Observer.observe_of_settles hs, Observer.settle_value_flags] at hfile
  cases hc : Observer.sourceFor i managed with
  | none =>
    rw [hc] at hfile
    cases hfile
  | some source => exact ConfigSource.somewhere_of_choose? hc

end Occasion

/-! ### The file named and the rule in force -/

/-- The last rule asked for came with a tree that could not be published, and no pass has chosen its
source with the file. -/
def Stranded (o : Observer) (api : Api σ) (past : List (Occasion σ)) (file : String) : Prop :=
  ∃ source, Since (fun y => y.Asks o source ∧ ¬ y.Publishes o api) (Occasion.Silent o) past ∧
    ∀ y ∈ past, ¬ y.Chooses o source file

/-- After a pass the rule in force for the operand's copy has a source, which some pass so far has
chosen with the file. -/
def Backed (o : Observer) (api : Api σ) (past : List (Occasion σ)) (x : Occasion σ)
    (file : String) : Prop :=
  ∃ source, (x.after o api).memory.rules.find? o.copyLocation = some source ∧
    source.isNowhere = false ∧ ∃ y ∈ past ++ [x], y.Chooses o source file

/-- What the last rule asked for says: it is in force, and a file that is named in the tree was
chosen with it, if the tree of that pass could be published. -/
structure Backing (o : Observer) (api : Api σ) (past : List (Occasion σ)) (world : World σ) :
    Prop where
  ruled {source : Location} (h : Since (Occasion.Asks o source) (Occasion.Silent o) past) :
    world.memory.rules.find? o.copyLocation = some source
  named {file : String} (h : o.paths.Names world.memory.tree file) :
    ∃ source, Since (fun y => y.Asks o source ∧ (y.Publishes o api → y.Chooses o source file))
      (Occasion.Silent o) past

namespace Backing

theorem start (queue : EventQueue) (server : σ) :
    Backing o api [] ⟨⟨Json.empty, Table.empty, queue⟩, server⟩ where
  ruled h := absurd h Since.not_nil
  named h := absurd h FlagPaths.not_names_empty

variable {past : List (Occasion σ)} {world : World σ} {x : Occasion σ} {file : String}

theorem step (h : Backing o api past world) (hx : x.memory = world.memory) :
    Backing o api (past ++ [x]) (x.after o api) where
  ruled := by
    intro source hsince
    rcases Since.append_singleton_iff.1 hsince with hasks | ⟨hsince, hsilent⟩
    · exact Occasion.rules_after_of_asks hasks
    · rw [Occasion.rules_after_of_silent hsilent, hx]
      exact h.ruled hsince
  named := by
    intro file hnames
    -- a pass that says nothing new hands on what is known of the last rule
    have hkeeps (hsilent : x.Silent o) (hold : o.paths.Names x.memory.tree file) :
        ∃ source, Since (fun y => y.Asks o source ∧ (y.Publishes o api → y.Chooses o source file))
          (Occasion.Silent o) (past ++ [x]) := by
      rw [hx] at hold
      obtain ⟨source, hsince⟩ := h.named hold
      exact ⟨source, Since.append_singleton_iff.2 (.inr ⟨hsince, hsilent⟩)⟩
    by_cases hp : x.Publishes o api
    · rw [Occasion.tree_after_of_publishes hp] at hnames
      rcases Occasion.names_target hnames with ⟨hfails, hold⟩ | ⟨source, hchooses⟩
      · exact hkeeps (Occasion.silent_of_fails hfails) hold
      · exact ⟨source, Since.append_singleton_iff.2 (.inl ⟨hchooses.1, fun _ => hchooses⟩)⟩
    · rw [Occasion.tree_after_of_not_publishes hp] at hnames
      -- the old tree stays, but its rule may be gone: nothing is promised of the new one
      by_cases hasks : ∃ source, x.Asks o source
      · obtain ⟨source, hasks⟩ := hasks
        exact ⟨source, Since.append_singleton_iff.2 (.inl ⟨hasks, fun h => absurd h hp⟩)⟩
      · exact hkeeps (fun source h => hasks ⟨source, h⟩) hnames

/-- A stranded file is not backed, as long as nothing else is asked for. -/
theorem not_backed_of_stranded (h : Backing o api past world) (hx : x.memory = world.memory)
    (hsilent : x.Silent o) (stranded : Stranded o api past file) : ¬ Backed o api past x file := by
  rintro ⟨source, hrule, -, y, hy, hchooses⟩
  obtain ⟨last, hlast, hnone⟩ := stranded
  have hforce : world.memory.rules.find? o.copyLocation = some last :=
    h.ruled (hlast.imp fun _ _ => And.left)
  rw [Occasion.rules_after_of_silent hsilent, hx, hforce] at hrule
  cases hrule
  rcases List.mem_append.1 hy with hy | hy
  · exact hnone y hy hchooses
  · rw [List.mem_singleton.1 hy] at hchooses
    exact hsilent _ hchooses.1

/-- A file that was named before and is not stranded stays backed while nothing is asked for. -/
theorem backed_of_not_stranded (h : Backing o api past world) (hx : x.memory = world.memory)
    (hsilent : x.Silent o) (hnames : o.paths.Names x.memory.tree file)
    (hnot : ¬ Stranded o api past file) : Backed o api past x file := by
  rw [hx] at hnames
  obtain ⟨source, hlast⟩ := h.named hnames
  have hchosen : ∃ y ∈ past, y.Chooses o source file := by
    refine Classical.byContradiction fun hnone => hnot ⟨source, hlast.imp fun y hy hdid => ?_, ?_⟩
    · exact ⟨hdid.1, fun hp => hnone ⟨y, hy, hdid.2 hp⟩⟩
    · exact fun y hy hchooses => hnone ⟨y, hy, hchooses⟩
  obtain ⟨y, hy, hchooses⟩ := hchosen
  have hsomewhere := Occasion.somewhere_of_chooses hchooses
  refine ⟨source, ?_, hsomewhere, y, List.mem_append_left _ hy, hchooses⟩
  rw [Occasion.rules_after_of_silent hsilent, hx]
  exact h.ruled (hlast.imp fun _ _ => And.left)

end Backing

/-- In a pass that comes to carrying out rules, a file that is named in the tree is backed by the
rule in force, unless a stage failed and the file was stranded before. -/
theorem backed_iff_not_stranded (o : Observer) (api : Api σ) (queue : EventQueue) (server : σ)
    (rounds : List (Round σ)) {past later : List (Occasion σ)} {x : Occasion σ} {file : String}
    (run : history o api ⟨⟨Json.empty, Table.empty, queue⟩, server⟩ rounds = past ++ x :: later)
    (publishes : x.Publishes o api) (names : o.paths.Names (x.after o api).memory.tree file) :
    Backed o api past x file ↔ ¬ (x.Fails o ∧ Stranded o api past file) := by
  obtain ⟨world, hbacking, round, -, rfl⟩ :=
    history_induction (P := Backing o api) (fun _ _ h _ _ => h.step rfl) (.start queue server) run
  rw [Occasion.tree_after_of_publishes publishes] at names
  constructor
  · rintro hbacked ⟨hfails, hstranded⟩
    exact hbacking.not_backed_of_stranded rfl (Occasion.silent_of_fails hfails) hstranded hbacked
  · intro hnot
    rcases Occasion.names_target names with ⟨hfails, hold⟩ | ⟨source, hchooses⟩
    · exact hbacking.backed_of_not_stranded rfl (Occasion.silent_of_fails hfails) hold
        fun hstranded => hnot ⟨hfails, hstranded⟩
    · have hlast : round.occasion world ∈ past ++ [round.occasion world] :=
        List.mem_append_right _ (List.mem_singleton_self _)
      exact ⟨source, Occasion.rules_after_of_asks hchooses.1,
        Occasion.somewhere_of_chooses hchooses, _, hlast, hchooses⟩

/-! ### An outage -/

section Outage

open Scenario

/-- The file in which the operand finds the key of the configuration. -/
def outageFile : String := ConfigSource.mountPath ++ "/config"

/-- The tree that tells of the provider and of the file. -/
def outageTree : Json :=
  standardObserver.paths.treeOf (some (Json.single "aws")) (some (Json.single outageFile))

/-- First the administrator names a config map. -/
def namedRound : Round LossyServer := ⟨(awsCache "cloud-provider-config" "").cluster, id⟩

/-- Then none, while no answer arrives. -/
def clearedRound : Round LossyServer := ⟨(awsCache "" "").cluster, LossyServer.mute⟩

/-- Then answers arrive again, but the feature set is unknown. -/
def gatedRound : Round LossyServer := ⟨(awsCache "" "Unknown").cluster, LossyServer.unmute⟩

def beforeOutage : Occasion LossyServer := namedRound.occasion ⟨.initial, {}⟩

def duringOutage : Occasion LossyServer :=
  clearedRound.occasion (beforeOutage.after standardObserver LossyServer.api)

def afterOutage : Occasion LossyServer :=
  gatedRound.occasion (duringOutage.after standardObserver LossyServer.api)

theorem settles_beforeOutage :
    standardObserver.Settles beforeOutage.cluster SyncRule.check
      (awsInfrastructure "cloud-provider-config") false none :=
  settles_awsCache _

theorem settles_duringOutage :
    standardObserver.Settles duringOutage.cluster SyncRule.check (awsInfrastructure "") false
      none :=
  settles_awsCache _

theorem fails_afterOutage : afterOutage.Fails standardObserver := ⟨_, _, failsAt_awsCache ""⟩

theorem publishes_beforeOutage : beforeOutage.Publishes standardObserver LossyServer.api :=
  (LossyServer.publishes_iff (fault?_standardObserver _)).2 (.inr rfl)

theorem tree_beforeOutage :
    (beforeOutage.after standardObserver LossyServer.api).memory.tree = outageTree := by
  rw [Occasion.tree_after_of_publishes publishes_beforeOutage,
    Occasion.target_of_settles settles_beforeOutage]
  rfl

/-- The tree without the file is another one, and it cannot be published. -/
theorem not_publishes_duringOutage :
    ¬ duringOutage.Publishes standardObserver LossyServer.api := by
  have hmemory : duringOutage.memory.tree = outageTree := by
    rw [duringOutage, Round.occasion_memory, tree_beforeOutage]
  rw [LossyServer.publishes_iff (fault?_standardObserver _), hmemory,
    Occasion.target_of_settles settles_duringOutage]
  rintro (h | h)
  · have hconfig := congrArg standardObserver.paths.config.get? h
    rw [outageTree, FlagPaths.get?_config_treeOf, FlagPaths.get?_config_treeOf] at hconfig
    cases hconfig
  · cases h

theorem tree_duringOutage :
    (duringOutage.after standardObserver LossyServer.api).memory.tree = outageTree := by
  rw [Occasion.tree_after_of_not_publishes not_publishes_duringOutage, duringOutage,
    Round.occasion_memory, tree_beforeOutage]

/-- The failure brings the old tree back, which needs no publishing. -/
theorem target_afterOutage : afterOutage.target standardObserver = outageTree := by
  obtain ⟨stage, e, h⟩ := fails_afterOutage
  rw [Occasion.target_of_failsAt h, afterOutage, Round.occasion_memory, tree_duringOutage,
    outageTree, FlagPaths.restrict_treeOf]

theorem names_outageTree : standardObserver.paths.Names outageTree outageFile :=
  FlagPaths.names_treeOf_single.2 rfl

/-- Before the outage nothing is stranded, and the file is backed. -/
theorem backed_beforeOutage :
    Backed standardObserver LossyServer.api [] beforeOutage outageFile := by
  have run : history standardObserver LossyServer.api ⟨.initial, {}⟩ [namedRound] =
      [] ++ beforeOutage :: [] := rfl
  refine (backed_iff_not_stranded standardObserver LossyServer.api {} {} _ run
    publishes_beforeOutage ?_).2 ?_
  · rw [tree_beforeOutage]
    exact names_outageTree
  · rintro ⟨-, source, hsince, -⟩
    exact Since.not_nil hsince

/-- After the outage the file is still named, but the rule is to remove its copy. -/
theorem not_backed_afterOutage :
    history standardObserver LossyServer.api ⟨.initial, {}⟩ [namedRound, clearedRound, gatedRound] =
        [beforeOutage, duringOutage] ++ [afterOutage] ∧
      afterOutage.Publishes standardObserver LossyServer.api ∧
      standardObserver.paths.Names (afterOutage.after standardObserver LossyServer.api).memory.tree
        outageFile ∧
      (afterOutage.after standardObserver LossyServer.api).memory.rules.find?
        standardObserver.copyLocation = some .nowhere ∧
      ¬ Backed standardObserver LossyServer.api [beforeOutage, duringOutage] afterOutage
        outageFile := by
  have hpublishes : afterOutage.Publishes standardObserver LossyServer.api := by
    refine Occasion.publishes_of_target_eq ?_
    rw [target_afterOutage, afterOutage, Round.occasion_memory, tree_duringOutage]
  have hasks : duringOutage.Asks standardObserver .nowhere :=
    (Occasion.asks_of_settles settles_duringOutage).2 rfl
  have hrule : (afterOutage.after standardObserver LossyServer.api).memory.rules.find?
      standardObserver.copyLocation = some .nowhere := by
    rw [Occasion.rules_after_of_silent (Occasion.silent_of_fails fails_afterOutage), afterOutage,
      Round.occasion_memory]
    exact Occasion.rules_after_of_asks hasks
  refine ⟨rfl, hpublishes, ?_, hrule, ?_⟩
  · rw [Occasion.tree_after_of_publishes hpublishes, target_afterOutage]
    exact names_outageTree
  · rintro ⟨source, hsource, hsomewhere, -⟩
    rw [hrule] at hsource
    cases hsource
    exact absurd hsomewhere (by decide)

end Outage

end Operator

end CloudFlags
