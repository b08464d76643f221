import CloudFlags.Error
import CloudFlags.Log
import CloudFlags.Table

/-! Rules by which one config map is kept a copy of another, and the table of the rules in force:
one rule a destination, the last that was asked for. -/

namespace CloudFlags

/-- Namespace and name of an object. -/
structure Location where
  space : String
  name : String
  deriving DecidableEq, Repr

namespace Location

/-- The location that stands for nothing. -/
def nowhere : Location := ⟨"", ""⟩

def isNowhere (l : Location) : Bool := l.space.isEmpty && l.name.isEmpty

def text (l : Location) : String := l.space ++ "/" ++ l.name

/-- The location as a log line shows it. -/
def full (l : Location) : String :=
  "ResourceLocation \x7b namespace: " ++ Text.quote l.space ++ ", name: " ++ Text.quote l.name ++
    " \x7d"

/-- By namespace, then by name. -/
instance : LT Location := ⟨fun a b => a.space < b.space ∨ (a.space = b.space ∧ a.name < b.name)⟩

theorem lt_iff {a b : Location} :
    a < b ↔ a.space < b.space ∨ (a.space = b.space ∧ a.name < b.name) := Iff.rfl

instance : DecidableLT Location := fun _ _ => decidable_of_iff _ lt_iff.symm

instance : KeyOrder Location where
  lt_irrefl a h := by
    rcases h with h | h
    · exact KeyOrder.lt_irrefl _ h
    · exact KeyOrder.lt_irrefl _ h.2
  lt_trans {a b c} h h' := by
    rcases h with h | ⟨e, h⟩ <;> rcases h' with h' | ⟨e', h'⟩
    · exact .inl (KeyOrder.lt_trans h h')
    · exact .inl (e' ▸ h)
    · exact .inl (e ▸ h')
    · exact .inr ⟨e.trans e', KeyOrder.lt_trans h h'⟩
  lt_of_not {a b} h hne := by
    by_cases e : a.space = b.space
    · have hn : ¬ a.name < b.name := fun h' => h (.inr ⟨e, h'⟩)
      have hd : a.name ≠ b.name := fun h' => hne (by cases a; cases b; simp_all)
      exact .inr ⟨e.symm, KeyOrder.lt_of_not hn hd⟩
    · exact .inl (KeyOrder.lt_of_not (fun h' => h (.inl h')) e)

end Location

/-- Keep the destination a copy of the source; a source that is nowhere removes it. -/
structure SyncRule where
  destination : Location
  source : Location
  deriving DecidableEq, Repr

/-- A rule needs a destination with a namespace and a name. -/
def SyncRule.check (rule : SyncRule) : Except Error Unit :=
  if rule.destination.space.isEmpty || rule.destination.name.isEmpty then
    .error (.invalidSyncDestination rule.destination.text)
  else .ok ()

/-- The line that is logged when a rule comes into force. -/
def SyncRule.logText (rule : SyncRule) : String :=
  "Config map sync rule " ++ rule.destination.text ++ " <- " ++ rule.source.full

/-- The rules in force, by destination. -/
abbrev SyncRules := Table Location Location

namespace SyncRules

/-- The rule is in force as it stands. -/
def holds (rules : SyncRules) (rule : SyncRule) : Bool :=
  rules.find? rule.destination == some rule.source

/-- What is logged as a rule is put in force: nothing if it held already. -/
def enforcementLog (rules : SyncRules) (rule : SyncRule) : List LogLine :=
  if rules.holds rule then [] else [⟨.debug, rule.logText⟩]

/-- Puts a rule in force. -/
def enforce (rules : SyncRules) (rule : SyncRule) : SyncRules :=
  if rules.holds rule then rules else rules.insert rule.destination rule.source

@[simp] theorem find?_enforce_self (rules : SyncRules) (rule : SyncRule) :
    (rules.enforce rule).find? rule.destination = some rule.source := by
  rw [enforce]
  split
  · next h => exact beq_iff_eq.1 h
  · exact Table.find?_insert_self ..

theorem find?_enforce_of_ne {l : Location} {rule : SyncRule} (h : l ≠ rule.destination)
    (rules : SyncRules) : (rules.enforce rule).find? l = rules.find? l := by
  rw [enforce]
  split
  · rfl
  · exact Table.find?_insert_of_ne h ..

/-- A rule that is in force need not be put in force. -/
theorem enforce_of_find? {rules : SyncRules} {rule : SyncRule}
    (h : rules.find? rule.destination = some rule.source) : rules.enforce rule = rules := by
  have hholds : rules.holds rule = true := by
    rw [holds, h]
    exact beq_self_eq_true _
  rw [enforce, if_pos hholds]

/-- Asks for a rule: it is refused, or it comes into force. -/
def request (rules : SyncRules) (rule : SyncRule) : Except Error SyncRules :=
  rule.check.map fun _ => rules.enforce rule

/-- The rules, in the order of their destinations. -/
def toList (rules : SyncRules) : List SyncRule := rules.entries.map fun (d, s) => ⟨d, s⟩

theorem mem_toList_enforce {rules : SyncRules} {new rule : SyncRule}
    (h : rule ∈ (rules.enforce new).toList) : rule = new ∨ rule ∈ rules.toList := by
  rw [enforce] at h
  split at h
  · exact .inr h
  · obtain ⟨entry, hentry, rfl⟩ := List.mem_map.1 h
    rcases Entries.mem_insert hentry with rfl | hentry
    · exact .inl rfl
    · exact .inr (List.mem_map.2 ⟨entry, hentry, rfl⟩)

end SyncRules

end CloudFlags
