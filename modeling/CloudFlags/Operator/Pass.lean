import CloudFlags.Operator.Copying
import CloudFlags.Operator.Publishing
import CloudFlags.Operator.Reporting

/-! One pass of the operator: observe, publish the tree if it is another than before, carry out the
sync rules. A tree that could not be published is not remembered, so the next pass tries again, and
the rules wait until the tree stands. -/

namespace CloudFlags.Operator

open Resource Exchange

/-- What the operator remembers from pass to pass. -/
structure Memory where
  tree : Json
  rules : SyncRules
  queue : EventQueue

/-- The memory before anything was observed. -/
def Memory.initial : Memory := ⟨Json.empty, Table.empty, {}⟩

namespace Memory

/-- Puts an accepted rule in force. -/
def enforce (memory : Memory) (rule : SyncRule) : Traced Entry Memory :=
  ⟨{ memory with rules := memory.rules.enforce rule },
    (memory.rules.enforcementLog rule).map .logged⟩

/-- Does what a notice of an observation calls for. -/
def heed (memory : Memory) : Notice → Traced Entry Memory
  | .lookedUp .. => return memory
  | .recorded event => return { memory with queue := ← record memory.queue event }
  | .requested rule true => memory.enforce rule
  | .requested _ false => return memory
  | .warned text => ⟨memory, [.logged ⟨.warn, text⟩]⟩

def heedAll (memory : Memory) : List Notice → Traced Entry Memory
  | [] => return memory
  | notice :: rest => do (← memory.heed notice).heedAll rest

end Memory

variable {σ : Type}

/-- Publishes a tree that differs from the one remembered. -/
def publishChange (api : Api σ) (space : String) (old new : Json) :
    Exchange σ (Except Error Unit) := do
  if new = old then return .ok ()
  else
    match ← publish api space new with
    | .error e => return .error e
    | .ok () =>
      log .info ("Observed config changed to " ++ new.text)
      return .ok ()

/-- The result of a pass in which nothing else failed. -/
def verdict : List Error → Except Error Unit
  | [] => .ok ()
  | errors => .error (.observation errors)

/-- One pass over a cluster. -/
def pass (o : Observer) (api : Api σ) (cluster : Cluster) (memory : Memory) :
    Exchange σ (Except Error Unit × Memory) := do
  let seen := o.observe cluster SyncRule.check memory.tree
  let memory ← lift (memory.heedAll seen.trace)
  match seen.value.tree o.paths with
  | .error e => return (.error e, memory)
  | .ok tree =>
    match ← publishChange api o.space memory.tree tree with
    | .error e => return (.error e, memory)
    | .ok () =>
      let memory := { memory with tree }
      match ← reconcile api memory.rules with
      | .error e => return (.error e, memory)
      | .ok () => return (verdict seen.value.errors, memory)

end CloudFlags.Operator
