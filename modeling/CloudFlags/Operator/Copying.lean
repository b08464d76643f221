import CloudFlags.Api.Exchange

/-! Carrying out sync rules. The source is read, and then the destination is written or removed, but
never after a reading that failed. Rules are carried out in the order of their destinations, up to
the first that fails. -/

namespace CloudFlags.Operator

open Api Resource Exchange

variable {σ : Type}

/-- Reads the source of a rule; nowhere is nothing. -/
def readSource (api : Api σ) (source : Location) :
    Exchange σ (Except Failure (Option ConfigMap)) :=
  if source.isNowhere then return .ok none else readMap api source

/-- Removes a copy. One that is gone already needs no removing. -/
def removeCopy (api : Api σ) (destination : Location) : Exchange σ (Except Error Unit) := do
  match ← removeMap api destination with
  | .ok () =>
    log .info ("Removed synced config map " ++ destination.text)
    return .ok ()
  | .error failure =>
    if failure.isGone then return .ok ()
    else
      count .deleteErrors
      return .error (.api failure)

/-- Writes a copy. -/
def writeCopy (api : Api σ) (rule : SyncRule) (contents : Contents) :
    Exchange σ (Except Error Unit) := do
  match ← applyMap api rule.destination contents with
  | .ok () =>
    log .debug
      ("Synced config map " ++ rule.destination.text ++ " from " ++ rule.source.text)
    return .ok ()
  | .error failure =>
    count .patchErrors
    return .error (.api failure)

/-- Carries out a rule. -/
def carryOut (api : Api σ) (rule : SyncRule) : Exchange σ (Except Error Unit) := do
  match ← readSource api rule.source with
  | .error failure => return .error (.api failure)
  | .ok none => removeCopy api rule.destination
  | .ok (some map) => writeCopy api rule map.contents

/-- Carries out rules in order, and counts each. -/
def carryOutAll (api : Api σ) : List SyncRule → Exchange σ (Except Error Unit)
  | [] => return .ok ()
  | rule :: rest => do
    match ← carryOut api rule with
    | .error e =>
      count (.syncs false)
      return .error e
    | .ok () =>
      count (.syncs true)
      carryOutAll api rest

/-- Carries out the rules in force. -/
def reconcile (api : Api σ) (rules : SyncRules) : Exchange σ (Except Error Unit) :=
  carryOutAll api rules.toList

end CloudFlags.Operator
