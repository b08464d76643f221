import CloudFlags.Event

/-! The counters of the operator. A counter is a name with its labels; counting is a matter of the
trace in which counters stand. -/

namespace CloudFlags

inductive Counter where
  /-- Passes, by their result. -/
  | observations (ok : Bool)
  /-- Recorded events, by type and reason. -/
  | events (type : EventType) (reason : String)
  /-- Sync rules carried out, by their result. -/
  | syncs (ok : Bool)
  /-- Failed writes of config maps. -/
  | patchErrors
  /-- Failed removals of config maps. -/
  | deleteErrors
  deriving DecidableEq, Repr

def Counter.resultLabel (ok : Bool) : String := if ok then "ok" else "error"

/-- The counter's name with its labels in order. -/
def Counter.name : Counter → String
  | .observations ok => "observations_total\x7bresult=" ++ resultLabel ok ++ "\x7d"
  | .events type reason =>
    "events_total\x7breason=" ++ reason ++ ",type=" ++ type.name ++ "\x7d"
  | .syncs ok => "config_map_syncs_total\x7bresult=" ++ resultLabel ok ++ "\x7d"
  | .patchErrors => "errors_total\x7bkind=configmap,reason=patch_error\x7d"
  | .deleteErrors => "errors_total\x7bkind=configmap,reason=delete_error\x7d"

end CloudFlags
