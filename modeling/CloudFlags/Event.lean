import CloudFlags.Log

/-! Events about the cluster, and the queue between those who record them and the one who sends them
on. The queue hands events out in the order in which they were recorded; once it is closed it takes
no more. -/

namespace CloudFlags

/-- The name under which the operator reports events and owns what it writes. -/
def operatorName : String := "cloud-provider-observer"

inductive EventType where
  | normal
  | warning
  deriving DecidableEq, Repr

def EventType.name : EventType → String
  | .normal => "Normal"
  | .warning => "Warning"

/-- The level at which an event of the type is logged. -/
def EventType.level : EventType → Level
  | .normal => .info
  | .warning => .warn

structure Event where
  type : EventType
  reason : String
  message : String
  deriving DecidableEq, Repr

def Event.logLine (e : Event) : LogLine := ⟨e.type.level, e.reason ++ ": " ++ e.message⟩

/-- Events recorded and not yet sent on. -/
structure EventQueue where
  waiting : List Event := []
  isOpen : Bool := true
  deriving DecidableEq, Repr

namespace EventQueue

/-- Takes an event, unless the queue is closed. -/
def record (q : EventQueue) (e : Event) : EventQueue :=
  if q.isOpen then { q with waiting := q.waiting ++ [e] } else q

/-- The next event to send, and the queue without it. -/
def next? (q : EventQueue) : Option (Event × EventQueue) :=
  match q.waiting with
  | [] => none
  | e :: rest => some (e, { q with waiting := rest })

def close (q : EventQueue) : EventQueue := { q with isOpen := false }

end EventQueue

end CloudFlags
