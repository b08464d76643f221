import CloudFlags.Api.Reply
import CloudFlags.Counter
import CloudFlags.Traced

/-! Talking to an API server. A server is any way to answer requests from a state; what the operator
does with it is a function of that state, and leaves a trace of the requests sent, the lines logged,
the counters raised and the events recorded, in order. -/

namespace CloudFlags

open Api Resource Json

/-- An API server: its answer to a request, and its state afterwards. -/
structure Api (σ : Type) where
  answer : Request → σ → Reply × σ

/-- What the operator does that can be seen. -/
inductive Entry where
  | sent (request : Request) (reply : Reply)
  | logged (line : LogLine)
  | counted (counter : Counter)
  /-- An event was put in the queue. -/
  | recorded (event : Event)
  deriving DecidableEq

/-- Work with a server in a state. -/
abbrev Exchange (σ α : Type) := StateT σ (Traced Entry) α

namespace Exchange

variable {σ α β : Type}

@[simp] theorem pure_apply (a : α) (s : σ) : (pure a : Exchange σ α) s = ⟨(a, s), []⟩ := rfl

@[simp] theorem bind_apply (work : Exchange σ α) (next : α → Exchange σ β) (s : σ) :
    (work >>= next) s =
      ⟨(next (work s).value.1 (work s).value.2).value,
        (work s).trace ++ (next (work s).value.1 (work s).value.2).trace⟩ := rfl

/-- Notes what is done without the server. -/
def lift (t : Traced Entry α) : Exchange σ α := fun s => ⟨(t.value, s), t.trace⟩

@[simp] theorem lift_apply (t : Traced Entry α) (s : σ) :
    lift t s = ⟨(t.value, s), t.trace⟩ := rfl

def log (level : Level) (text : String) : Exchange σ Unit :=
  lift (Traced.note (.logged ⟨level, text⟩))

def count (counter : Counter) : Exchange σ Unit := lift (Traced.note (.counted counter))

/-- Sends a request. -/
def send (api : Api σ) (request : Request) : Exchange σ Reply := fun s =>
  let answer := api.answer request s
  ⟨answer, [.sent request answer.1]⟩

/-- Sends a request that can be sent, and reads the answer. -/
def ask (api : Api σ) (request : Request) (shape : Shape α) : Exchange σ (Except Failure α) :=
  match request.fault? with
  | some fault => return .error (.unsendable fault)
  | none => return (← send api request).read shape

/-- Reads a config map that may be missing. -/
def readMap (api : Api σ) (location : Location) :
    Exchange σ (Except Failure (Option ConfigMap)) := do
  match ← ask api (.readMap location) ConfigMap.shape with
  | .ok map => return .ok (some map)
  | .error failure => return if failure.isAbsence then .ok none else .error failure

/-- Removes a config map. -/
def removeMap (api : Api σ) (location : Location) : Exchange σ (Except Failure Unit) :=
  ask api (.removeMap location) Status.removalShape

/-- Makes a config map hold what is given. -/
def applyMap (api : Api σ) (location : Location) (contents : Contents) :
    Exchange σ (Except Failure Unit) :=
  ask api (.applyMap location contents) (ConfigMap.shape.map fun _ => ())

def applyFlowControl (api : Api σ) (object : FlowControlObject) :
    Exchange σ (Except Failure Unit) :=
  ask api (.applyFlowControl object) object.kind.shape

def createEvent (api : Api σ) (event : ClusterEvent) : Exchange σ (Except Failure Unit) :=
  ask api (.createEvent event) ClusterEvent.shape

end Exchange

end CloudFlags
