import CloudFlags.Backoff
import CloudFlags.Operator.Pass
import CloudFlags.Settings

/-! Pass after pass in time. After a pass that succeeds the operator waits for its interval, after
one that fails for a delay that doubles with every failure in a row. How long a wait really lasts is
for a clock to say; a pass itself takes no time. -/

namespace CloudFlags

/-- The observer for an operand. -/
def Settings.observer (settings : Settings) : Observer := ⟨settings.space, settings.paths⟩

namespace Operator

open Exchange

/-- The memory and the count of failures in a row. -/
structure Session where
  memory : Memory
  failures : UInt32

def Session.start (memory : Memory) : Session := ⟨memory, 0⟩

/-- A time to wait, which is not zero. -/
abbrev Wait := { seconds : Nat // 0 < seconds }

/-- The seconds after which each wait is over; none is over at once. -/
structure Clock where
  lasts : Wait → Nat
  lasts_pos : ∀ wait, 0 < lasts wait

/-- A wait of so many seconds, or of fewer, is over when they have passed and not before. -/
def Clock.PunctualTo (clock : Clock) (seconds : Nat) : Prop :=
  ∀ wait : Wait, wait.val ≤ seconds → clock.lasts wait = wait.val

/-- What follows a pass: the time to wait, and the new count of failures. -/
def conclude (settings : Settings) (failures : UInt32) :
    Except Error Unit → Traced Entry (Wait × UInt32)
  | .ok () => do
    Traced.note (.counted (.observations true))
    return (⟨settings.interval, settings.interval_pos⟩, 0)
  | .error e => do
    Traced.note (.counted (.observations false))
    Traced.note (.logged ⟨.error, "Observation failed: " ++ e.message⟩)
    let failures := failures + 1
    let delay := Backoff.delay failures.toNat
    if delay = Backoff.longest then
      Traced.note (.logged
        ⟨.warn, "Observation has failed " ++ toString failures.toNat ++ " times in a row"⟩)
    return (⟨delay, Backoff.delay_pos _⟩, failures)

variable {σ : Type}

/-- A pass with what follows it. -/
def turn (settings : Settings) (api : Api σ) (cluster : Cluster) (session : Session) :
    Exchange σ (Wait × Session) := do
  let (result, memory) ← pass settings.observer api cluster session.memory
  let (wait, failures) ← lift (conclude settings session.failures result)
  log .debug ("Next observation in " ++ toString wait.val ++ "s")
  return (wait, ⟨memory, failures⟩)

/-- What is done at a second. -/
structure TimedEntry where
  second : Nat
  entry : Entry

/-- The turns from a second on, until a window of time is over. -/
def runFrom (settings : Settings) (api : Api σ) (clock : Clock) (cluster : Cluster)
    (window now : Nat) (session : Session) (s : σ) : Traced TimedEntry (Session × σ) :=
  if now ≤ window then
    let step := turn settings api cluster session s
    let next := now + clock.lasts step.value.1.1
    let rest := runFrom settings api clock cluster window next step.value.1.2 step.value.2
    ⟨rest.value, step.trace.map (⟨now, ·⟩) ++ rest.trace⟩
  else ⟨(session, s), []⟩
termination_by window + 1 - now
decreasing_by
  have := clock.lasts_pos (turn settings api cluster session s).value.1.1
  omega

/-- Turns for a window of time, the first at once. -/
def run (settings : Settings) (api : Api σ) (clock : Clock) (cluster : Cluster) (window : Nat)
    (session : Session) (s : σ) : Traced TimedEntry (Session × σ) :=
  runFrom settings api clock cluster window 0 session s

end Operator

end CloudFlags
