import CloudFlags.Json.Shape

/-! What is said of an answer that does not hold what was asked for: why, and where that shows. -/

namespace CloudFlags.Api

open Json

structure Misreading where
  reason : String
  place : Place
  deriving DecidableEq, Repr

namespace Misreading

/-- What is said of a text at which reading stopped. -/
def ofStop (text : List Char) (stop : Stop Complaint) : Misreading :=
  ⟨stop.cause.message, stop.place text⟩

def message (m : Misreading) : String := m.reason ++ " at " ++ m.place.text

/-- The misreading as a log line shows it. -/
def full (m : Misreading) : String :=
  "Error(" ++ Text.quote m.reason ++ ", line: " ++ toString m.place.line ++ ", column: " ++
    toString m.place.column ++ ")"

end Misreading

end CloudFlags.Api
