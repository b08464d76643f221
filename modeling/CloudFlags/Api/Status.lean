import CloudFlags.Api.Failure
import CloudFlags.Json.Shape.Record
import CloudFlags.Resource.ConfigMap

/-! What the API server says of a request in words of its own: of one it refuses, and of one it has
carried out where there is no object to answer with. -/

namespace CloudFlags.Api

open Json Resource

/-- What a refusal says of itself; message and reason may be missing. -/
def Rejection.record : Record Rejection where
  name := "ErrorResponse"
  default := ⟨"", "", "", 0⟩
  slots :=
    [.field .required "status" Shape.string fun s r => { r with status := s },
      .field .defaulted "message" Shape.string fun s r => { r with message := s },
      .field .defaulted "reason" Shape.string fun s r => { r with reason := s },
      .field .required "code" Shape.nat16 fun n r => { r with code := n }]

namespace Status

def causeRecord : Record Unit where
  name := "StatusCause"
  default := ()
  slots := ["reason", "message", "field"].map (Slot.checked · Shape.string)

def detailsRecord : Record Unit where
  name := "StatusDetails"
  default := ()
  slots :=
    ["name", "group", "kind", "uid"].map (Slot.checked · Shape.string) ++
      [.checked "causes" causeRecord.shape.list, .checked "retryAfterSeconds" Shape.nat32]

/-- What is said of a request that was carried out. -/
def record : Record Unit where
  name := "Status"
  default := ()
  slots :=
    [.checked "status" (Shape.word ["Success", "Failure"]).optional,
      .checked "code" Shape.nat16,
      .checked "message" Shape.string,
      .checked "reason" Shape.string,
      .checked "details" detailsRecord.shape.optional]

/-- The answer to a removal: a word that it was done, or the object removed. -/
def removalShape : Shape Unit :=
  .chosen fun tree =>
    if tree.member? "kind" = some (.str "Status") then record.shape
    else ConfigMap.shape.map fun _ => ()

end Status

end CloudFlags.Api
