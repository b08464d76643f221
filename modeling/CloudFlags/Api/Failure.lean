import CloudFlags.Api.Misreading

/-! How a request to the API server fails, and what is said of it: in words for an error, and in
full for a log line. -/

namespace CloudFlags.Api

/-- What the server says when it refuses a request. -/
structure Rejection where
  status : String
  message : String
  reason : String
  code : Nat
  deriving DecidableEq, Repr

/-- Why a request is not even sent. -/
inductive RequestFault where
  | emptyName
  | invalidCharacter
  | tooLong
  deriving DecidableEq, Repr

inductive Failure where
  /-- The server refused. -/
  | rejected (rejection : Rejection)
  /-- No answer came. -/
  | unreachable (reason : String)
  /-- The request could not be made. -/
  | unsendable (fault : RequestFault)
  /-- The answer is not what was asked for. -/
  | unreadable (misreading : Misreading)
  deriving DecidableEq, Repr

def Rejection.full (r : Rejection) : String :=
  "ErrorResponse \x7b status: " ++ Text.quote r.status ++ ", message: " ++ Text.quote r.message ++
    ", reason: " ++ Text.quote r.reason ++ ", code: " ++ toString r.code ++ " \x7d"

/-- The message with its reason. -/
def Rejection.short (r : Rejection) : String := r.message ++ ": " ++ r.reason

def emptyNameText : String := "A non-empty name is required"

def RequestFault.message : RequestFault → String
  | .emptyName => "failed to validate request: " ++ emptyNameText
  | .invalidCharacter => "failed to build request: invalid uri character"
  | .tooLong => "failed to build request: uri too long"

def RequestFault.full : RequestFault → String
  | .emptyName => "Validation(" ++ Text.quote emptyNameText ++ ")"
  | .invalidCharacter => "BuildRequest(http::Error(InvalidUri(InvalidUriChar)))"
  | .tooLong => "BuildRequest(http::Error(InvalidUri(TooLong)))"

namespace Failure

def message : Failure → String
  | .rejected r => "ApiError: " ++ r.short ++ " (" ++ r.full ++ ")"
  | .unreachable reason => "ServiceError: " ++ reason
  | .unsendable fault => "Failed to build request: " ++ fault.message
  | .unreadable misreading => "Error deserializing response: " ++ misreading.message

/-- The failure as a log line shows it. -/
def full : Failure → String
  | .rejected r => "Api(" ++ r.full ++ ")"
  | .unreachable reason => "Service(" ++ Text.quote reason ++ ")"
  | .unsendable fault => "BuildRequest(" ++ fault.full ++ ")"
  | .unreadable misreading => "SerdeError(" ++ misreading.full ++ ")"

/-- What the failure is laid to, outermost first. -/
def causes : Failure → List String
  | .rejected r => [r.short]
  | .unreadable misreading => [misreading.message]
  | _ => []

/-- The failure says that the object does not exist. -/
def isAbsence : Failure → Bool
  | .rejected r => r.reason == "NotFound"
  | _ => false

/-- The failure comes with the code for an object that does not exist. -/
def isGone : Failure → Bool
  | .rejected r => r.code == 404
  | _ => false

end Failure

end CloudFlags.Api
