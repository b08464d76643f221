import CloudFlags.Api.Request
import CloudFlags.Api.Status

/-! What comes back from the API server, and how it is read. The codes from 400 to 599 refuse a
request, and their body says why as well as it can; any other answer has to hold what was asked for.
-/

namespace CloudFlags.Api

open Resource Json

/-- The body of an answer. -/
inductive Body where
  | tree (value : Json)
  /-- A text that need not be JSON. -/
  | raw (text : String)
  deriving DecidableEq

inductive Reply where
  | answered (code : Nat) (body : Body)
  | unreachable (reason : String)
  deriving DecidableEq

/-! ### Bodies -/

def Body.text : Body → String
  | .tree value => value.text
  | .raw text => text

/-- What a body holds, for the shape of what was asked for. Where a tree is not of that shape, its
text tells the place. -/
def Body.read {α : Type} (shape : Shape α) (body : Body) : Except Misreading α :=
  let text := body.text.toList
  match body with
  | .tree value =>
    match shape.ofTree value with
    | .ok found => .ok found
    | .error mismatch =>
      match shape.ofWholeText text with
      | .error stop => .error (.ofStop text stop)
      | .ok _ => .error ⟨mismatch.message, Place.start⟩
  | .raw _ => (shape.ofWholeText text).mapError (.ofStop text)

/-! ### Refusals -/

/-- The phrase that goes with a code. -/
def codePhrase : Nat → String
  | 400 => "Bad Request"
  | 401 => "Unauthorized"
  | 402 => "Payment Required"
  | 403 => "Forbidden"
  | 404 => "Not Found"
  | 405 => "Method Not Allowed"
  | 406 => "Not Acceptable"
  | 407 => "Proxy Authentication Required"
  | 408 => "Request Timeout"
  | 409 => "Conflict"
  | 410 => "Gone"
  | 411 => "Length Required"
  | 412 => "Precondition Failed"
  | 413 => "Payload Too Large"
  | 414 => "URI Too Long"
  | 415 => "Unsupported Media Type"
  | 416 => "Range Not Satisfiable"
  | 417 => "Expectation Failed"
  | 418 => "I'm a teapot"
  | 421 => "Misdirected Request"
  | 422 => "Unprocessable Entity"
  | 423 => "Locked"
  | 424 => "Failed Dependency"
  | 425 => "Too Early"
  | 426 => "Upgrade Required"
  | 428 => "Precondition Required"
  | 429 => "Too Many Requests"
  | 431 => "Request Header Fields Too Large"
  | 451 => "Unavailable For Legal Reasons"
  | 500 => "Internal Server Error"
  | 501 => "Not Implemented"
  | 502 => "Bad Gateway"
  | 503 => "Service Unavailable"
  | 504 => "Gateway Timeout"
  | 505 => "HTTP Version Not Supported"
  | 506 => "Variant Also Negotiates"
  | 507 => "Insufficient Storage"
  | 508 => "Loop Detected"
  | 510 => "Not Extended"
  | 511 => "Network Authentication Required"
  | _ => "<unknown status code>"

/-- The refusal that a body stands for. One that says nothing readable is quoted. -/
def Body.rejection (code : Nat) (body : Body) : Rejection :=
  match body.read Rejection.record.shape with
  | .ok rejection => rejection
  | .error _ =>
    ⟨toString code ++ " " ++ codePhrase code, Text.quote body.text, "Failed to parse error data",
      code⟩

/-! ### Answers -/

/-- The codes that refuse a request. -/
def refuses (code : Nat) : Bool := 400 ≤ code && code < 600

/-- What an answer holds, for the shape of what was asked for. -/
def Reply.read {α : Type} (shape : Shape α) : Reply → Except Failure α
  | .unreachable reason => .error (.unreachable reason)
  | .answered code body =>
    if refuses code then .error (.rejected (body.rejection code))
    else (body.read shape).mapError .unreadable

end CloudFlags.Api
