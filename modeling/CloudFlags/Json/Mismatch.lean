import CloudFlags.Calendar.Timestamp.Parser
import CloudFlags.Json.Printer
import CloudFlags.Text.Base64
import CloudFlags.Text.Quoted

/-! What is said of a JSON value that does not have the shape asked for. -/

namespace CloudFlags.Json

/-- Why a value does not have the shape asked for. -/
inductive Mismatch where
  /-- Another kind of value. -/
  | kind (found : Json) (expected : String)
  /-- A text that is not the one allowed. -/
  | other (found : String) (expected : String)
  /-- A text that is none of the words allowed. -/
  | word (found : String) (words : List String)
  /-- A number outside the range of the type. -/
  | range (found : Int) (expected : String)
  | missing (field : String)
  /-- A field that is given twice. -/
  | repeated (field : String)
  /-- The list of a record ends before the field with this index. -/
  | tooFew (index : Nat) (record : String) (fields : Nat)
  /-- The list of a record has this many items, more than fields. -/
  | tooMany (count : Nat)
  | base64 (fault : Text.Base64Fault)
  | time (fault : Calendar.Timestamp.Fault)
  deriving DecidableEq

/-- A value as a mismatch names it. -/
def named : Json → String
  | .null => "null"
  | .bool b => "boolean `" ++ (if b then "true" else "false") ++ "`"
  | .num (.int n) => "integer `" ++ String.ofList (renderInt n) ++ "`"
  | .num (.real x) => "floating point `" ++ String.ofList (x.text doubleLayout) ++ "`"
  | .str s => "string " ++ Text.quote s
  | .arr _ => "sequence"
  | .obj _ => "map"

def Mismatch.message : Mismatch → String
  | .kind found expected => "invalid type: " ++ named found ++ ", expected " ++ expected
  | .other found expected =>
    "invalid value: string " ++ Text.quote found ++ ", expected " ++ expected
  | .word found words =>
    "unknown variant `" ++ found ++ "`, expected " ++
      String.intercalate " or " (words.map fun word => "`" ++ word ++ "`")
  | .range found expected =>
    "invalid value: integer `" ++ String.ofList (renderInt found) ++ "`, expected " ++ expected
  | .missing field => "missing field `" ++ field ++ "`"
  | .repeated field => "duplicate field `" ++ field ++ "`"
  | .tooFew index record fields =>
    "invalid length " ++ toString index ++ ", expected struct " ++ record ++ " with " ++
      toString fields ++ (if fields = 1 then " element" else " elements")
  | .tooMany count =>
    "invalid length " ++ toString count ++ ", expected fewer elements in array"
  | .base64 fault => fault.message
  | .time fault => fault.message

end CloudFlags.Json
