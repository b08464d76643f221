import CloudFlags.Json.Mismatch
import CloudFlags.Json.Skip

/-! The shapes of JSON values. A shape says how values of a type are read, once from a tree and once
straight from text. From text the first thing that is wrong counts, be it the text or what it says,
and the place where that shows is known: a scalar of another kind is read to its end, but a
container that is not asked for is not entered. Whole texts are read, and so a text with something
after its value is refused. -/

namespace CloudFlags.Json

/-- Why a text does not hold what was asked for. -/
inductive Complaint where
  | flaw (flaw : Flaw)
  | mismatch (mismatch : Mismatch)
  deriving DecidableEq

def Complaint.message : Complaint → String
  | .flaw f => f.message
  | .mismatch m => m.message

/-- What is made of a tree. -/
abbrev Reader (α : Type) := Json → Except Mismatch α

/-- What is made of a text, unless reading it stops. -/
abbrev Attempt := Except (Stop Complaint)

structure Shape (α : Type) where
  ofTree : Reader α
  /-- The depth counts the containers still allowed. -/
  ofText : (depth : Nat) → List Char → Attempt (α × List Char)

variable {α β : Type}

/-- A reading that only the text can end. -/
def plainly (reading : Except (Stop Flaw) α) : Attempt α :=
  reading.mapError (Stop.map .flaw)

/-- Stops after what has been read, which is not what was asked for. -/
def complain (mismatch : Mismatch) (rest : List Char) : Attempt α :=
  .error (.behind (.mismatch mismatch) rest)

/-- Stops at a value of another kind. -/
def misplaced (expected : String) (cs : List Char) : Attempt α :=
  match skipBlank cs with
  | '[' :: rest => complain (.kind (.arr []) expected) ('[' :: rest)
  | '\x7b' :: rest => complain (.kind (.obj []) expected) ('\x7b' :: rest)
  | cs => do
    let (tree, rest) ← plainly (readValue 1 0 cs)
    complain (.kind tree expected) rest

/-- The containers still allowed inside of the one that begins here. -/
def enter (depth : Nat) (cs : List Char) : Attempt Nat :=
  match depth with
  | 0 => plainly (refuse .tooDeep cs)
  | depth + 1 => .ok depth

/-- What is left when an object is given up: its end counts as read if it comes next. -/
def leaveObject (cs : List Char) : List Char :=
  match skipBlank cs with
  | '\x7d' :: rest => rest
  | rest => rest

/-- What is left when a list is given up: its end counts as read if it comes next, and so does a
comma with the blanks after it. -/
def leaveList (cs : List Char) : List Char :=
  match skipBlank cs with
  | ']' :: rest => rest
  | ',' :: rest => skipBlank rest
  | rest => rest

/-- The next item of a list, unless its end comes next. -/
def nextItem? (first : Bool) (cs : List Char) : Except (Stop Flaw) (Option (List Char)) :=
  match skipBlank cs with
  | [] => refuse .unfinishedList []
  | ']' :: _ => .ok none
  | c :: rest =>
    if first then .ok (some (c :: rest))
    else if c ≠ ',' then refuse .noListEnd (c :: rest)
    else
      match skipBlank rest with
      | [] => refuse .unfinishedValue []
      | ']' :: rest => refuse .trailingComma (']' :: rest)
      | rest => .ok (some rest)

/-- What is left after the colon behind a key. -/
def readColon (cs : List Char) : Except (Stop Flaw) (List Char) :=
  match skipBlank cs with
  | [] => refuse .unfinishedObject []
  | ':' :: rest => .ok rest
  | rest => refuse .noColon rest

/-- The next key of an object after its quote, unless the end of the object comes next. -/
def nextKey? (first : Bool) (cs : List Char) : Except (Stop Flaw) (Option (List Char)) :=
  match skipBlank cs with
  | [] => refuse .unfinishedObject []
  | '\x7d' :: _ => .ok none
  | c :: rest =>
    if ¬ first ∧ c ≠ ',' then refuse .noObjectEnd (c :: rest)
    else
      match if first then c :: rest else skipBlank rest with
      | [] => refuse .unfinishedValue []
      | '"' :: rest => .ok (some rest)
      | '\x7d' :: rest => refuse .trailingComma ('\x7d' :: rest)
      | rest => refuse .noKey rest

/-- Reads the items of a list up to its end. The fuel bounds the items. -/
def eachItem (item : List Char → Attempt (α × List Char)) :
    (fuel : Nat) → (first : Bool) → List Char → Attempt (List α × List Char)
  | 0, _, cs => plainly (refuse .noListEnd cs)
  | fuel + 1, first, cs => do
    match ← plainly (nextItem? first cs) with
    | none => return ([], (skipBlank cs).tail)
    | some cs =>
      let (value, rest) ← item cs
      let (values, rest) ← eachItem item fuel false rest
      return (value :: values, rest)

/-- Reads the members of an object up to its end, each from its key and what follows the key, and
from what the members before it made. The fuel bounds the members. -/
def eachMember {σ : Type} (member : String → List Char → σ → Attempt (σ × List Char)) :
    (fuel : Nat) → (first : Bool) → σ → List Char → Attempt (σ × List Char)
  | 0, _, _, cs => plainly (refuse .noObjectEnd cs)
  | fuel + 1, first, s, cs => do
    match ← plainly (nextKey? first cs) with
    | none => return (s, (skipBlank cs).tail)
    | some cs =>
      let (key, rest) ← plainly (readText cs)
      let (s, rest) ← member key rest s
      eachMember member fuel false s rest

namespace Shape

def map (f : α → β) (shape : Shape α) : Shape β where
  ofTree tree := (shape.ofTree tree).map f
  ofText depth cs := (shape.ofText depth cs).map fun (a, rest) => (f a, rest)

/-- The value of a whole text. -/
def ofWholeText (shape : Shape α) (cs : List Char) : Attempt α := do
  let (value, rest) ← shape.ofText maxDepth cs
  plainly (readEnd rest)
  return value

/-! ### Scalars -/

/-- Scalars that are accepted, or for a reason not. -/
def scalar (expected : String) (accept : Json → Option (Except Mismatch α)) : Shape α where
  ofTree tree := (accept tree).getD (.error (.kind tree expected))
  ofText _ cs :=
    match skipBlank cs with
    | '[' :: rest => misplaced expected ('[' :: rest)
    | '\x7b' :: rest => misplaced expected ('\x7b' :: rest)
    | cs => do
      let (tree, rest) ← plainly (readValue 1 0 cs)
      match (accept tree).getD (.error (.kind tree expected)) with
      | .ok value => return (value, rest)
      | .error mismatch => complain mismatch rest

def string : Shape String :=
  scalar "a string" fun
    | .str s => some (.ok s)
    | _ => none

def bool : Shape Bool :=
  scalar "a boolean" fun
    | .bool b => some (.ok b)
    | _ => none

/-- Integers between two bounds. -/
def integer (name : String) (low high : Int) : Shape Int :=
  scalar name fun
    | .num (.int n) => some (if low ≤ n ∧ n ≤ high then .ok n else .error (.range n name))
    | _ => none

def int32 : Shape Int := integer "i32" Int32.minValue.toInt Int32.maxValue.toInt

def int64 : Shape Int64 :=
  (integer "i64" Int64.minValue.toInt Int64.maxValue.toInt).map Int64.ofInt

/-- Naturals of 16 bits. -/
def nat16 : Shape Nat := (integer "u16" 0 0xFFFF).map Int.toNat

/-- Naturals of 32 bits. -/
def nat32 : Shape Nat := (integer "u32" 0 0xFFFFFFFF).map Int.toNat

/-- Bytes, kept as their text in base 64; null stands for none. -/
def base64 : Shape String :=
  scalar "a base64-encoded string" fun
    | .str s => some (((Text.checkBase64 s).mapError .base64).map fun _ => s)
    | .null => some (.ok "")
    | _ => none

def timestamp : Shape Calendar.Timestamp :=
  scalar "an RFC 3339 formatted date and time string" fun
    | .str s => some ((Calendar.Timestamp.parse s).mapError .time)
    | _ => none

/-! ### Values of any kind -/

/-- Any value, as it is. -/
def any : Shape Json where
  ofTree := .ok
  ofText depth cs := do
    let (tree, rest) ← plainly (readValue (enoughFuel cs) depth cs)
    return (tree.canonical, rest)

/-- Null stands for nothing. -/
def optional (shape : Shape α) : Shape (Option α) where
  ofTree
    | .null => .ok none
    | tree => (shape.ofTree tree).map some
  ofText depth cs :=
    match skipBlank cs with
    | 'n' :: rest => (plainly (readWord "ull".toList rest)).map (none, ·)
    | cs => (shape.ofText depth cs).map fun (value, rest) => (some value, rest)

/-- The whole value is looked at first, and says in which shape to read it. -/
def chosen (choose : Json → Shape α) : Shape α where
  ofTree tree := (choose tree).ofTree tree
  ofText depth cs := do
    let (tree, rest) ← plainly (readValue (enoughFuel cs) depth cs)
    plainly (readEnd rest)
    (choose tree.canonical).ofText depth cs

/-- One of some words, by itself or as the key of a null. -/
def word (words : List String) : Shape String where
  ofTree
    | .str s => if s ∈ words then .ok s else .error (.word s words)
    | .obj [(key, .null)] => if key ∈ words then .ok key else .error (.word key words)
    | other => .error (.kind other "string or map")
  ofText depth cs := do
    let check (s : String) (rest : List Char) : Attempt Unit :=
      if s ∈ words then .ok () else complain (.word s words) rest
    match skipBlank cs with
    | '"' :: cs =>
      let (s, rest) ← plainly (readText cs)
      check s rest
      return (s, rest)
    | '\x7b' :: cs =>
      discard <| enter depth ('\x7b' :: cs)
      match skipBlank cs with
      | '"' :: cs =>
        let (s, rest) ← plainly (readText cs)
        check s rest
        match skipBlank (← plainly (readColon rest)) with
        | 'n' :: rest =>
          match skipBlank (← plainly (readWord "ull".toList rest)) with
          | '\x7d' :: rest => return (s, rest)
          | [] => throw (.behind (.flaw .unfinishedObject) [])
          | rest => throw (.behind (.flaw .noValue) rest)
        | rest => misplaced "unit" rest
      | cs => misplaced "variant identifier" cs
    | [] => plainly (refuse .unfinishedValue [])
    | cs => plainly (refuse .noValue cs)

/-! ### Containers -/

def list (shape : Shape α) : Shape (List α) where
  ofTree
    | .arr items => items.mapM shape.ofTree
    | other => .error (.kind other "a sequence")
  ofText depth cs :=
    match skipBlank cs with
    | '[' :: cs => do
      let depth ← enter depth ('[' :: cs)
      eachItem (shape.ofText depth) (cs.length + 1) true cs
    | cs => misplaced "a sequence" cs

/-- The values of an object, under its keys. -/
def table (shape : Shape α) : Shape (Table String α) where
  ofTree
    | .obj members =>
      (members.mapM fun member => (shape.ofTree member.2).map (member.1, ·)).map Table.ofList
    | other => .error (.kind other "a map")
  ofText depth cs :=
    match skipBlank cs with
    | '\x7b' :: cs => do
      let depth ← enter depth ('\x7b' :: cs)
      let member (key : String) (rest : List Char) (found : Table String α) :=  do
        let (value, rest) ← shape.ofText depth (← plainly (readColon rest))
        return (found.insert key value, rest)
      eachMember member (cs.length + 1) true Table.empty cs
    | cs => misplaced "a map" cs

end Shape

end CloudFlags.Json
