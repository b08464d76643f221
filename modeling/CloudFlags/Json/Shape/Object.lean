import CloudFlags.Json.Shape

/-! Objects with members that are known by key, in any order; other members are passed over, and a
member that is not there leaves its default. A member given twice is read twice. In a tree the
members are looked up in the order in which the shape lists them, which is that of their keys, so
that the first fault in the order of the keys wins. -/

namespace CloudFlags.Json

/-- A member with a known key: what reading it does to the object made so far. What it does may turn
out wrong once the value is read; that shows when its object is left. -/
structure Member (σ : Type) where
  key : String
  shape : Shape (σ → Except Mismatch σ)

namespace Member

variable {σ α : Type}

/-- A member that is put into the object. -/
def field (key : String) (shape : Shape α) (put : α → σ → σ) : Member σ :=
  ⟨key, shape.map fun value s => .ok (put value s)⟩

/-- A text member that must be the given one. -/
def constant (key expected : String) : Member σ :=
  ⟨key, Shape.string.map fun found s =>
    if found = expected then .ok s else .error (.other found expected)⟩

/-- A member that is read and not kept; it may be null. -/
def checked (key : String) (shape : Shape α) : Member σ :=
  field key shape.optional fun _ s => s

/-- The object after a member in a tree, if it is there. -/
def ofTree (given : List (String × Json)) (s : σ) (member : Member σ) : Except Mismatch σ :=
  match Entries.find? member.key given with
  | none => .ok s
  | some tree => do (← member.shape.ofTree tree) s

/-- The object after a member in a text, read from behind its key. -/
def ofText (depth : Nat) (member : Member σ) (rest : List Char) (s : σ) :
    Attempt (σ × List Char) := do
  let (change, rest) ← member.shape.ofText depth (← plainly (readColon rest))
  match change s with
  | .ok s => return (s, rest)
  | .error mismatch => complain mismatch (leaveObject rest)

/-- Passes over a member that is not known, from behind its key. -/
def pass (rest : List Char) (s : σ) : Attempt (σ × List Char) := do
  return (s, ← plainly (skipOne (← plainly (readColon rest))))

end Member

/-- An object of the given name. -/
def Shape.object {σ : Type} (name : String) (default : σ) (members : List (Member σ)) :
    Shape σ where
  ofTree
    | .obj given => members.foldlM (Member.ofTree given) default
    | other => .error (.kind other name)
  ofText depth cs :=
    match skipBlank cs with
    | '\x7b' :: cs => do
      let depth ← enter depth ('\x7b' :: cs)
      let member (key : String) (rest : List Char) (s : σ) :=
        match members.find? (·.key = key) with
        | some member => member.ofText depth rest s
        | none => Member.pass rest s
      eachMember member (cs.length + 1) true default cs
    | '[' :: cs => do
      discard <| enter depth ('[' :: cs)
      complain (.kind (.arr []) name) (leaveList cs)
    | cs => misplaced name cs

end CloudFlags.Json
