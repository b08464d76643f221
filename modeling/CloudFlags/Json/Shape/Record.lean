import CloudFlags.Json.Shape.Object

/-! Records: objects in which no field is given twice, or lists of their fields in order. A field
that must be there and is not is missed after all others have been read, and of several such fields
the first in order counts. -/

namespace CloudFlags.Json

/-- When a field may be left out. -/
inductive Presence where
  | required
  /-- In an object it may be missing, in a list it may not. -/
  | optional
  | defaulted
  deriving DecidableEq

structure Slot (σ : Type) extends Member σ where
  presence : Presence

namespace Slot

variable {σ α : Type}

def field (presence : Presence) (key : String) (shape : Shape α) (put : α → σ → σ) : Slot σ :=
  ⟨.field key shape put, presence⟩

/-- A field with a default that is read and not kept. -/
def checked (key : String) (shape : Shape α) : Slot σ :=
  field .defaulted key shape fun _ s => s

end Slot

structure Record (σ : Type) where
  name : String
  default : σ
  /-- The fields in order. -/
  slots : List (Slot σ)

namespace Record

variable {σ : Type}

def slot? (record : Record σ) (key : String) : Option (Slot σ) :=
  record.slots.find? (·.key = key)

/-- A field that must be there and is not among those given. -/
def missing? (record : Record σ) (given : List String) : Option String :=
  (record.slots.find? fun slot => slot.presence = .required ∧ slot.key ∉ given).map (·.key)

/-- The mismatch of a list that ends before a field. -/
def tooFew (record : Record σ) (index : Nat) : Mismatch :=
  .tooFew index record.name record.slots.length

/-! ### From trees -/

/-- The record after a member of a tree. -/
def ofMember (record : Record σ) (s : σ) (given : String × Json) : Except Mismatch σ :=
  match record.slot? given.1 with
  | none => .ok s
  | some slot => do (← slot.shape.ofTree given.2) s

/-- The record of items for the fields from an index on. -/
def ofItems (record : Record σ) : (index : Nat) → List (Slot σ) → List Json → σ → Except Mismatch σ
  | _, [], _, s => .ok s
  | index, slot :: slots, item :: items, s => do
    ofItems record (index + 1) slots items (← (← slot.shape.ofTree item) s)
  | index, slot :: slots, [], s =>
    if slot.presence = .defaulted then ofItems record (index + 1) slots [] s
    else .error (record.tooFew index)

/-! ### From text -/

/-- The record after a member, read from behind its key, and the keys given so far. -/
def ofMemberText (record : Record σ) (depth : Nat) (key : String) (rest : List Char)
    (found : List String × σ) : Attempt ((List String × σ) × List Char) := do
  match record.slot? key with
  | none => Member.pass rest found
  | some slot =>
    if key ∈ found.1 then complain (.repeated key) (leaveObject rest)
    else
      let (s, rest) ← slot.toMember.ofText depth rest found.2
      return ((key :: found.1, s), rest)

/-- The end of a record's list. -/
def endItems (cs : List Char) (s : σ) : Attempt (σ × List Char) :=
  match skipBlank cs with
  | [] => plainly (refuse .unfinishedList [])
  | ']' :: rest => .ok (s, rest)
  | ',' :: rest =>
    match skipBlank rest with
    | ']' :: rest => plainly (refuse .trailingComma (']' :: rest))
    | rest => plainly (refuse .trailingText rest)
  | rest => plainly (refuse .trailingText rest)

/-- The record of the items to come, for the fields from an index on. -/
def ofItemsText (record : Record σ) (depth : Nat) :
    (index : Nat) → List (Slot σ) → List Char → σ → Attempt (σ × List Char)
  | _, [], cs, s => endItems cs s
  | index, slot :: slots, cs, s => do
    match ← plainly (nextItem? (index = 0) cs) with
    | some cs =>
      let (change, rest) ← slot.shape.ofText depth cs
      match change s with
      | .ok s => ofItemsText record depth (index + 1) slots rest s
      | .error mismatch => complain mismatch (leaveList rest)
    | none =>
      if slot.presence = .defaulted then ofItemsText record depth (index + 1) slots cs s
      else complain (record.tooFew index) (leaveList cs)

def shape (record : Record σ) : Shape σ where
  ofTree
    | .obj given => do
      let s ← given.foldlM record.ofMember record.default
      match record.missing? (given.map (·.1)) with
      | some key => throw (.missing key)
      | none => return s
    | .arr items => do
      let s ← record.ofItems 0 record.slots items record.default
      if record.slots.length < items.length then throw (.tooMany items.length) else return s
    | other => .error (.kind other ("struct " ++ record.name))
  ofText depth cs :=
    match skipBlank cs with
    | '\x7b' :: cs => do
      let depth ← enter depth ('\x7b' :: cs)
      let ((given, s), rest) ←
        eachMember (record.ofMemberText depth) (cs.length + 1) true ([], record.default) cs
      match record.missing? given with
      | some key => complain (.missing key) rest
      | none => return (s, rest)
    | '[' :: cs => do
      let depth ← enter depth ('[' :: cs)
      record.ofItemsText depth 0 record.slots cs record.default
    | cs => misplaced ("struct " ++ record.name) cs

end Record

end CloudFlags.Json
