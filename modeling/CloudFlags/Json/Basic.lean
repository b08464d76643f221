import CloudFlags.Table
import CloudFlags.Decimal.Binary64

/-! JSON trees. The members of an object are a list; a tree is canonical when every object in it is
a table, its keys ascending, and this is what reading makes and writing a key keeps. Numbers are
either integers or doubles, and equal trees are equal as values, so `1` and `1.0` differ. -/

namespace CloudFlags

/-- A number as its text gives it: an integer of at most 64 bits, or a double. -/
inductive Json.Number where
  | int (n : Int)
  | real (x : Decimal.Binary64)
  deriving DecidableEq, Repr

inductive Json where
  | null
  | bool (b : Bool)
  | num (n : Json.Number)
  | str (s : String)
  | arr (items : List Json)
  | obj (members : List (String × Json))
  deriving Repr, Inhabited

namespace Json

/-! ### Equality -/

mutual

/-- Equality of trees, by structure. -/
def same : Json → Json → Bool
  | .null, .null => true
  | .bool a, .bool b => a == b
  | .num a, .num b => a == b
  | .str a, .str b => a == b
  | .arr a, .arr b => sameItems a b
  | .obj a, .obj b => sameMembers a b
  | _, _ => false

def sameItems : List Json → List Json → Bool
  | [], [] => true
  | a :: as, b :: bs => same a b && sameItems as bs
  | _, _ => false

def sameMembers : List (String × Json) → List (String × Json) → Bool
  | [], [] => true
  | (k, a) :: as, (l, b) :: bs => k == l && same a b && sameMembers as bs
  | _, _ => false

end

mutual

theorem same_iff (a b : Json) : same a b = true ↔ a = b := by
  cases a <;> cases b <;> simp [same]
  · exact sameItems_iff _ _
  · exact sameMembers_iff _ _

theorem sameItems_iff (as bs : List Json) : sameItems as bs = true ↔ as = bs := by
  cases as <;> cases bs <;> simp [sameItems]
  rw [same_iff, sameItems_iff]

theorem sameMembers_iff (as bs : List (String × Json)) : sameMembers as bs = true ↔ as = bs := by
  match as, bs with
  | [], [] => simp [sameMembers]
  | [], _ :: _ => simp [sameMembers]
  | _ :: _, [] => simp [sameMembers]
  | (k, a) :: as, (l, b) :: bs =>
    simp only [sameMembers, Bool.and_eq_true, beq_iff_eq, List.cons.injEq, Prod.mk.injEq]
    rw [same_iff, sameMembers_iff]

end

instance : DecidableEq Json := fun a b => decidable_of_iff _ (same_iff a b)

/-! ### Parts of a tree -/

/-- The object without members. -/
def empty : Json := .obj []

def ofNat (n : Nat) : Json := .num (.int n)

/-- The list with one text. -/
def single (s : String) : Json := .arr [.str s]

def str? : Json → Option String
  | .str s => some s
  | _ => none

def items? : Json → Option (List Json)
  | .arr items => some items
  | _ => none

def members? : Json → Option (List (String × Json))
  | .obj members => some members
  | _ => none

/-- The value of a key, in an object that has it. -/
def member? (key : String) (tree : Json) : Option Json :=
  tree.members?.bind (Entries.find? key)

/-! ### Canonical trees -/

mutual

/-- Puts the members of every object in order; of two with one key the later one stays. -/
def canonical : Json → Json
  | .arr items => .arr (canonicalItems items)
  | .obj members => .obj (Entries.arrange (canonicalMembers members))
  | scalar => scalar

def canonicalItems : List Json → List Json
  | [] => []
  | item :: rest => canonical item :: canonicalItems rest

def canonicalMembers : List (String × Json) → List (String × Json)
  | [] => []
  | (key, value) :: rest => (key, canonical value) :: canonicalMembers rest

end

/-! ### Making trees -/

/-- The object of the entries that are present. -/
def ofFields (fields : List (String × Option Json)) : Json :=
  .obj (Entries.arrange (fields.filterMap fun field => field.2.map (field.1, ·)))

def ofInt64 (n : Int64) : Json := .num (.int n.toInt)

def ofStrings (items : List String) : Json := .arr (items.map .str)

def ofTable (table : Table String String) : Json :=
  .obj (table.entries.map fun entry => (entry.1, .str entry.2))

/-! ### Nesting -/

mutual

/-- How many containers are nested in one another. -/
def depth : Json → Nat
  | .arr items => 1 + depthItems items
  | .obj members => 1 + depthMembers members
  | _ => 0

def depthItems : List Json → Nat
  | [] => 0
  | item :: rest => max (depth item) (depthItems rest)

def depthMembers : List (String × Json) → Nat
  | [] => 0
  | (_, value) :: rest => max (depth value) (depthMembers rest)

end

end Json

end CloudFlags
