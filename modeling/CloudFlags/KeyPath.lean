import CloudFlags.Error
import CloudFlags.Json.Path
import CloudFlags.Json.Printer
import CloudFlags.Text.Dotted

/-! Key paths: one or more non-empty keys that lead into a configuration tree, written with dots.
The operations on trees are those of `Json`, with their failures put down to the path. -/

namespace CloudFlags

structure KeyPath where
  keys : List String
  keys_ne_nil : keys ≠ []
  key_ne_empty : "" ∉ keys
  deriving DecidableEq

namespace KeyPath

def ofKeys (keys : List String) : Except Error KeyPath :=
  if h : keys ≠ [] ∧ "" ∉ keys then .ok ⟨keys, h.1, h.2⟩
  else .error (.invalidKeyPath (Text.joinDots keys))

/-- The path that a dotted text stands for. -/
def ofText (s : String) : Except Error KeyPath := ofKeys (Text.splitDots s)

def text (path : KeyPath) : String := Text.joinDots path.keys

/-- Every key of the one path begins the other, in order. -/
def isPrefixOf (p q : KeyPath) : Bool := p.keys.isPrefixOf q.keys

def get? (path : KeyPath) (tree : Json) : Option Json := tree.get? path.keys

/-- An error at a path. -/
def undecodable (path : KeyPath) (reason : String) : Error := .undecodable path.text reason

/-- The error for a value on the path in which a key cannot be looked up. -/
def noObject (path : KeyPath) (key : String) : Error :=
  path.undecodable ("value at " ++ Text.quote key ++ " is not a map")

/-- Puts a value at the path, making the objects that are missing on the way. Gives what is left of
the tree, and the error if writing got stuck. -/
def write (path : KeyPath) (value tree : Json) : Json × Except Error Unit :=
  let written := Json.write value path.keys tree
  (written.tree, match written.stuck? with
    | none => .ok ()
    | some key => .error (path.noObject key))

/-- The tree with a value put at the path. -/
def set (path : KeyPath) (value tree : Json) : Except Error Json :=
  (Json.set value path.keys tree).mapError path.noObject

/-- A text in a list. -/
def readItem (path : KeyPath) (item : Json) : Except Error String :=
  match item.str? with
  | some s => .ok s
  | none => .error (path.undecodable ("list item " ++ item.text ++ " is not a string"))

/-- The list of texts at the path. -/
def readList (path : KeyPath) (tree : Json) : Except Error (Option (List String)) :=
  match path.get? tree with
  | none => .ok none
  | some value =>
    match value.items? with
    | some items => (items.mapM path.readItem).map some
    | none =>
      .error (path.undecodable ("expected a list of strings, found " ++ value.text))

/-- The text at the path, kept as a list with one item; the empty list counts as nothing. -/
def readSingle (path : KeyPath) (tree : Json) : Except Error (Option String) :=
  match path.readList tree with
  | .error e => .error e
  | .ok none => .ok none
  | .ok (some []) => .ok none
  | .ok (some [s]) => .ok (some s)
  | .ok (some items) =>
    .error (path.undecodable ("expected a single value, found " ++ toString items.length))

end KeyPath

end CloudFlags
