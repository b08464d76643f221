import CloudFlags.Json.Basic

/-! Reading and writing a tree along a path of keys. Writing goes through objects only, makes those
that are missing, and gets stuck at the first value that is something else. `write` says what is
left of the tree in either case; `set` is the same writing for those who want nothing unless all
went well, and what it has written is read back. -/

namespace CloudFlags.Json

/-- The value that the keys lead to. -/
def get? : (keys : List String) → Json → Option Json
  | [], tree => some tree
  | key :: rest, tree => (tree.member? key).bind (get? rest)

/-- What writing leaves behind: a tree, and the key that was to be looked up in a value that is no
object, if writing got stuck there. -/
structure Written where
  tree : Json
  stuck? : Option String

/-- Puts a value where the keys lead. -/
def write (value : Json) : (keys : List String) → Json → Written
  | [], _ => ⟨value, none⟩
  | key :: rest, .obj members =>
    let inner := write value rest ((Entries.find? key members).getD empty)
    ⟨.obj (Entries.insert key inner.tree members), inner.stuck?⟩
  | key :: _, other => ⟨other, some key⟩

/-- The tree with a value put where the keys lead, or the key at which writing gets stuck. -/
def set (value : Json) (keys : List String) (tree : Json) : Except String Json :=
  let written := write value keys tree
  match written.stuck? with
  | none => .ok written.tree
  | some key => .error key

@[simp] theorem get?_nil (tree : Json) : get? [] tree = some tree := rfl

theorem get?_cons (key : String) (rest : List String) (tree : Json) :
    get? (key :: rest) tree = (tree.member? key).bind (get? rest) := rfl

theorem get?_append (p q : List String) (tree : Json) :
    get? (p ++ q) tree = (get? p tree).bind (get? q) := by
  induction p generalizing tree with
  | nil => rfl
  | cons key rest ih =>
    simp only [List.cons_append, get?_cons]
    cases tree.member? key <;> simp [ih]

theorem set_eq_ok_iff {value tree t : Json} {keys : List String} :
    set value keys tree = .ok t ↔ write value keys tree = ⟨t, none⟩ := by
  rw [set]
  rcases write value keys tree with ⟨w, _ | key⟩ <;> simp

theorem get?_write {value tree : Json} {keys : List String}
    (h : (write value keys tree).stuck? = none) :
    get? keys (write value keys tree).tree = some value := by
  induction keys generalizing tree with
  | nil => rfl
  | cons key rest ih =>
    cases tree with
    | obj members => simpa [write, get?_cons, member?, members?] using ih h
    | _ => cases h

/-- A written value is read back. -/
theorem get?_of_set {value tree t : Json} {keys : List String} (h : set value keys tree = .ok t) :
    get? keys t = some value := by
  have hw := set_eq_ok_iff.1 h
  have : get? keys (write value keys tree).tree = some value := get?_write (by rw [hw])
  rwa [hw] at this

end CloudFlags.Json
