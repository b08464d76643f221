import CloudFlags.Proofs.Json.Parts

/-! Writing along a path is all or nothing. It gets stuck only on what stood in the tree before: in
an object that had to be made there is room for every key. So nothing was made when it gets stuck,
and the tree is the one it started from. When it goes through, the value stands at its path, the
objects on the way keep their other keys, and whatever stands apart from the path stays
(`KeyPath.write_all_or_nothing`). -/

namespace CloudFlags

/-- Writing an entry that is there changes nothing. -/
theorem Entries.Sorted.insert_self {κ ν : Type} [DecidableEq κ] [LT κ] [DecidableLT κ] [KeyOrder κ]
    {entries : List (κ × ν)} (h : Sorted entries) {k : κ} {v : ν}
    (found : find? k entries = some v) : Entries.insert k v entries = entries := by
  induction entries with
  | nil => cases found
  | cons entry rest ih =>
    obtain ⟨key, old⟩ := entry
    by_cases hk : k = key
    · rw [find?, if_pos hk] at found
      cases found
      rw [Entries.insert, if_pos hk, hk]
    · rw [find?, if_neg hk] at found
      have hlt : key < k := List.rel_of_pairwise_cons h (mem_of_find? found)
      have hnot : ¬ k < key := fun hgt => KeyOrder.lt_irrefl k (KeyOrder.lt_trans hgt hlt)
      rw [Entries.insert, if_neg hk, if_neg hnot, ih (List.Pairwise.of_cons h) found]

namespace Json

variable {value tree : Json} {keys before rest : List String} {key : String}

/-! ### What writing leaves -/

theorem stuck?_write_eq_none_iff :
    (write value keys tree).stuck? = none ↔ ∀ before key rest, keys = before ++ key :: rest →
      ∀ found, get? before tree = some found → ∃ members, found = .obj members := by
  constructor
  · intro h before key rest hkeys found hfound
    cases found with
    | obj members => exact ⟨members, rfl⟩
    | _ =>
      have hstuck : (write value keys tree).stuck? = some key := by
        refine stuck?_write_eq_some_iff.2 ⟨before, rest, _, hkeys, hfound, fun members hobj => ?_⟩
        cases hobj
      rw [h] at hstuck
      cases hstuck
  · intro h
    cases hstuck : (write value keys tree).stuck? with
    | none => rfl
    | some key =>
      obtain ⟨before, rest, found, hkeys, hfound, hother⟩ := stuck?_write_eq_some_iff.1 hstuck
      obtain ⟨members, hobj⟩ := h before key rest hkeys found hfound
      exact absurd hobj (hother members)

/-- Where writing gets stuck, the tree is left as it was. -/
theorem tree_write_of_stuck (tables : Everywhere IsTable tree)
    (h : (write value keys tree).stuck? = some key) : (write value keys tree).tree = tree := by
  induction keys generalizing tree with
  | nil => cases h
  | cons first keys ih =>
    cases tree with
    | obj members =>
      -- a member that had to be made would leave room, so the one gone through is there
      rw [stuck?_write_obj] at h
      obtain ⟨next, hnext, hstuck⟩ := Option.bind_eq_some_iff.1 h
      have hinner : (write value keys next).tree = next :=
        ih (tables.member (Entries.mem_of_find? hnext)) hstuck
      have hsorted : Entries.Sorted members := tables.self
      simp only [write, hnext, Option.getD_some, hinner]
      rw [hsorted.insert_self hnext]
    | _ => rfl

theorem leadApart_of_ne {other : String} (h : other ≠ key) :
    LeadApart (before ++ key :: rest) (before ++ [other]) := by
  constructor
  · intro hprefix
    exact h (List.cons_prefix_cons.1 ((List.prefix_append_right_inj before).1 hprefix)).1.symm
  · intro hprefix
    exact h (List.cons_prefix_cons.1 ((List.prefix_append_right_inj before).1 hprefix)).1

theorem get?_concat (keys : List String) (key : String) (tree : Json) :
    get? (keys ++ [key]) tree = (get? keys tree).bind (member? key) := by
  rw [get?_append]
  congr 1
  funext found
  rw [get?_cons]
  cases found.member? key <;> rfl

/-- On the way to a value that was written stand objects, with all the keys that they had. -/
theorem exists_members_of_written (h : (write value (before ++ key :: rest) tree).stuck? = none) :
    ∃ members, get? before (write value (before ++ key :: rest) tree).tree = some (.obj members) ∧
      ∀ other ≠ key, Entries.find? other members = (get? before tree).bind (member? other) := by
  have hvalue := get?_write h
  rw [get?_append] at hvalue
  obtain ⟨found, hfound, hrest⟩ := Option.bind_eq_some_iff.1 hvalue
  cases found with
  | obj members =>
    refine ⟨members, hfound, fun other hne => ?_⟩
    -- another key of the object leads apart from the keys that were written along
    have hapart : LeadApart (before ++ key :: rest) (before ++ [other]) := leadApart_of_ne hne
    have hkept := get?_write_of_leadApart hapart value tree
    rw [get?_concat, get?_concat, hfound] at hkept
    exact hkept
  | _ => cases hrest

end Json

namespace KeyPath

variable {path : KeyPath} {value tree : Json}

theorem write_error_iff {e : Error} :
    (path.write value tree).2 = .error e ↔
      ∃ key, (Json.write value path.keys tree).stuck? = some key ∧ path.noObject key = e := by
  rw [write]
  cases (Json.write value path.keys tree).stuck? <;> simp

/-- To set a value is to write it, and to give nothing if writing gets stuck. -/
theorem set_eq_write (path : KeyPath) (value tree : Json) :
    path.set value tree = (path.write value tree).2.map fun _ => (path.write value tree).1 := by
  simp only [set, Json.set, write]
  cases (Json.write value path.keys tree).stuck? <;> rfl

/-- Writing goes through exactly if all that stands on the way is an object. Then the value stands
at its path, what stands apart from it stays, and every object on the way has the other keys it had.
Otherwise the error names the path and the first key that could not be looked up, and the tree, its
objects tables as reading makes them, is the same as before. -/
theorem write_all_or_nothing (path : KeyPath) (value : Json) {tree : Json}
    (tables : tree.Everywhere Json.IsTable) :
    let after := (path.write value tree).1
    let result := (path.write value tree).2
    path.set value tree = result.map (fun _ => after) ∧
      (result = .ok () ↔ ∀ before key rest, path.keys = before ++ key :: rest →
        ∀ found, tree.get? before = some found → ∃ members, found = .obj members) ∧
      (result = .ok () →
        path.get? after = some value ∧
        (∀ keys, Json.LeadApart path.keys keys → after.get? keys = tree.get? keys) ∧
        ∀ before key rest, path.keys = before ++ key :: rest →
          ∃ members, after.get? before = some (.obj members) ∧
            ∀ other ≠ key,
              Entries.find? other members = (tree.get? before).bind (Json.member? other)) ∧
      ∀ e, result = .error e →
        after = tree ∧ ∃ before key rest found, path.keys = before ++ key :: rest ∧
          tree.get? before = some found ∧ (∀ members, found ≠ .obj members) ∧
          e = .undecodable path.text ("value at " ++ Text.quote key ++ " is not a map") := by
  intro after result
  refine ⟨path.set_eq_write value tree, ?_, ?_, ?_⟩
  · exact write_ok_iff.trans Json.stuck?_write_eq_none_iff
  · intro hok
    have hthrough : (Json.write value path.keys tree).stuck? = none := write_ok_iff.1 hok
    refine ⟨Json.get?_write hthrough,
      fun keys hapart => Json.get?_write_of_leadApart hapart value tree, ?_⟩
    intro before key rest hkeys
    have hafter : after = (Json.write value (before ++ key :: rest) tree).tree :=
      congrArg (fun keys => (Json.write value keys tree).tree) hkeys
    rw [hkeys] at hthrough
    rw [hafter]
    exact Json.exists_members_of_written hthrough
  · intro e herror
    obtain ⟨key, hstuck, rfl⟩ := write_error_iff.1 herror
    obtain ⟨before, rest, found, hkeys, hfound, hother⟩ := Json.stuck?_write_eq_some_iff.1 hstuck
    exact ⟨Json.tree_write_of_stuck tables hstuck, before, key, rest, found, hkeys, hfound, hother,
      rfl⟩

section Example

def innerPath : KeyPath := ⟨["a", "b", "c"], by decide, by decide⟩

/-- The way to `a.b.c` is blocked by a number. -/
def blockedTree : Json := .obj [("a", .obj [("b", .num (.int 1)), ("d", .null)])]

/-- Nothing is written past the number, and nothing beside it either. -/
theorem write_all_or_nothing_blockedTree :
    blockedTree.Everywhere Json.IsTable ∧
      innerPath.write (Json.single "x") blockedTree =
        (blockedTree, .error (innerPath.noObject "c")) := by
  have ordered : blockedTree.canonical = blockedTree := by decide
  have tables : blockedTree.Everywhere Json.IsTable :=
    ordered ▸ Json.everywhere_isTable_canonical blockedTree
  have hresult : (innerPath.write (Json.single "x") blockedTree).2 =
      .error (innerPath.noObject "c") := rfl
  obtain ⟨-, -, -, hfails⟩ := write_all_or_nothing innerPath (Json.single "x") tables
  exact ⟨tables, Prod.ext (hfails _ hresult).1 hresult⟩

end Example

end KeyPath

end CloudFlags
