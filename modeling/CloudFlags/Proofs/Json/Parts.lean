import CloudFlags.Proofs.Paths

/-! The trees inside a tree, and how deep they nest. What holds of all of them holds of all that
stand below a path, and still holds after a value was written if a new member cannot break it. That
every object is a table is such a property. A tree in which it holds is canonical, and so is every
tree that has been put in order; neither this nor copying what stands at two paths makes a tree
nest deeper. -/

namespace CloudFlags

namespace Entries

variable {κ ν : Type} [DecidableEq κ]

theorem mem_of_find? {k : κ} {v : ν} {entries : List (κ × ν)} (h : find? k entries = some v) :
    (k, v) ∈ entries := by
  induction entries with
  | nil => cases h
  | cons entry rest ih =>
    obtain ⟨key, old⟩ := entry
    rw [find?] at h
    split at h
    · next hk =>
      cases h
      cases hk
      exact List.mem_cons_self
    · exact List.mem_cons_of_mem _ (ih h)

variable [LT κ] [DecidableLT κ]

instance (entries : List (κ × ν)) : Decidable (Sorted entries) :=
  inferInstanceAs (Decidable (entries.Pairwise (·.1 < ·.1)))

theorem mem_arrange {entries : List (κ × ν)} {e : κ × ν} (h : e ∈ arrange entries) :
    e ∈ entries := by
  suffices aux : ∀ table : List (κ × ν),
      e ∈ entries.foldl (fun table entry => Entries.insert entry.1 entry.2 table) table →
        e ∈ entries ∨ e ∈ table from
    (aux [] h).resolve_right List.not_mem_nil
  clear h
  induction entries with
  | nil => exact fun table h => .inr h
  | cons entry rest ih =>
    intro table h
    rcases ih _ h with hrest | htable
    · exact .inl (List.mem_cons_of_mem _ hrest)
    · rcases mem_insert htable with rfl | htable
      · exact .inl List.mem_cons_self
      · exact .inr htable

variable [KeyOrder κ]

/-- What comes after all the entries is written at their end. -/
theorem insert_eq_append {entries : List (κ × ν)} {k : κ} (h : ∀ e ∈ entries, e.1 < k) (v : ν) :
    insert k v entries = entries ++ [(k, v)] := by
  induction entries with
  | nil => rfl
  | cons entry rest ih =>
    obtain ⟨key, old⟩ := entry
    have hlt : key < k := h (key, old) List.mem_cons_self
    have hne : k ≠ key := fun heq => KeyOrder.lt_irrefl key (heq ▸ hlt)
    have hnot : ¬ k < key := fun hk => KeyOrder.lt_irrefl k (KeyOrder.lt_trans hk hlt)
    rw [insert, if_neg hne, if_neg hnot, ih fun e he => h e (List.mem_cons_of_mem _ he)]
    rfl

/-- Entries in order stay as they are. -/
theorem Sorted.arrange_eq {entries : List (κ × ν)} (h : Sorted entries) :
    arrange entries = entries := by
  suffices aux : ∀ table : List (κ × ν), (∀ d ∈ table, ∀ e ∈ entries, d.1 < e.1) →
      entries.foldl (fun table entry => Entries.insert entry.1 entry.2 table) table =
        table ++ entries from
    aux [] fun d hd => absurd hd List.not_mem_nil
  induction entries with
  | nil => exact fun table _ => (List.append_nil table).symm
  | cons entry rest ih =>
    intro table hbelow
    have hentry : Entries.insert entry.1 entry.2 table = table ++ [entry] :=
      insert_eq_append (fun d hd => hbelow d hd entry List.mem_cons_self) entry.2
    have hrest : ∀ d ∈ table ++ [entry], ∀ e ∈ rest, d.1 < e.1 := by
      intro d hd e he
      rcases List.mem_append.1 hd with hd | hd
      · exact hbelow d hd e (List.mem_cons_of_mem _ he)
      · rw [List.mem_singleton.1 hd]
        exact List.rel_of_pairwise_cons h he
    rw [List.foldl_cons, hentry, ih (List.Pairwise.of_cons h) _ hrest, List.append_assoc]
    rfl

omit [DecidableLT κ] in
theorem Sorted.find?_eq_some_iff {entries : List (κ × ν)} (h : Sorted entries) {k : κ} {v : ν} :
    find? k entries = some v ↔ (k, v) ∈ entries := by
  refine ⟨mem_of_find?, fun hmem => ?_⟩
  induction entries with
  | nil => exact absurd hmem List.not_mem_nil
  | cons entry rest ih =>
    rcases List.mem_cons.1 hmem with rfl | hmem
    · rw [find?, if_pos rfl]
    · have hlt : entry.1 < k := List.rel_of_pairwise_cons h hmem
      have hne : k ≠ entry.1 := fun heq => KeyOrder.lt_irrefl k (heq ▸ hlt)
      rw [find?, if_neg hne]
      exact ih (List.Pairwise.of_cons h) hmem

omit [DecidableEq κ] [DecidableLT κ] in
theorem Sorted.nodup {entries : List (κ × ν)} (h : Sorted entries) : entries.Nodup := by
  refine List.Pairwise.imp (fun hlt => ?_) h
  rintro rfl
  exact KeyOrder.lt_irrefl _ hlt

end Entries

namespace Table

variable {κ ν : Type} [LT κ] {a b : Table κ ν}

theorem eq_of_entries_eq (h : a.entries = b.entries) : a = b := by
  cases a
  cases h
  rfl

/-- Tables in which the same is found are the same. -/
theorem ext_find? [DecidableEq κ] [KeyOrder κ] (h : ∀ k, a.find? k = b.find? k) : a = b := by
  have hmem (entry : κ × ν) : entry ∈ a.entries ↔ entry ∈ b.entries := by
    rw [← a.sorted.find?_eq_some_iff, ← b.sorted.find?_eq_some_iff]
    exact iff_of_eq (congrArg (· = some entry.2) (h entry.1))
  have hperm : a.entries.Perm b.entries :=
    (List.perm_ext_iff_of_nodup a.sorted.nodup b.sorted.nodup).2 hmem
  refine eq_of_entries_eq (hperm.eq_of_pairwise (fun x y _ _ hxy hyx => ?_) a.sorted b.sorted)
  exact absurd (KeyOrder.lt_trans hxy hyx) (KeyOrder.lt_irrefl _)

end Table

namespace Json

/-- The one tree is the other, or stands inside it. -/
inductive Part : Json → Json → Prop where
  | refl (tree : Json) : Part tree tree
  | item {part item : Json} {items : List Json} (mem : item ∈ items) (h : Part part item) :
    Part part (.arr items)
  | member {part value : Json} {key : String} {members : List (String × Json)}
    (mem : (key, value) ∈ members) (h : Part part value) : Part part (.obj members)

/-- The tree and all trees inside it have a property. -/
def Everywhere (Q : Json → Prop) (tree : Json) : Prop := ∀ part, Part part tree → Q part

/-- If it is an object, it is a table. -/
def IsTable : Json → Prop
  | .obj members => Entries.Sorted members
  | _ => True

/-- If it is a number, it has a property. -/
def IfNumber (P : Number → Prop) : Json → Prop
  | .num n => P n
  | _ => True

variable {Q : Json → Prop} {tree value : Json} {keys : List String}

namespace Everywhere

theorem self (h : Everywhere Q tree) : Q tree := h tree (.refl tree)

theorem item {items : List Json} (h : Everywhere Q (.arr items)) {item : Json}
    (mem : item ∈ items) : Everywhere Q item :=
  fun part hpart => h part (.item mem hpart)

theorem member {members : List (String × Json)} (h : Everywhere Q (.obj members))
    {e : String × Json} (mem : e ∈ members) : Everywhere Q e.2 :=
  fun part hpart => h part (.member mem hpart)

theorem arr {items : List Json} (h : Q (.arr items)) (inside : ∀ item ∈ items, Everywhere Q item) :
    Everywhere Q (.arr items) := by
  intro part hpart
  cases hpart with
  | refl => exact h
  | item mem hpart => exact inside _ mem part hpart

theorem obj {members : List (String × Json)} (h : Q (.obj members))
    (inside : ∀ e ∈ members, Everywhere Q e.2) : Everywhere Q (.obj members) := by
  intro part hpart
  cases hpart with
  | refl => exact h
  | member mem hpart => exact inside _ mem part hpart

theorem imp {R : Json → Prop} (h : Everywhere Q tree) (himp : ∀ part, Q part → R part) :
    Everywhere R tree :=
  fun part hpart => himp part (h part hpart)

theorem null (h : Q .null) : Everywhere Q .null := by
  intro part hpart
  cases hpart
  exact h

theorem bool {b : Bool} (h : Q (.bool b)) : Everywhere Q (.bool b) := by
  intro part hpart
  cases hpart
  exact h

theorem num {n : Number} (h : Q (.num n)) : Everywhere Q (.num n) := by
  intro part hpart
  cases hpart
  exact h

theorem str {s : String} (h : Q (.str s)) : Everywhere Q (.str s) := by
  intro part hpart
  cases hpart
  exact h

theorem single {s : String} (list : ∀ items, Q (.arr items)) (text : Q (.str s)) :
    Everywhere Q (single s) := by
  refine .arr (list _) fun item hitem => ?_
  rw [List.mem_singleton.1 hitem]
  exact .str text

/-! ### Along a path -/

theorem get? (h : Everywhere Q tree) (found : Json.get? keys tree = some value) :
    Everywhere Q value := by
  induction keys generalizing tree with
  | nil =>
    cases found
    exact h
  | cons key rest ih =>
    obtain ⟨next, hnext, hrest⟩ := Option.bind_eq_some_iff.1 found
    cases tree with
    | obj members => exact ih (h.member (Entries.mem_of_find? hnext)) hrest
    | _ => cases hnext

end Everywhere

/-- A new member breaks nothing. -/
structure Grows (Q : Json → Prop) : Prop where
  empty : Q empty
  insert {members : List (String × Json)} (h : Q (.obj members)) (key : String) (value : Json) :
    Q (.obj (Entries.insert key value members))

theorem grows_isTable : Grows IsTable where
  empty := List.Pairwise.nil
  insert h key value := Entries.Sorted.insert h key value

theorem grows_ifNumber (P : Number → Prop) : Grows (IfNumber P) := ⟨trivial, fun _ _ _ => trivial⟩

namespace Everywhere

theorem empty (grows : Grows Q) : Everywhere Q Json.empty :=
  .obj grows.empty fun _ he => absurd he List.not_mem_nil

theorem write (grows : Grows Q) (hvalue : Everywhere Q value) (keys : List String)
    (h : Everywhere Q tree) : Everywhere Q (Json.write value keys tree).tree := by
  induction keys generalizing tree with
  | nil => exact hvalue
  | cons key rest ih =>
    cases tree with
    | obj members =>
      have hnext : Everywhere Q ((Entries.find? key members).getD Json.empty) := by
        cases hfound : Entries.find? key members with
        | none => exact empty grows
        | some next => exact h.member (Entries.mem_of_find? hfound)
      refine .obj (grows.insert h.self key _) fun e he => ?_
      rcases Entries.mem_insert he with rfl | he
      · exact ih hnext
      · exact h.member he
    | _ => exact h

theorem place (grows : Grows Q) {value : Option Json} (hvalue : ∀ v ∈ value, Everywhere Q v)
    (keys : List String) (h : Everywhere Q tree) : Everywhere Q (Json.place keys value tree) := by
  cases value with
  | none => exact h
  | some v => exact .write grows (hvalue v rfl) keys h

theorem treeOf (grows : Grows Q) (paths : FlagPaths) {u v : Option Json}
    (hu : ∀ w ∈ u, Everywhere Q w) (hv : ∀ w ∈ v, Everywhere Q w) :
    Everywhere Q (paths.treeOf u v) :=
  .place grows hv _ (.place grows hu _ (.empty grows))

theorem restrict (grows : Grows Q) (paths : FlagPaths) (h : Everywhere Q tree) :
    Everywhere Q (paths.restrict tree) := by
  rw [FlagPaths.restrict_eq_treeOf]
  exact .treeOf grows paths (fun _ hu => h.get? hu) fun _ hv => h.get? hv

end Everywhere

/-! ### Order -/

mutual

/-- A tree in which every object is a table is in order. -/
theorem canonical_eq : (tree : Json) → Everywhere IsTable tree → canonical tree = tree
  | .arr items, h => congrArg Json.arr (canonicalItems_eq items fun _ => h.item)
  | .obj members, h => by
    rw [canonical, canonicalMembers_eq members fun _ => h.member, Entries.Sorted.arrange_eq h.self]
  | .null, _ => rfl
  | .bool _, _ => rfl
  | .num _, _ => rfl
  | .str _, _ => rfl

theorem canonicalItems_eq : (items : List Json) → (∀ item ∈ items, Everywhere IsTable item) →
    canonicalItems items = items
  | [], _ => rfl
  | item :: rest, h => by
    rw [canonicalItems, canonical_eq item (h item List.mem_cons_self),
      canonicalItems_eq rest fun i hi => h i (List.mem_cons_of_mem _ hi)]

theorem canonicalMembers_eq : (members : List (String × Json)) →
    (∀ e ∈ members, Everywhere IsTable e.2) → canonicalMembers members = members
  | [], _ => rfl
  | (key, value) :: rest, h => by
    rw [canonicalMembers, canonical_eq value (h (key, value) List.mem_cons_self),
      canonicalMembers_eq rest fun e he => h e (List.mem_cons_of_mem _ he)]

end

mutual

/-- Every object of a tree that has been put in order is a table. -/
theorem everywhere_isTable_canonical : (tree : Json) → Everywhere IsTable (canonical tree)
  | .arr items => .arr trivial (everywhere_isTable_canonicalItems items)
  | .obj members =>
    .obj (Entries.sorted_arrange _) fun e he =>
      everywhere_isTable_canonicalMembers members e (Entries.mem_arrange he)
  | .null => .null trivial
  | .bool _ => .bool trivial
  | .num _ => .num trivial
  | .str _ => .str trivial

theorem everywhere_isTable_canonicalItems : (items : List Json) →
    ∀ item ∈ canonicalItems items, Everywhere IsTable item
  | [], _, h => absurd h List.not_mem_nil
  | first :: rest, item, h => by
    rcases List.mem_cons.1 h with rfl | h
    · exact everywhere_isTable_canonical first
    · exact everywhere_isTable_canonicalItems rest item h

theorem everywhere_isTable_canonicalMembers : (members : List (String × Json)) →
    ∀ e ∈ canonicalMembers members, Everywhere IsTable e.2
  | [], _, h => absurd h List.not_mem_nil
  | (_, value) :: rest, e, h => by
    rcases List.mem_cons.1 h with rfl | h
    · exact everywhere_isTable_canonical value
    · exact everywhere_isTable_canonicalMembers rest e h

end

/-! ### Nesting -/

theorem depthMembers_le_iff {members : List (String × Json)} {d : Nat} :
    depthMembers members ≤ d ↔ ∀ e ∈ members, depth e.2 ≤ d := by
  induction members with
  | nil => exact iff_of_true (Nat.zero_le d) fun _ h => absurd h List.not_mem_nil
  | cons e rest ih =>
    obtain ⟨key, value⟩ := e
    rw [depthMembers, Nat.max_le, ih, List.forall_mem_cons]

theorem depth_le_depthMembers {members : List (String × Json)} {e : String × Json}
    (h : e ∈ members) : depth e.2 ≤ depthMembers members :=
  depthMembers_le_iff.1 (Nat.le_refl _) e h

mutual

theorem depth_canonical_le : (tree : Json) → depth (canonical tree) ≤ depth tree
  | .arr items => Nat.add_le_add_left (depthItems_canonicalItems_le items) 1
  | .obj members => by
    refine Nat.add_le_add_left (depthMembers_le_iff.2 fun e he => ?_) 1
    exact Nat.le_trans (depth_le_depthMembers (Entries.mem_arrange he))
      (depthMembers_canonicalMembers_le members)
  | .null => Nat.le_refl 0
  | .bool _ => Nat.le_refl 0
  | .num _ => Nat.le_refl 0
  | .str _ => Nat.le_refl 0

theorem depthItems_canonicalItems_le : (items : List Json) →
    depthItems (canonicalItems items) ≤ depthItems items
  | [] => Nat.le_refl 0
  | item :: rest => by
    have hitem := depth_canonical_le item
    have hrest := depthItems_canonicalItems_le rest
    rw [canonicalItems, depthItems, depthItems]
    omega

theorem depthMembers_canonicalMembers_le : (members : List (String × Json)) →
    depthMembers (canonicalMembers members) ≤ depthMembers members
  | [] => Nat.le_refl 0
  | (key, value) :: rest => by
    have hvalue := depth_canonical_le value
    have hrest := depthMembers_canonicalMembers_le rest
    rw [canonicalMembers, depthMembers, depthMembers]
    omega

end

/-- Each key of a path leads one level down. -/
theorem depth_le_of_get? (found : get? keys tree = some value) :
    keys.length + depth value ≤ depth tree := by
  induction keys generalizing tree with
  | nil =>
    cases found
    exact Nat.le_of_eq (Nat.zero_add _)
  | cons key rest ih =>
    obtain ⟨next, hnext, hrest⟩ := Option.bind_eq_some_iff.1 found
    cases tree with
    | obj members =>
      have hinner := ih hrest
      have hmember : depth next ≤ depthMembers members :=
        depth_le_depthMembers (Entries.mem_of_find? hnext)
      rw [List.length_cons, depth]
      omega
    | _ => cases hnext

theorem depthMembers_insert_le {members : List (String × Json)} {d : Nat}
    (h : depthMembers members ≤ d) (hvalue : depth value ≤ d) (key : String) :
    depthMembers (Entries.insert key value members) ≤ d := by
  refine depthMembers_le_iff.2 fun e he => ?_
  rcases Entries.mem_insert he with rfl | he
  · exact hvalue
  · exact depthMembers_le_iff.1 h e he

theorem depth_write_empty_le (value : Json) (keys : List String) :
    depth (write value keys empty).tree ≤ keys.length + depth value := by
  induction keys with
  | nil => exact Nat.le_of_eq (Nat.zero_add _).symm
  | cons key rest ih =>
    have hinsert : depthMembers (Entries.insert key (write value rest empty).tree []) ≤
        rest.length + depth value :=
      depthMembers_insert_le (Nat.zero_le _) ih key
    rw [List.length_cons, Nat.add_right_comm, Nat.add_comm _ 1]
    exact Nat.add_le_add_left hinsert 1

theorem depth_write_le {d : Nat} (h : depth tree ≤ d) (hvalue : keys.length + depth value ≤ d) :
    depth (write value keys tree).tree ≤ d := by
  induction keys generalizing tree d with
  | nil =>
    rw [List.length_nil, Nat.zero_add] at hvalue
    exact hvalue
  | cons key rest ih =>
    cases tree with
    | obj members =>
      rw [depth] at h
      rw [List.length_cons] at hvalue
      obtain ⟨d, rfl⟩ : ∃ e, d = 1 + e := ⟨d - 1, by omega⟩
      have hinner :
          depth (write value rest ((Entries.find? key members).getD empty)).tree ≤ d := by
        cases hfound : Entries.find? key members with
        | none =>
          have hempty := depth_write_empty_le value rest
          rw [Option.getD_none]
          omega
        | some next =>
          have hnext : depth next ≤ depthMembers members :=
            depth_le_depthMembers (Entries.mem_of_find? hfound)
          exact ih (Nat.le_trans hnext (by omega)) (by omega)
      exact Nat.add_le_add_left (depthMembers_insert_le (by omega) hinner key) 1
    | _ => exact h

theorem depth_place_le {value : Option Json} {d : Nat} (h : depth tree ≤ d)
    (hvalue : ∀ v ∈ value, keys.length + depth v ≤ d) : depth (place keys value tree) ≤ d := by
  cases value with
  | none => exact h
  | some v => exact depth_write_le h (hvalue v rfl)

end Json

namespace FlagPaths

open Json

theorem depth_treeOf_le (paths : FlagPaths) {u v : Option Json} {d : Nat} (hd : 1 ≤ d)
    (hu : ∀ w ∈ u, paths.name.keys.length + w.depth ≤ d)
    (hv : ∀ w ∈ v, paths.config.keys.length + w.depth ≤ d) : (paths.treeOf u v).depth ≤ d :=
  depth_place_le (depth_place_le hd hu) hv

/-- Copying what stands at the two paths does not nest it deeper. -/
theorem depth_restrict_le (paths : FlagPaths) {tree : Json} {d : Nat} (hd : 1 ≤ d)
    (h : tree.depth ≤ d) : (paths.restrict tree).depth ≤ d := by
  rw [restrict_eq_treeOf]
  exact paths.depth_treeOf_le hd (fun _ hu => Nat.le_trans (depth_le_of_get? hu) h)
    fun _ hv => Nat.le_trans (depth_le_of_get? hv) h

end FlagPaths

end CloudFlags
