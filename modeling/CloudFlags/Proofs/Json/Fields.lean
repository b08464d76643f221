import CloudFlags.Proofs.Json.ConfigMaps

/-! Objects that are written field by field. Whatever the order in which the fields are given, each
key is found with its own value, a field that is not set is not found
(`Json.member?_of_eq_ofFields`), and those that are set stand in the order of their keys
(`Json.ofFields_eq`). Reading them goes through the members of an object, or the fields of a record,
one after another, and keeps what each of these readings keeps. -/

namespace CloudFlags

namespace Entries

variable {κ ν : Type} [DecidableEq κ]

theorem find?_eq_none {entries : List (κ × ν)} {k : κ} (h : k ∉ entries.map Prod.fst) :
    find? k entries = none := by
  cases hfind : find? k entries with
  | none => rfl
  | some v => exact absurd (List.mem_map_of_mem (mem_of_find? hfind)) h

/-- If no key is given twice, putting entries in order changes nothing about what is found. -/
theorem find?_arrange [LT κ] [DecidableLT κ] {entries : List (κ × ν)}
    (h : (entries.map Prod.fst).Nodup) (k : κ) : find? k (arrange entries) = find? k entries := by
  suffices aux : ∀ table : List (κ × ν),
      find? k (entries.foldl (fun table entry => Entries.insert entry.1 entry.2 table) table) =
        (find? k entries).or (find? k table) from
    (aux []).trans (Option.or_none)
  induction entries with
  | nil => exact fun table => rfl
  | cons entry rest ih =>
    obtain ⟨key, v⟩ := entry
    obtain ⟨hkey, hrest⟩ := List.nodup_cons.1 h
    intro table
    rw [List.foldl_cons, ih hrest, find?]
    split
    · next heq =>
      cases heq
      rw [find?_eq_none hkey, find?_insert_self]
      rfl
    · next hne => rw [find?_insert_of_ne hne]

theorem find?_eq_some_iff {entries : List (κ × ν)} (h : (entries.map Prod.fst).Nodup) {k : κ}
    {v : ν} : find? k entries = some v ↔ (k, v) ∈ entries := by
  refine ⟨mem_of_find?, fun hmem => ?_⟩
  induction entries with
  | nil => cases hmem
  | cons entry rest ih =>
    obtain ⟨hentry, hrest⟩ := List.nodup_cons.1 h
    rcases List.mem_cons.1 hmem with rfl | hmem
    · exact if_pos rfl
    · have hne : k ≠ entry.1 := by
        rintro rfl
        exact hentry (List.mem_map.2 ⟨_, hmem, rfl⟩)
      exact (if_neg hne).trans (ih hrest hmem)

omit [DecidableEq κ] in
theorem Sorted.nodup_keys [LT κ] [KeyOrder κ] {entries : List (κ × ν)} (h : Sorted entries) :
    (entries.map Prod.fst).Nodup := by
  refine List.pairwise_map.2 (h.imp ?_)
  intro a b hlt heq
  exact KeyOrder.lt_irrefl b.1 (heq ▸ hlt)

/-- Entries with distinct keys have one arrangement. -/
theorem arrange_eq_of_perm [LT κ] [DecidableLT κ] [KeyOrder κ] {given entries : List (κ × ν)}
    (hperm : entries.Perm given) (hsorted : Sorted entries) : arrange given = entries := by
  have hgiven : (given.map Prod.fst).Nodup :=
    (hperm.map Prod.fst).nodup_iff.1 hsorted.nodup_keys
  refine congrArg Table.entries (Table.ext_find? fun k => Option.ext fun v => ?_ :
    Table.ofList given = ⟨entries, hsorted⟩)
  calc
    find? k (arrange given) = some v ↔ (k, v) ∈ given := by
      rw [find?_arrange hgiven, find?_eq_some_iff hgiven]
    _ ↔ find? k entries = some v := by rw [hsorted.find?_eq_some_iff, hperm.mem_iff]

end Entries

namespace Json

/-- The entries of the fields that are set. -/
abbrev setEntries (fields : List (String × Option Json)) : List (String × Json) :=
  fields.filterMap fun field => field.2.map (field.1, ·)

theorem sublist_keys_setEntries (fields : List (String × Option Json)) :
    ((setEntries fields).map Prod.fst).Sublist (fields.map Prod.fst) := by
  induction fields with
  | nil => exact .slnil
  | cons field rest ih =>
    obtain ⟨key, _ | value⟩ := field
    · exact ih.cons key
    · exact ih.cons_cons key

theorem find?_setEntries {fields : List (String × Option Json)} {field : String × Option Json}
    (h : (fields.map Prod.fst).Nodup) (hmem : field ∈ fields) :
    Entries.find? field.1 (setEntries fields) = field.2 := by
  induction fields with
  | nil => exact absurd hmem List.not_mem_nil
  | cons first rest ih =>
    obtain ⟨hfirst, hrest⟩ := List.nodup_cons.1 h
    rcases List.mem_cons.1 hmem with rfl | hfield
    · obtain ⟨key, _ | value⟩ := field
      · exact Entries.find?_eq_none fun hkey => hfirst ((sublist_keys_setEntries rest).subset hkey)
      · exact if_pos rfl
    · have hne : field.1 ≠ first.1 := by
        intro heq
        exact hfirst (heq ▸ List.mem_map_of_mem hfield)
      obtain ⟨key, _ | value⟩ := first
      · exact ih hrest hfield
      · exact (if_neg hne).trans (ih hrest hfield)

/-- A field that is set is found under its key, and one that is not set is not found. -/
theorem member?_of_eq_ofFields {tree : Json} {fields : List (String × Option Json)}
    (h : tree = ofFields fields) (distinct : (fields.map Prod.fst).Nodup) :
    ∀ field ∈ fields, tree.member? field.1 = field.2 := by
  intro field hfield
  have hkeys := distinct.sublist (sublist_keys_setEntries fields)
  calc
    tree.member? field.1 = Entries.find? field.1 (Entries.arrange (setEntries fields)) := by
      rw [h]
      rfl
    _ = Entries.find? field.1 (setEntries fields) := Entries.find?_arrange hkeys field.1
    _ = field.2 := find?_setEntries distinct hfield

/-- Fields with distinct keys are written in the order of their keys. -/
theorem ofFields_eq {fields : List (String × Option Json)} {entries : List (String × Json)}
    (hperm : entries.Perm (setEntries fields))
    (sorted : (entries.map Prod.fst).Pairwise (· < ·)) : ofFields fields = .obj entries :=
  congrArg obj (Entries.arrange_eq_of_perm hperm (List.pairwise_map.1 sorted))

theorem ofFields_ne_null (fields : List (String × Option Json)) : ofFields fields ≠ .null := nofun

/-! ### Reading them again -/

variable {ε α β σ : Type} {key : String} {tree : Json} {value : α} {s s' t : σ}
  {shape : Shape α} {given : List (String × Json)}

theorem foldlM_cons_of_ok {f : σ → β → Except ε σ} {b : β} {rest : List β} (h : f s b = .ok s')
    (hrest : rest.foldlM f s' = .ok t) : (b :: rest).foldlM f s = .ok t := by
  rw [List.foldlM_cons, h]
  exact hrest

theorem Shape.ofTree_optional (hnull : tree ≠ .null) (h : shape.ofTree tree = .ok value) :
    shape.optional.ofTree tree = .ok (some value) := by
  cases tree with
  | null => exact absurd rfl hnull
  | _ => exact congrArg (Except.map some) h

/-- A list is read again as it was if each of its items is. -/
theorem Shape.ofTree_list {write : α → Json} {values : List α}
    (h : ∀ value ∈ values, shape.ofTree (write value) = .ok value) :
    shape.list.ofTree (.arr (values.map write)) = .ok values := by
  show (values.map write).mapM shape.ofTree = _
  induction values with
  | nil => rfl
  | cons value rest ih =>
    obtain ⟨hvalue, hrest⟩ := List.forall_mem_cons.1 h
    rw [List.map_cons, List.mapM_cons, hvalue, ih hrest]
    rfl

/-- Reading a value puts it into its object. -/
theorem Shape.ofTree_put (put : α → σ → σ) (s : σ) (h : shape.ofTree tree = .ok value) :
    ((shape.map fun value s => (.ok (put value s) : Except Mismatch σ)).ofTree tree >>=
      fun change => change s) = .ok (put value s) := by
  show (Except.map _ (shape.ofTree tree) >>= fun change : σ → Except Mismatch σ => change s) = _
  rw [h]
  rfl

theorem Member.ofTree_present {put : α → σ → σ} (found : (Json.obj given).member? key = some tree)
    (h : shape.ofTree tree = .ok value) : (Member.field key shape put).ofTree given s =
      .ok (put value s) := by
  have hfind : Entries.find? key given = some tree := found
  rw [Member.ofTree, Member.field, hfind]
  exact Shape.ofTree_put put s h

/-- A member that may be missing is read as what was written, if anything was. -/
theorem Member.ofTree_optional {put : Option α → σ → σ} {write : α → Json} {value : Option α}
    (found : (Json.obj given).member? key = value.map write)
    (h : ∀ a ∈ value, shape.optional.ofTree (write a) = .ok (some a)) (hput : put none s = s) :
    (Member.field key shape.optional put).ofTree given s = .ok (put value s) := by
  cases value with
  | none =>
    have hfind : Entries.find? key given = none := found
    rw [Member.ofTree, Member.field, hfind, hput]
  | some a => exact ofTree_present found (h a rfl)

namespace Record

variable {record : Record σ} {presence : Presence} {put : α → σ → σ}

theorem ofMember_of_unknown (h : record.slot? key = none) :
    record.ofMember s (key, tree) = .ok s := by
  rw [ofMember, h]

theorem ofMember_of_known (hslot : record.slot? key = some (.field presence key shape put))
    (h : shape.ofTree tree = .ok value) : record.ofMember s (key, tree) = .ok (put value s) := by
  rw [ofMember, hslot]
  exact Shape.ofTree_put put s h

theorem ofTree_of_foldlM (h : given.foldlM record.ofMember record.default = .ok s)
    (hmissing : record.missing? (given.map (·.1)) = none) :
    record.shape.ofTree (.obj given) = .ok s := by
  simp only [shape, h, hmissing]
  rfl

section Keeps

variable {P : σ → Prop}

theorem keeps_ofMembers (hslots : ∀ slot ∈ record.slots, slot.toMember.Keeps P) (hs : P s)
    (h : given.foldlM record.ofMember s = .ok t) : P t := by
  induction given generalizing s with
  | nil =>
    cases h
    exact hs
  | cons member rest ih =>
    rw [List.foldlM_cons] at h
    obtain ⟨next, hnext, hrest⟩ := exists_of_bind_eq_ok h
    refine ih ?_ hrest
    rw [ofMember] at hnext
    split at hnext
    · cases hnext
      exact hs
    · next slot hslot =>
      obtain ⟨change, hshape, hchange⟩ := exists_of_bind_eq_ok hnext
      exact hslots slot (List.mem_of_find?_eq_some hslot) _ change s next hshape hs hchange

theorem keeps_ofItems {index : Nat} {slots : List (Slot σ)} {items : List Json}
    (hslots : ∀ slot ∈ slots, slot.toMember.Keeps P) (hs : P s)
    (h : record.ofItems index slots items s = .ok t) : P t := by
  induction slots generalizing index items s with
  | nil =>
    cases h
    exact hs
  | cons slot slots ih =>
    obtain ⟨hslot, hrest⟩ := List.forall_mem_cons.1 hslots
    cases items with
    | nil =>
      rw [ofItems] at h
      split at h
      · exact ih hrest hs h
      · cases h
    | cons item items =>
      obtain ⟨change, hshape, h⟩ := exists_of_bind_eq_ok h
      obtain ⟨next, hchange, h⟩ := exists_of_bind_eq_ok h
      exact ih hrest (hslot item change s next hshape hs hchange) h

end Keeps

/-- What reading each field keeps, reading the record keeps, be it an object or a list. -/
theorem shape_keeps {P : σ → Prop} (hdefault : P record.default)
    (hslots : ∀ slot ∈ record.slots, slot.toMember.Keeps P)
    (h : record.shape.ofTree tree = .ok s) : P s := by
  cases tree with
  | obj given =>
    obtain ⟨found, hfound, h⟩ := exists_of_bind_eq_ok h
    have hs : P found := keeps_ofMembers hslots hdefault hfound
    split at h
    · cases h
    · cases h
      exact hs
  | arr items =>
    obtain ⟨found, hfound, h⟩ := exists_of_bind_eq_ok h
    have hs : P found := keeps_ofItems hslots hdefault hfound
    split at h
    · cases h
    · cases h
      exact hs
  | _ => cases h

end Record

end Json

end CloudFlags
