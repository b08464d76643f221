import CloudFlags.Api.Store
import CloudFlags.Proofs.Json.Numbers
import CloudFlags.Proofs.Json.Parts

/-! Config maps as trees. Reading an object keeps what reading each of its members keeps, so what is
read as a config map has its bytes in base 64. Contents of that kind are read again as they were
once they are written, and this is how a config map comes to be a copy of another. -/

namespace CloudFlags

namespace Json

variable {ε α β σ : Type}

theorem exists_of_bind_eq_ok {x : Except ε α} {f : α → Except ε β} {b : β} (h : x >>= f = .ok b) :
    ∃ a, x = .ok a ∧ f a = .ok b := by
  cases x with
  | error e => cases h
  | ok a => exact ⟨a, rfl, h⟩

theorem exists_of_mem_mapM {f : α → Except ε β} {values : List α} {results : List β}
    (h : values.mapM f = .ok results) : ∀ b ∈ results, ∃ a ∈ values, f a = .ok b := by
  induction values generalizing results with
  | nil =>
    cases h
    exact fun b hb => absurd hb List.not_mem_nil
  | cons value rest ih =>
    rw [List.mapM_cons] at h
    obtain ⟨first, hfirst, h⟩ := exists_of_bind_eq_ok h
    obtain ⟨others, hothers, h⟩ := exists_of_bind_eq_ok h
    cases h
    intro b hb
    rcases List.mem_cons.1 hb with rfl | hb
    · exact ⟨value, List.mem_cons_self, hfirst⟩
    · obtain ⟨a, ha, hread⟩ := ih hothers b hb
      exact ⟨a, List.mem_cons_of_mem _ ha, hread⟩

/-! ### Objects -/

/-- Reading the member keeps a property of its object. -/
def Member.Keeps (P : σ → Prop) (member : Member σ) : Prop :=
  ∀ tree change s s', member.shape.ofTree tree = .ok change → P s → change s = .ok s' → P s'

namespace Member.Keeps

variable {P : σ → Prop} {key : String} {s s' : σ}

theorem constant {expected : String} : (Member.constant key expected).Keeps P := by
  intro tree change s s' hread hs hchange
  obtain ⟨found, -, rfl⟩ := exists_of_map_eq_ok hread
  split at hchange
  · cases hchange
    exact hs
  · cases hchange

theorem field {shape : Shape α} {put : α → σ → σ}
    (h : ∀ tree value s, shape.ofTree tree = .ok value → P s → P (put value s)) :
    (Member.field key shape put).Keeps P := by
  intro tree change s s' hread hs hchange
  obtain ⟨value, hvalue, rfl⟩ := exists_of_map_eq_ok hread
  cases hchange
  exact h tree value s hvalue hs

theorem ofTree {member : Member σ} {given : List (String × Json)} (h : member.Keeps P) (hs : P s)
    (hread : member.ofTree given s = .ok s') : P s' := by
  rw [Member.ofTree] at hread
  split at hread
  · cases hread
    exact hs
  · next tree _ =>
    obtain ⟨change, hshape, hchange⟩ := exists_of_bind_eq_ok hread
    exact h tree change s s' hshape hs hchange

/-- What reading each member keeps, reading the members one after another keeps. -/
theorem foldlM {members : List (Member σ)} {given : List (String × Json)}
    (h : ∀ member ∈ members, member.Keeps P) (hs : P s)
    (hread : members.foldlM (Member.ofTree given) s = .ok s') : P s' := by
  induction members generalizing s with
  | nil =>
    cases hread
    exact hs
  | cons member rest ih =>
    rw [List.foldlM_cons] at hread
    obtain ⟨next, hnext, hrest⟩ := exists_of_bind_eq_ok hread
    obtain ⟨hmember, h⟩ := List.forall_mem_cons.1 h
    exact ih h (hmember.ofTree hs hnext) hrest

end Member.Keeps

namespace Shape

/-- What reading each member keeps, reading the object keeps. -/
theorem object_keeps {P : σ → Prop} {name : String} {default s : σ} {members : List (Member σ)}
    {tree : Json} (hdefault : P default) (hmembers : ∀ member ∈ members, member.Keeps P)
    (h : (Shape.object name default members).ofTree tree = .ok s) : P s := by
  cases tree with
  | obj given => exact Member.Keeps.foldlM hmembers hdefault h
  | _ => cases h

/-! ### Values and tables -/

variable {shape : Shape α}

theorem ofTree_of_optional {tree : Json} {value : α}
    (h : shape.optional.ofTree tree = .ok (some value)) : shape.ofTree tree = .ok value := by
  cases tree with
  | null => cases h
  | _ =>
    obtain ⟨found, hfound, heq⟩ := exists_of_map_eq_ok h
    cases heq
    exact hfound

/-- What holds of every value that is read holds of all values of a table that is read. -/
theorem values_of_table {Q : α → Prop} (h : ∀ tree value, shape.ofTree tree = .ok value → Q value)
    {tree : Json} {table : Table String α} (hread : shape.table.ofTree tree = .ok table) :
    ∀ entry ∈ table.entries, Q entry.2 := by
  cases tree with
  | obj members =>
    obtain ⟨entries, hentries, rfl⟩ := exists_of_map_eq_ok hread
    intro entry hentry
    obtain ⟨member, -, hmember⟩ := exists_of_mem_mapM hentries entry (Entries.mem_arrange hentry)
    obtain ⟨value, hvalue, rfl⟩ := exists_of_map_eq_ok hmember
    exact h member.2 value hvalue
  | _ => cases hread

/-- A table of texts is read again as it was if each of its texts is. -/
theorem ofTree_ofTable {shape : Shape String} {table : Table String String}
    (h : ∀ entry ∈ table.entries, shape.ofTree (.str entry.2) = .ok entry.2) :
    shape.table.ofTree (ofTable table) = .ok table := by
  have hmembers : ∀ entries ⊆ table.entries,
      (entries.map fun entry => (entry.1, Json.str entry.2)).mapM
        (fun member => (shape.ofTree member.2).map (member.1, ·)) = .ok entries := by
    intro entries hsubset
    induction entries with
    | nil => rfl
    | cons entry rest ih =>
      obtain ⟨hentry, hrest⟩ := List.cons_subset.1 hsubset
      rw [List.map_cons, List.mapM_cons, ih hrest, h entry hentry]
      rfl
  have hlist : Table.ofList table.entries = table :=
    Table.eq_of_entries_eq table.sorted.arrange_eq
  show Except.map Table.ofList _ = _
  rw [hmembers table.entries (List.Subset.refl _)]
  exact congrArg Except.ok hlist

end Shape

end Json

open Api Json Resource

/-! ### Contents -/

/-- The bytes are texts in base 64. -/
def Contents.Encoded (c : Contents) : Prop :=
  ∀ table ∈ c.binaryData, ∀ entry ∈ table.entries, Text.checkBase64 entry.2 = .ok ()

theorem Json.Shape.checkBase64_of_base64 {tree : Json} {text : String}
    (h : Shape.base64.ofTree tree = .ok text) : Text.checkBase64 text = .ok () := by
  cases tree with
  | null =>
    cases h
    rfl
  | str s =>
    obtain ⟨_, hcheck, rfl⟩ := exists_of_map_eq_ok h
    cases hs : Text.checkBase64 s with
    | ok _ => rfl
    | error fault =>
      rw [hs] at hcheck
      cases hcheck
  | _ => cases h

/-- What is read as a config map has its bytes in base 64. -/
theorem Resource.ConfigMap.encoded_contents {tree : Json} {map : ConfigMap}
    (h : ConfigMap.shape.ofTree tree = .ok map) : map.contents.Encoded := by
  have hdefault : (ConfigMap.contents ⟨{}, none, none, none⟩).Encoded := fun _ h => by cases h
  have hbytes : (Member.field "binaryData" Shape.base64.table.optional
      fun t (m : ConfigMap) => { m with binaryData := t }).Keeps (·.contents.Encoded) := by
    refine .field fun tree value m hread _ => ?_
    rintro table ⟨⟩
    exact Shape.values_of_table (fun _ _ => Shape.checkBase64_of_base64)
      (Shape.ofTree_of_optional hread)
  refine Shape.object_keeps (P := fun map : ConfigMap => map.contents.Encoded) hdefault ?_ h
  simp only [List.forall_mem_cons]
  exact ⟨.constant, hbytes, .field fun _ _ _ _ h => h, .field fun _ _ _ _ h => h, .constant,
    .field fun _ _ _ _ h => h, fun _ h => absurd h List.not_mem_nil⟩

theorem Json.Shape.ofTree_texts (table : Table String String) :
    Shape.string.table.optional.ofTree (ofTable table) = .ok (some table) :=
  congrArg (Except.map some) (ofTree_ofTable fun _ _ => rfl)

theorem Contents.Encoded.ofTree_bytes {c : Contents} (h : c.Encoded) {table : Table String String}
    (hbytes : table ∈ c.binaryData) :
    Shape.base64.table.optional.ofTree (ofTable table) = .ok (some table) := by
  refine congrArg (Except.map some) (Shape.ofTree_ofTable fun entry hentry => ?_)
  show Except.map _ (Except.mapError _ (Text.checkBase64 entry.2)) = _
  rw [h table hbytes entry hentry]
  rfl

theorem Resource.Metadata.ofTree_named (l : Location) :
    Metadata.shape.optional.ofTree (Metadata.named l.space l.name).toJson =
      .ok (some (Metadata.named l.space l.name)) := by
  simp only [Metadata.toJson, Metadata.named, ofFields, Entries.arrange, Entries.insert,
    List.filterMap_cons_some, List.filterMap_cons_none, List.filterMap_nil, List.foldl_cons,
    List.foldl_nil, Option.map_some, Option.map_none, Option.some.injEq, String.reduceEq,
    String.reduceLT, ↓reduceIte]
  rfl

/-! ### What is written is read again -/

/-- What is applied is answered as it was sent. -/
theorem Api.StoredMap.toJson_ofContents (c : Contents) (l : Location) :
    (StoredMap.ofContents c).toJson l = Request.mapBody l c := by
  obtain ⟨data, binaryData⟩ := c
  cases data <;> cases binaryData <;>
    simp only [StoredMap.toJson, StoredMap.fields, StoredMap.ofContents, ConfigMap.objectKind,
      Request.mapBody, ConfigMap.toJson, Metadata.toJson, Metadata.named, ofFields,
      Entries.arrange, Entries.insert, List.filterMap_cons_some, List.filterMap_cons_none,
      List.filterMap_nil, List.foldl_cons, List.foldl_nil, List.cons_append, List.nil_append,
      Option.map_some, Option.map_none, Option.some.injEq, String.reduceEq, String.reduceLT,
      ↓reduceIte]

/-- Contents with their bytes in base 64 are read as they were written. -/
theorem Contents.Encoded.ofTree_mapBody {c : Contents} (h : c.Encoded) (l : Location) :
    ConfigMap.shape.ofTree (Request.mapBody l c) =
      .ok ⟨Metadata.named l.space l.name, c.data, c.binaryData, none⟩ := by
  have hbytes (table : Table String String) (hmem : table ∈ c.binaryData) := h.ofTree_bytes hmem
  obtain ⟨data, binaryData⟩ := c
  cases data <;> cases binaryData <;>
    simp only [Request.mapBody, ConfigMap.toJson, ConfigMap.objectKind, ofFields, Entries.arrange,
      Entries.insert, List.filterMap_cons_some, List.filterMap_cons_none, List.filterMap_nil,
      List.foldl_cons, List.foldl_nil, Option.map_some, Option.map_none, Option.some.injEq,
      String.reduceEq, String.reduceLT, ↓reduceIte, ConfigMap.shape, Shape.object,
      List.foldlM_cons, List.foldlM_nil, Member.ofTree, Member.constant, Member.field, Shape.map,
      Entries.find?, Shape.ofTree_texts, hbytes, Metadata.ofTree_named, Option.mem_some_iff] <;>
    rfl

theorem Api.Reply.read_tree {α : Type} {shape : Shape α} {tree : Json} {value : α}
    (h : shape.ofTree tree = .ok value) :
    (Reply.answered 200 (.tree tree)).read shape = .ok value := by
  simp only [read, Body.read, h]
  rfl

/-- What is applied is acknowledged. -/
theorem Contents.Encoded.read_mapBody {c : Contents} (h : c.Encoded) (l : Location) :
    (Reply.answered 200 (.tree (Request.mapBody l c))).read (ConfigMap.shape.map fun _ => ()) =
      .ok () :=
  Reply.read_tree (congrArg (Except.map fun _ => ()) (h.ofTree_mapBody l))

end CloudFlags
