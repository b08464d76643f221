/-! Tables: entries in the order of their keys, one a key. The operations are defined on plain lists
of entries first: writing is a single pass that replaces the entry of a key already there, so what
is read after a write needs no assumption on the list, and only the order of the entries needs a
sorted start. A `Table` is such a list with its order. The order of a key type comes with its laws
in `KeyOrder`. -/

namespace CloudFlags

/-- The order of a type of keys is linear and strict. -/
class KeyOrder (κ : Type) [LT κ] : Prop where
  lt_irrefl (a : κ) : ¬ a < a
  lt_trans {a b c : κ} : a < b → b < c → a < c
  lt_of_not {a b : κ} : ¬ a < b → a ≠ b → b < a

/-- Texts are ordered by code points. -/
instance : KeyOrder String where
  lt_irrefl := String.lt_irrefl
  lt_trans := String.lt_trans
  lt_of_not {a b} h hne := (Std.lt_trichotomy a b).elim (absurd · h) (·.elim (absurd · hne) id)

end CloudFlags

namespace CloudFlags.Entries

variable {κ ν : Type} [DecidableEq κ]

/-- The value of the first entry with the key. -/
def find? (k : κ) : List (κ × ν) → Option ν
  | [] => none
  | (key, v) :: rest => if k = key then some v else find? k rest

/-- Writes an entry at its place in the order, over the entry of the same key. -/
def insert [LT κ] [DecidableLT κ] (k : κ) (v : ν) : List (κ × ν) → List (κ × ν)
  | [] => [(k, v)]
  | (key, old) :: rest =>
    if k = key then (k, v) :: rest
    else if k < key then (k, v) :: (key, old) :: rest
    else (key, old) :: insert k v rest

/-- Drops the entries of a key. -/
def erase (k : κ) (entries : List (κ × ν)) : List (κ × ν) :=
  entries.filter (·.1 ≠ k)

/-- Puts entries in order; a later entry of a key replaces an earlier one. -/
def arrange [LT κ] [DecidableLT κ] (entries : List (κ × ν)) : List (κ × ν) :=
  entries.foldl (fun table entry => insert entry.1 entry.2 table) []

/-- The keys ascend, so no key has two entries. -/
def Sorted [LT κ] (entries : List (κ × ν)) : Prop := entries.Pairwise (·.1 < ·.1)

@[simp] theorem find?_nil (k : κ) : find? k ([] : List (κ × ν)) = none := rfl

@[simp] theorem find?_insert_self [LT κ] [DecidableLT κ] (k : κ) (v : ν) (entries : List (κ × ν)) :
    find? k (insert k v entries) = some v := by
  induction entries with
  | nil => simp [insert, find?]
  | cons e rest ih =>
    obtain ⟨key, old⟩ := e
    rw [insert]
    split
    · simp [find?]
    · split <;> simp_all [find?]

theorem find?_insert_of_ne [LT κ] [DecidableLT κ] {k j : κ} (h : j ≠ k) (v : ν)
    (entries : List (κ × ν)) : find? j (insert k v entries) = find? j entries := by
  induction entries with
  | nil => simp [insert, find?, h]
  | cons e rest ih =>
    obtain ⟨key, old⟩ := e
    rw [insert]
    split
    · subst_vars; simp [find?, h]
    · split <;> simp [find?, h, ih]

@[simp] theorem find?_erase_self (k : κ) (entries : List (κ × ν)) :
    find? k (erase k entries) = none := by
  induction entries with
  | nil => rfl
  | cons e rest ih =>
    by_cases h : e.1 = k
    · simpa [erase, h] using ih
    · have : ¬ k = e.1 := fun h' => h h'.symm
      simpa [erase, h, find?, this] using ih

theorem find?_erase_of_ne {k j : κ} (h : j ≠ k) (entries : List (κ × ν)) :
    find? j (erase k entries) = find? j entries := by
  induction entries with
  | nil => rfl
  | cons e rest ih =>
    obtain ⟨key, v⟩ := e
    by_cases hk : key = k
    · subst hk; simpa [erase, find?, h] using ih
    · by_cases hj : j = key
      · subst hj; simp [erase, hk, find?]
      · simpa [erase, hk, find?, hj] using ih

theorem mem_insert [LT κ] [DecidableLT κ] {k : κ} {v : ν} {entries : List (κ × ν)} {e : κ × ν} :
    e ∈ insert k v entries → e = (k, v) ∨ e ∈ entries := by
  induction entries with
  | nil => simp [insert]
  | cons hd rest ih =>
    obtain ⟨key, old⟩ := hd
    rw [insert]
    split
    · simp only [List.mem_cons]; grind
    · split <;> simp only [List.mem_cons] <;> grind

theorem Sorted.insert [LT κ] [DecidableLT κ] [KeyOrder κ] {entries : List (κ × ν)}
    (h : Sorted entries) (k : κ) (v : ν) : Sorted (insert k v entries) := by
  induction entries with
  | nil => simp [Entries.insert, Sorted]
  | cons hd rest ih =>
    obtain ⟨key, old⟩ := hd
    have hd_lt {e : κ × ν} (he : e ∈ rest) : key < e.1 := List.rel_of_pairwise_cons h he
    rw [Entries.insert]
    split
    · rename_i hk
      exact (List.Pairwise.of_cons h).cons fun e he => hk ▸ hd_lt he
    · rename_i hk
      split
      · rename_i hlt
        refine List.Pairwise.cons (fun e he => ?_) h
        rcases List.mem_cons.1 he with rfl | he
        · exact hlt
        · exact KeyOrder.lt_trans hlt (hd_lt he)
      · rename_i hlt
        refine (ih (List.Pairwise.of_cons h)).cons fun e he => ?_
        rcases mem_insert he with rfl | he
        · exact KeyOrder.lt_of_not hlt hk
        · exact hd_lt he

theorem Sorted.erase [LT κ] {entries : List (κ × ν)} (h : Sorted entries) (k : κ) :
    Sorted (erase k entries) :=
  List.Pairwise.sublist List.filter_sublist h

theorem sorted_arrange [LT κ] [DecidableLT κ] [KeyOrder κ] (entries : List (κ × ν)) :
    Sorted (arrange entries) := by
  suffices h : ∀ table : List (κ × ν), Sorted table →
      Sorted (entries.foldl (fun table entry => Entries.insert entry.1 entry.2 table) table) from
    h [] List.Pairwise.nil
  induction entries with
  | nil => exact fun _ h => h
  | cons e rest ih => exact fun table h => ih _ (h.insert e.1 e.2)

end CloudFlags.Entries

namespace CloudFlags

/-- Entries in the order of their keys, one a key. -/
structure Table (κ ν : Type) [LT κ] where
  entries : List (κ × ν)
  sorted : Entries.Sorted entries

namespace Table

variable {κ ν : Type} [LT κ]

instance [DecidableEq κ] [DecidableEq ν] : DecidableEq (Table κ ν) := fun a b =>
  decidable_of_iff (a.entries = b.entries) ⟨fun h => by cases a; cases h; rfl, fun h => h ▸ rfl⟩

def empty : Table κ ν := ⟨[], List.Pairwise.nil⟩

instance : Inhabited (Table κ ν) := ⟨empty⟩

variable [DecidableEq κ]

def find? (table : Table κ ν) (k : κ) : Option ν := Entries.find? k table.entries

def erase (table : Table κ ν) (k : κ) : Table κ ν :=
  ⟨Entries.erase k table.entries, table.sorted.erase k⟩

@[simp] theorem find?_erase_self (table : Table κ ν) (k : κ) : (table.erase k).find? k = none :=
  Entries.find?_erase_self k table.entries

theorem find?_erase_of_ne {k j : κ} (h : j ≠ k) (table : Table κ ν) :
    (table.erase k).find? j = table.find? j :=
  Entries.find?_erase_of_ne h table.entries

variable [DecidableLT κ] [KeyOrder κ]

def insert (table : Table κ ν) (k : κ) (v : ν) : Table κ ν :=
  ⟨Entries.insert k v table.entries, table.sorted.insert k v⟩

/-- The table of a list of entries; a later entry of a key replaces an earlier one. -/
def ofList (entries : List (κ × ν)) : Table κ ν :=
  ⟨Entries.arrange entries, Entries.sorted_arrange entries⟩

@[simp] theorem find?_insert_self (table : Table κ ν) (k : κ) (v : ν) :
    (table.insert k v).find? k = some v :=
  Entries.find?_insert_self k v table.entries

theorem find?_insert_of_ne {k j : κ} (h : j ≠ k) (table : Table κ ν) (v : ν) :
    (table.insert k v).find? j = table.find? j :=
  Entries.find?_insert_of_ne h v table.entries

end Table

end CloudFlags
