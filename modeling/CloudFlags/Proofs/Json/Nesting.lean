import CloudFlags.Proofs.Json.RoundTrip

/-! How deep a tree nests that has been read, and what becomes of a text if more is allowed. A tree
nests no deeper than was allowed for reading it, and is read in the same way if more is allowed.
So the text of a tree can be read exactly if the tree nests no deeper than is allowed
(`exists_parseWithin_text_iff`). -/

namespace CloudFlags.Json

variable {fuel depth : Nat} {cs left rest : List Char}

/-! ### How something was read -/

/-- How a value was read: without regard to the depth, or as the parts of a container. -/
inductive ReadsValue (fuel : Nat) : (depth : Nat) → List Char → Json → List Char → Prop where
  | plain {depth : Nat} {cs rest : List Char} {tree : Json} (flat : tree.depth = 0)
    (any : ∀ d, readValue (fuel + 1) d cs = .ok (tree, rest)) : ReadsValue fuel depth cs tree rest
  | emptyList {depth : Nat} {cs left rest : List Char} (h : skipBlank cs = '[' :: left)
    (close : skipBlank left = ']' :: rest) : ReadsValue fuel (depth + 1) cs (.arr []) rest
  | list {depth : Nat} {cs left rest : List Char} {items : List Json}
    (h : skipBlank cs = '[' :: left)
    (inside : readItems fuel depth (skipBlank left) = .ok (items, rest)) :
    ReadsValue fuel (depth + 1) cs (.arr items) rest
  | emptyObject {depth : Nat} {cs left rest : List Char} (h : skipBlank cs = '\x7b' :: left)
    (close : skipBlank left = '\x7d' :: rest) : ReadsValue fuel (depth + 1) cs (.obj []) rest
  | object {depth : Nat} {cs left rest : List Char} {members : List (String × Json)}
    (h : skipBlank cs = '\x7b' :: left)
    (inside : readMembers fuel depth (skipBlank left) = .ok (members, rest)) :
    ReadsValue fuel (depth + 1) cs (.obj members) rest

theorem readsList {tree : Json} (hskip : skipBlank cs = '[' :: left)
    (h : readValue (fuel + 1) depth cs = .ok (tree, rest)) : ReadsValue fuel depth cs tree rest := by
  rw [readValue, hskip] at h
  simp only [Char.reduceEq, Char.reduceIsDigit, Bool.false_eq_true, ↓reduceIte] at h
  cases depth with
  | zero => cases h
  | succ depth =>
    simp only at h
    split at h
    · next close =>
      cases h
      exact .emptyList hskip close
    · cases h
    · obtain ⟨⟨items, rest⟩, inside, heq⟩ := exists_of_map_eq_ok h
      cases heq
      exact .list hskip inside

theorem readsObject {tree : Json} (hskip : skipBlank cs = '\x7b' :: left)
    (h : readValue (fuel + 1) depth cs = .ok (tree, rest)) : ReadsValue fuel depth cs tree rest := by
  rw [readValue, hskip] at h
  simp only [Char.reduceEq, Char.reduceIsDigit, Bool.false_eq_true, ↓reduceIte] at h
  cases depth with
  | zero => cases h
  | succ depth =>
    simp only at h
    split at h
    · next close =>
      cases h
      exact .emptyObject hskip close
    · cases h
    · obtain ⟨⟨members, rest⟩, inside, heq⟩ := exists_of_map_eq_ok h
      cases heq
      exact .object hskip inside

theorem readsValue {tree : Json} (h : readValue (fuel + 1) depth cs = .ok (tree, rest)) :
    ReadsValue fuel depth cs tree rest := by
  cases hskip : skipBlank cs with
  | nil =>
    rw [readValue, hskip] at h
    cases h
  | cons c left =>
    by_cases hlist : c = '['
    · subst hlist
      exact readsList hskip h
    by_cases hobject : c = '\x7b'
    · subst hobject
      exact readsObject hskip h
    have same (d : Nat) : readValue (fuel + 1) d cs = readValue (fuel + 1) depth cs := by
      rw [readValue, readValue, hskip]
      simp only [hlist, hobject, ↓reduceIte]
    refine .plain ?_ fun d => (same d).trans h
    rw [readValue, hskip] at h
    simp only [hlist, hobject, ↓reduceIte] at h
    -- each of the other beginnings is that of a value without parts
    repeat' split at h
    all_goals first
      | cases h
      | obtain ⟨_, -, heq⟩ := exists_of_map_eq_ok h
        cases heq
        rfl

/-- How items were read: the last one, or one and others. -/
inductive ReadsItems (fuel depth : Nat) (cs : List Char) : List Json → List Char → Prop where
  | last {left rest : List Char} {item : Json}
    (first : readValue fuel depth cs = .ok (item, left)) (close : skipBlank left = ']' :: rest) :
    ReadsItems fuel depth cs [item] rest
  | more {left later rest : List Char} {item : Json} {items : List Json}
    (first : readValue fuel depth cs = .ok (item, left)) (comma : skipBlank left = ',' :: later)
    (others : readItems fuel depth (skipBlank later) = .ok (items, rest)) :
    ReadsItems fuel depth cs (item :: items) rest

theorem readsItems {items : List Json} (h : readItems (fuel + 1) depth cs = .ok (items, rest)) :
    ReadsItems fuel depth cs items rest := by
  rw [readItems] at h
  split at h
  · cases h
  · next item left first =>
    split at h
    · cases h
    · next close =>
      cases h
      exact .last first close
    · next later comma =>
      split at h
      · cases h
      · cases h
      · obtain ⟨⟨items, rest⟩, others, heq⟩ := exists_of_map_eq_ok h
        cases heq
        exact .more first comma others
    · cases h

/-- How members were read: the last one, or one and others. -/
inductive ReadsMembers (fuel depth : Nat) : List Char → List (String × Json) → List Char → Prop where
  | last {cs atColon atValue behind rest : List Char} {key : String} {value : Json}
    (name : readText cs = .ok (key, atColon)) (colon : skipBlank atColon = ':' :: atValue)
    (first : readValue fuel depth atValue = .ok (value, behind))
    (close : skipBlank behind = '\x7d' :: rest) :
    ReadsMembers fuel depth ('"' :: cs) [(key, value)] rest
  | more {cs atColon atValue behind later rest : List Char} {key : String} {value : Json}
    {members : List (String × Json)}
    (name : readText cs = .ok (key, atColon)) (colon : skipBlank atColon = ':' :: atValue)
    (first : readValue fuel depth atValue = .ok (value, behind))
    (comma : skipBlank behind = ',' :: later)
    (others : readMembers fuel depth (skipBlank later) = .ok (members, rest)) :
    ReadsMembers fuel depth ('"' :: cs) ((key, value) :: members) rest

theorem readsMembers {members : List (String × Json)}
    (h : readMembers (fuel + 1) depth cs = .ok (members, rest)) :
    ReadsMembers fuel depth cs members rest := by
  obtain ⟨cs, rfl⟩ := begins_of_readMembers h
  rw [readMembers] at h
  split at h
  · cases h
  · next key atColon name =>
    split at h
    · cases h
    · next atValue colon =>
      split at h
      · cases h
      · next value behind first =>
        split at h
        · cases h
        · next close =>
          cases h
          exact .last name colon first close
        · next later comma =>
          split at h
          · cases h
          · cases h
          · obtain ⟨⟨members, rest⟩, others, heq⟩ := exists_of_map_eq_ok h
            cases heq
            exact .more name colon first comma others
        · cases h
    · cases h

/-! ### Nesting and depth -/

/-- What is read nests no deeper than is allowed, and is read in the same way if more is. -/
def Within {α : Type} (nesting : α → Nat) (read : (depth : Nat) → Reading α) : Prop :=
  ∀ depth a rest, read depth = .ok (a, rest) →
    nesting a ≤ depth ∧ ∀ d, depth ≤ d → read d = .ok (a, rest)

theorem within_readValue_succ
    (items : ∀ cs, Within depthItems (readItems fuel · cs))
    (members : ∀ cs, Within depthMembers (readMembers fuel · cs)) (cs : List Char) :
    Within Json.depth (readValue (fuel + 1) · cs) := by
  intro depth tree rest h
  cases readsValue h with
  | plain flat any => exact ⟨by omega, fun d _ => any d⟩
  | emptyList hskip close =>
    refine ⟨Nat.le_add_left 1 _, fun d hd => ?_⟩
    obtain ⟨d, rfl⟩ : ∃ e, d = e + 1 := ⟨d - 1, by omega⟩
    exact readValue_emptyList hskip close
  | @list depth _ left _ found hskip inside =>
    obtain ⟨hdepth, hmore⟩ := items _ _ _ _ inside
    refine ⟨by rw [Json.depth]; omega, fun d hd => ?_⟩
    obtain ⟨d, rfl⟩ : ∃ e, d = e + 1 := ⟨d - 1, by omega⟩
    exact readValue_list hskip (hmore d (Nat.le_of_succ_le_succ hd))
  | emptyObject hskip close =>
    refine ⟨Nat.le_add_left 1 _, fun d hd => ?_⟩
    obtain ⟨d, rfl⟩ : ∃ e, d = e + 1 := ⟨d - 1, by omega⟩
    exact readValue_emptyObject hskip close
  | @object depth _ left _ found hskip inside =>
    obtain ⟨hdepth, hmore⟩ := members _ _ _ _ inside
    refine ⟨by rw [Json.depth]; omega, fun d hd => ?_⟩
    obtain ⟨d, rfl⟩ : ∃ e, d = e + 1 := ⟨d - 1, by omega⟩
    exact readValue_object hskip (hmore d (Nat.le_of_succ_le_succ hd))

theorem within_readItems_succ (value : ∀ cs, Within Json.depth (readValue fuel · cs))
    (items : ∀ cs, Within depthItems (readItems fuel · cs)) (cs : List Char) :
    Within depthItems (readItems (fuel + 1) · cs) := by
  intro depth found rest h
  cases readsItems h with
  | last first close =>
    obtain ⟨hdepth, hmore⟩ := value _ _ _ _ first
    exact ⟨Nat.max_le.2 ⟨hdepth, Nat.zero_le _⟩, fun d hd => readItems_last (hmore d hd) close⟩
  | more first comma others =>
    obtain ⟨hfirst, hmore⟩ := value _ _ _ _ first
    obtain ⟨hothers, hmore'⟩ := items _ _ _ _ others
    exact ⟨Nat.max_le.2 ⟨hfirst, hothers⟩,
      fun d hd => readItems_more (hmore d hd) comma (hmore' d hd)⟩

theorem within_readMembers_succ (value : ∀ cs, Within Json.depth (readValue fuel · cs))
    (members : ∀ cs, Within depthMembers (readMembers fuel · cs)) (cs : List Char) :
    Within depthMembers (readMembers (fuel + 1) · cs) := by
  intro depth found rest h
  cases readsMembers h with
  | last name colon first close =>
    obtain ⟨hdepth, hmore⟩ := value _ _ _ _ first
    exact ⟨Nat.max_le.2 ⟨hdepth, Nat.zero_le _⟩,
      fun d hd => readMembers_last name colon (hmore d hd) close⟩
  | more name colon first comma others =>
    obtain ⟨hfirst, hmore⟩ := value _ _ _ _ first
    obtain ⟨hothers, hmore'⟩ := members _ _ _ _ others
    exact ⟨Nat.max_le.2 ⟨hfirst, hothers⟩,
      fun d hd => readMembers_more name colon (hmore d hd) comma (hmore' d hd)⟩

theorem within_read (fuel : Nat) :
    (∀ cs, Within Json.depth (readValue fuel · cs)) ∧
      (∀ cs, Within depthItems (readItems fuel · cs)) ∧
      ∀ cs, Within depthMembers (readMembers fuel · cs) := by
  induction fuel with
  | zero => refine ⟨?_, ?_, ?_⟩ <;> (intro cs depth a rest h; cases h)
  | succ fuel ih =>
    obtain ⟨value, items, members⟩ := ih
    exact ⟨within_readValue_succ items members, within_readItems_succ value items,
      within_readMembers_succ value members⟩

theorem within_readValue (fuel : Nat) (cs : List Char) : Within Json.depth (readValue fuel · cs) :=
  (within_read fuel).1 cs

/-! ### Whole texts -/

variable {text : String} {tree : Json} {d : Nat}

theorem exists_of_parseWithin (h : parseWithin d text = .ok tree) :
    ∃ written rest, readValue (enoughFuel text.toList) d text.toList = .ok (written, rest) ∧
      tree = written.canonical := by
  rw [parseWithin] at h
  split at h
  · next written hwritten =>
    cases h
    rw [parseAsWritten] at hwritten
    split at hwritten
    · cases hwritten
    · next found rest hread =>
      obtain ⟨_, -, heq⟩ := exists_of_map_eq_ok hwritten
      cases heq
      exact ⟨_, rest, hread, rfl⟩
  · cases h

/-- The objects of a tree that was read are tables. -/
theorem isTable_of_parseWithin (h : parseWithin d text = .ok tree) : Everywhere IsTable tree := by
  obtain ⟨written, rest, -, rfl⟩ := exists_of_parseWithin h
  exact everywhere_isTable_canonical written

/-- A tree that was read nests no deeper than was allowed. -/
theorem depth_le_of_parseWithin (h : parseWithin d text = .ok tree) : tree.depth ≤ d := by
  obtain ⟨written, rest, hread, rfl⟩ := exists_of_parseWithin h
  exact Nat.le_trans (depth_canonical_le written) (within_readValue _ _ _ _ _ hread).1

/-- The text of a tree can be read exactly if the tree nests no deeper than is allowed. -/
theorem exists_parseWithin_text_iff (tables : Everywhere IsTable tree)
    (numbers : Everywhere (IfNumber Number.ReadsBack) tree) :
    (∃ t, parseWithin d tree.text = .ok t) ↔ tree.depth ≤ d := by
  constructor
  · rintro ⟨t, ht⟩
    obtain ⟨written, rest, hread, -⟩ := exists_of_parseWithin ht
    rw [Json.text, String.toList_ofList] at hread
    obtain ⟨hdepth, hmore⟩ := within_readValue _ _ _ _ _ hread
    -- with all the depth it needs, the text is read as the tree, and as what was read before
    have hwhole : readValue (enoughFuel (render tree)) (max d tree.depth) (render tree ++ []) =
        .ok (tree, []) :=
      readValue_render tree numbers (Nat.le_succ _) (Nat.le_max_right _ _) trivial
    have hsame : readValue (enoughFuel (render tree)) (max d tree.depth) (render tree) =
        .ok (written, rest) :=
      hmore _ (Nat.le_max_left _ _)
    rw [List.append_nil, hsame] at hwhole
    cases hwhole
    exact hdepth
  · intro nests
    exact ⟨tree, parseWithin_text tables numbers nests⟩

end CloudFlags.Json
