import CloudFlags.Proofs.Json.Numbers
import CloudFlags.Proofs.Json.Parts
import CloudFlags.Proofs.Json.Texts

/-! The text of a tree stands for the tree. Reading a value, the items of a list and the members of
an object each go on where their parts end, so what has been read of the parts makes up what is read
of the whole. The text of a tree is read in the order in which it was written; its numbers have to
be read back, its containers have to be allowed, and its objects have to be tables, since reading
puts their members in order. -/

namespace CloudFlags.Json

variable {fuel depth : Nat} {cs left rest : List Char}

/-! ### Blanks -/

theorem isBlank_of_skipBlank {c : Char} (h : skipBlank cs = c :: left) : isBlank c = false := by
  have hhead := List.head?_dropWhile_not isBlank cs
  rw [skipBlank] at h
  rw [h] at hhead
  exact hhead

theorem skipBlank_of_not_isBlank {c : Char} (h : isBlank c = false) (cs : List Char) :
    skipBlank (c :: cs) = c :: cs :=
  List.dropWhile_cons_of_neg (Bool.not_eq_true _ ▸ h)

@[simp] theorem skipBlank_skipBlank (cs : List Char) : skipBlank (skipBlank cs) = skipBlank cs := by
  cases h : skipBlank cs with
  | nil => rfl
  | cons c left => exact skipBlank_of_not_isBlank (isBlank_of_skipBlank h) left

/-- A value begins with something else than a blank or the end of a list. -/
theorem begins_of_readValue {p : Json × List Char} (h : readValue fuel depth cs = .ok p) :
    ∃ c left, skipBlank cs = c :: left ∧ c ≠ ']' := by
  cases fuel with
  | zero => cases h
  | succ fuel =>
    cases hskip : skipBlank cs with
    | nil =>
      rw [readValue, hskip] at h
      cases h
    | cons c left =>
      refine ⟨c, left, rfl, ?_⟩
      rintro rfl
      rw [readValue, hskip] at h
      cases h

/-- Blanks in front of a value are skipped. -/
theorem readValue_skipBlank {p : Json × List Char} (h : readValue fuel depth cs = .ok p) :
    readValue fuel depth (skipBlank cs) = .ok p := by
  cases fuel with
  | zero => cases h
  | succ fuel =>
    rw [readValue] at h ⊢
    rw [skipBlank_skipBlank]
    exact h

theorem exists_value_of_readItems {p : List Json × List Char}
    (h : readItems fuel depth cs = .ok p) : ∃ k q, fuel = k + 1 ∧ readValue k depth cs = .ok q := by
  cases fuel with
  | zero => cases h
  | succ fuel =>
    cases hvalue : readValue fuel depth cs with
    | ok q => exact ⟨fuel, q, rfl, hvalue⟩
    | error stop =>
      rw [readItems, hvalue] at h
      cases h

theorem begins_of_readItems {p : List Json × List Char} (h : readItems fuel depth cs = .ok p) :
    ∃ c left, skipBlank cs = c :: left ∧ c ≠ ']' := by
  obtain ⟨k, q, -, hvalue⟩ := exists_value_of_readItems h
  exact begins_of_readValue hvalue

theorem readItems_skipBlank {p : List Json × List Char} (h : readItems fuel depth cs = .ok p) :
    readItems fuel depth (skipBlank cs) = .ok p := by
  obtain ⟨k, q, rfl, hvalue⟩ := exists_value_of_readItems h
  rw [readItems, hvalue] at h
  rw [readItems, readValue_skipBlank hvalue]
  exact h

/-- Members begin with the quote of a key. -/
theorem begins_of_readMembers {p : List (String × Json) × List Char}
    (h : readMembers fuel depth cs = .ok p) : ∃ left, cs = '"' :: left := by
  cases fuel with
  | zero => cases h
  | succ fuel =>
    unfold readMembers at h
    split at h
    · exact ⟨_, rfl⟩
    · cases h

/-! ### Lists -/

theorem readValue_emptyList (h : skipBlank cs = '[' :: left) (close : skipBlank left = ']' :: rest) :
    readValue (fuel + 1) (depth + 1) cs = .ok (.arr [], rest) := by
  rw [readValue, h]
  simp only [Char.reduceEq, Char.reduceIsDigit, Bool.false_eq_true, ↓reduceIte, close]

theorem readValue_list {items : List Json} (h : skipBlank cs = '[' :: left)
    (inside : readItems fuel depth (skipBlank left) = .ok (items, rest)) :
    readValue (fuel + 1) (depth + 1) cs = .ok (.arr items, rest) := by
  obtain ⟨c, later, hbegins, hc⟩ := begins_of_readItems inside
  rw [skipBlank_skipBlank] at hbegins
  rw [hbegins] at inside
  rw [readValue, h]
  simp only [Char.reduceEq, Char.reduceIsDigit, Bool.false_eq_true, ↓reduceIte, hbegins]
  split
  · next heq => exact absurd (List.cons.inj heq).1 hc
  · next heq => cases heq
  · rw [inside]
    rfl

theorem readItems_last {item : Json} (first : readValue fuel depth cs = .ok (item, left))
    (close : skipBlank left = ']' :: rest) :
    readItems (fuel + 1) depth cs = .ok ([item], rest) := by
  rw [readItems, first]
  simp only [close]

theorem readItems_more {item : Json} {items : List Json} {later : List Char}
    (first : readValue fuel depth cs = .ok (item, left)) (comma : skipBlank left = ',' :: later)
    (others : readItems fuel depth (skipBlank later) = .ok (items, rest)) :
    readItems (fuel + 1) depth cs = .ok (item :: items, rest) := by
  obtain ⟨c, behind, hbegins, hc⟩ := begins_of_readItems others
  rw [skipBlank_skipBlank] at hbegins
  rw [hbegins] at others
  rw [readItems, first]
  simp only [comma, hbegins]
  split
  · next heq => cases heq
  · next heq => exact absurd (List.cons.inj heq).1 hc
  · rw [others]
    rfl

/-! ### Objects -/

theorem readValue_emptyObject (h : skipBlank cs = '\x7b' :: left)
    (close : skipBlank left = '\x7d' :: rest) :
    readValue (fuel + 1) (depth + 1) cs = .ok (.obj [], rest) := by
  rw [readValue, h]
  simp only [Char.reduceEq, Char.reduceIsDigit, Bool.false_eq_true, ↓reduceIte, close]

theorem readValue_object {members : List (String × Json)} (h : skipBlank cs = '\x7b' :: left)
    (inside : readMembers fuel depth (skipBlank left) = .ok (members, rest)) :
    readValue (fuel + 1) (depth + 1) cs = .ok (.obj members, rest) := by
  obtain ⟨later, hbegins⟩ := begins_of_readMembers inside
  rw [hbegins] at inside
  rw [readValue, h]
  simp only [Char.reduceEq, Char.reduceIsDigit, Bool.false_eq_true, ↓reduceIte, hbegins]
  exact congrArg (Except.map _) inside

section Members

variable {key : String} {value : Json} {atColon atValue behind : List Char}

theorem readMembers_last (name : readText cs = .ok (key, atColon))
    (colon : skipBlank atColon = ':' :: atValue)
    (first : readValue fuel depth atValue = .ok (value, behind))
    (close : skipBlank behind = '\x7d' :: rest) :
    readMembers (fuel + 1) depth ('"' :: cs) = .ok ([(key, value)], rest) := by
  rw [readMembers]
  simp only [name, colon, first, close]

theorem readMembers_more {members : List (String × Json)} {later : List Char}
    (name : readText cs = .ok (key, atColon)) (colon : skipBlank atColon = ':' :: atValue)
    (first : readValue fuel depth atValue = .ok (value, behind))
    (comma : skipBlank behind = ',' :: later)
    (others : readMembers fuel depth (skipBlank later) = .ok (members, rest)) :
    readMembers (fuel + 1) depth ('"' :: cs) = .ok ((key, value) :: members, rest) := by
  obtain ⟨after, hbegins⟩ := begins_of_readMembers others
  rw [hbegins] at others
  rw [readMembers]
  simp only [name, colon, first, comma, hbegins]
  exact congrArg (Except.map _) others

end Members

/-! ### What a tree is written as -/

theorem renderText_append (s : String) (rest : List Char) :
    renderText s ++ rest = '"' :: (s.toList.flatMap escape ++ '"' :: rest) := by
  rw [renderText, List.append_assoc]
  rfl

/-- A list is written as its items are, but for their first comma. -/
theorem render_arr (item : Json) (more : List Json) :
    render (.arr (item :: more)) = '[' :: (renderItems (item :: more)).tail := by
  rw [render, renderItems]
  rfl

theorem render_obj (member : String × Json) (more : List (String × Json)) :
    render (.obj (member :: more)) = '\x7b' :: (renderMembers (member :: more)).tail := by
  obtain ⟨key, value⟩ := member
  rw [render, renderMembers]
  rfl

theorem endsNumber_renderItems (items : List Json) (rest : List Char) :
    EndsNumber (renderItems items ++ rest) := by
  cases items <;> exact ⟨by decide, by decide, by decide, by decide⟩

theorem endsNumber_renderMembers (members : List (String × Json)) (rest : List Char) :
    EndsNumber (renderMembers members ++ rest) := by
  cases members <;> exact ⟨by decide, by decide, by decide, by decide⟩

theorem renderNumber_ne_nil {n : Number} (h : n.ReadsBack) : renderNumber n ≠ [] := by
  intro hnil
  rw [Number.ReadsBack, hnil] at h
  cases h

/-- Nothing is written as no text. -/
theorem length_render_pos {tree : Json} (h : Everywhere (IfNumber Number.ReadsBack) tree) :
    0 < (render tree).length := by
  match tree with
  | .null => exact Nat.zero_lt_succ _
  | .bool true => exact Nat.zero_lt_succ _
  | .bool false => exact Nat.zero_lt_succ _
  | .num n => exact List.length_pos_iff.2 (renderNumber_ne_nil h.self)
  | .str s => exact Nat.zero_lt_succ _
  | .arr [] => exact Nat.zero_lt_succ _
  | .arr (item :: more) =>
    rw [render_arr]
    exact Nat.zero_lt_succ _
  | .obj [] => exact Nat.zero_lt_succ _
  | .obj (member :: more) =>
    rw [render_obj]
    exact Nat.zero_lt_succ _

/-! ### Reading what was written -/

mutual

/-- The text of a tree is read as the tree, whatever follows that could not belong to it. -/
theorem readValue_render : (tree : Json) → Everywhere (IfNumber Number.ReadsBack) tree →
    {fuel depth : Nat} → 2 * (render tree).length ≤ fuel → tree.depth ≤ depth →
    {rest : List Char} → EndsNumber rest →
    readValue fuel depth (render tree ++ rest) = .ok (tree, rest) := by
  intro tree numbers fuel depth hfuel hdepth rest ends
  have hpos := length_render_pos numbers
  obtain ⟨fuel, rfl⟩ : ∃ k, fuel = k + 1 := ⟨fuel - 1, by omega⟩
  match tree with
  | .null => rfl
  | .bool true => rfl
  | .bool false => rfl
  | .num n =>
    have hn : n.ReadsBack := numbers.self
    exact hn.readValue ends fuel depth
  | .str s =>
    rw [render, renderText_append, readValue, skipBlank_of_not_isBlank rfl]
    exact congrArg (Except.map _) (readText_render s rest)
  | .arr [] =>
    obtain ⟨depth, rfl⟩ : ∃ d, depth = d + 1 := ⟨depth - 1, by rw [Json.depth] at hdepth; omega⟩
    exact readValue_emptyList rfl rfl
  | .arr (item :: more) =>
    rw [Json.depth] at hdepth
    obtain ⟨depth, rfl⟩ : ∃ d, depth = d + 1 := ⟨depth - 1, by omega⟩
    rw [render_arr, List.length_cons, List.length_tail] at hfuel
    rw [render_arr]
    exact readValue_list rfl (readItems_skipBlank (readItems_render (item :: more)
      (List.cons_ne_nil _ _) (fun _ => numbers.item) (by omega) (by omega) rest))
  | .obj [] =>
    obtain ⟨depth, rfl⟩ : ∃ d, depth = d + 1 := ⟨depth - 1, by rw [Json.depth] at hdepth; omega⟩
    exact readValue_emptyObject rfl rfl
  | .obj (member :: more) =>
    rw [Json.depth] at hdepth
    obtain ⟨depth, rfl⟩ : ∃ d, depth = d + 1 := ⟨depth - 1, by omega⟩
    rw [render_obj, List.length_cons, List.length_tail] at hfuel
    rw [render_obj]
    exact readValue_object rfl (readMembers_render (member :: more) (List.cons_ne_nil _ _)
      (fun _ => numbers.member) (by omega) (by omega) rest)

/-- The items of a list are read up to its end. -/
theorem readItems_render : (items : List Json) → items ≠ [] →
    (∀ item ∈ items, Everywhere (IfNumber Number.ReadsBack) item) →
    {fuel depth : Nat} → 2 * (renderItems items).length ≤ fuel + 1 → depthItems items ≤ depth →
    (rest : List Char) →
    readItems fuel depth ((renderItems items).tail ++ rest) = .ok (items, rest) := by
  intro items hne numbers fuel depth hfuel hdepth rest
  match items with
  | [] => exact absurd rfl hne
  | item :: more =>
    have hitem := numbers item List.mem_cons_self
    have hpos := length_render_pos hitem
    rw [depthItems] at hdepth
    rw [renderItems] at hfuel ⊢
    rw [List.length_append, List.length_cons] at hfuel
    obtain ⟨fuel, rfl⟩ : ∃ k, fuel = k + 1 := ⟨fuel - 1, by omega⟩
    have first : readValue fuel depth (render item ++ (renderItems more ++ rest)) =
        .ok (item, renderItems more ++ rest) :=
      readValue_render item hitem (by omega) (by omega) (endsNumber_renderItems more rest)
    show readItems (fuel + 1) depth ((render item ++ renderItems more) ++ rest) = _
    rw [List.append_assoc]
    match more with
    | [] => exact readItems_last first rfl
    | next :: more =>
      exact readItems_more first rfl (readItems_skipBlank (readItems_render (next :: more)
        (List.cons_ne_nil _ _) (fun i hi => numbers i (List.mem_cons_of_mem _ hi)) (by omega)
        (by omega) rest))

/-- The members of an object are read up to its end. -/
theorem readMembers_render : (members : List (String × Json)) → members ≠ [] →
    (∀ e ∈ members, Everywhere (IfNumber Number.ReadsBack) e.2) →
    {fuel depth : Nat} → 2 * (renderMembers members).length ≤ fuel + 1 →
    depthMembers members ≤ depth → (rest : List Char) →
    readMembers fuel depth ((renderMembers members).tail ++ rest) = .ok (members, rest) := by
  intro members hne numbers fuel depth hfuel hdepth rest
  match members with
  | [] => exact absurd rfl hne
  | (key, value) :: more =>
    have hvalue := numbers (key, value) List.mem_cons_self
    have hpos := length_render_pos hvalue
    rw [depthMembers] at hdepth
    rw [renderMembers] at hfuel ⊢
    simp only [List.length_append, List.length_cons] at hfuel
    obtain ⟨fuel, rfl⟩ : ∃ k, fuel = k + 1 := ⟨fuel - 1, by omega⟩
    have name : readText (key.toList.flatMap escape ++
        '"' :: ':' :: (render value ++ (renderMembers more ++ rest))) =
        .ok (key, ':' :: (render value ++ (renderMembers more ++ rest))) :=
      readText_render key _
    have first : readValue fuel depth (render value ++ (renderMembers more ++ rest)) =
        .ok (value, renderMembers more ++ rest) :=
      readValue_render value hvalue (by omega) (by omega) (endsNumber_renderMembers more rest)
    have htext : (',' :: renderText key ++ ':' :: render value ++ renderMembers more).tail ++ rest =
        '"' :: (key.toList.flatMap escape ++
          '"' :: ':' :: (render value ++ (renderMembers more ++ rest))) := by
      rw [← renderText_append]
      simp only [List.cons_append, List.tail_cons, List.append_assoc]
    rw [htext]
    match more with
    | [] => exact readMembers_last name rfl first rfl
    | next :: more =>
      exact readMembers_more name rfl first rfl
        (readMembers_render (next :: more) (List.cons_ne_nil _ _)
          (fun e he => numbers e (List.mem_cons_of_mem _ he)) (by omega) (by omega) rest)

end

/-- The text of a tree stands for the tree, if the tree is in order, reading allows for its
containers and its numbers are read back. -/
theorem parseWithin_text {tree : Json} {d : Nat} (tables : Everywhere IsTable tree)
    (numbers : Everywhere (IfNumber Number.ReadsBack) tree) (nests : tree.depth ≤ d) :
    parseWithin d tree.text = .ok tree := by
  have hread : readValue (enoughFuel (render tree)) d (render tree) = .ok (tree, []) := by
    have hrender : readValue (enoughFuel (render tree)) d (render tree ++ []) = .ok (tree, []) :=
      readValue_render tree numbers (Nat.le_succ _) nests trivial
    rwa [List.append_nil] at hrender
  rw [parseWithin, text, String.toList_ofList, parseAsWritten, hread]
  exact congrArg Except.ok (canonical_eq tree tables)

end CloudFlags.Json
