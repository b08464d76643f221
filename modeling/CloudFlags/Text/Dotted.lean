/-! Lists of texts written with dots between them. -/

namespace CloudFlags.Text

/-- The parts between dots; there is one more part than dots. -/
def splitDotsList : List Char → List (List Char)
  | [] => [[]]
  | c :: cs =>
    if c = '.' then [] :: splitDotsList cs
    else
      match splitDotsList cs with
      | [] => [[c]]
      | part :: rest => (c :: part) :: rest

/-- The parts with a dot between neighbours. -/
def joinDotsList : List (List Char) → List Char
  | [] => []
  | [part] => part
  | part :: rest => part ++ '.' :: joinDotsList rest

def splitDots (s : String) : List String := (splitDotsList s.toList).map String.ofList

def joinDots (parts : List String) : String :=
  String.ofList (joinDotsList (parts.map String.toList))

theorem splitDotsList_ne_nil (cs : List Char) : splitDotsList cs ≠ [] := by
  cases cs with
  | nil => simp [splitDotsList]
  | cons c cs =>
    rw [splitDotsList]
    split
    · simp
    · split <;> simp

/-- Joining the parts of a text gives the text. -/
theorem joinDotsList_splitDotsList (cs : List Char) : joinDotsList (splitDotsList cs) = cs := by
  induction cs with
  | nil => rfl
  | cons c cs ih =>
    rw [splitDotsList]
    obtain ⟨part, rest, h⟩ := List.exists_cons_of_ne_nil (splitDotsList_ne_nil cs)
    rw [h] at ih ⊢
    split
    · rename_i hc; simp [joinDotsList, ih, hc]
    · cases rest with
      | nil => simpa [joinDotsList] using ih
      | cons p ps => simpa [joinDotsList] using ih

theorem joinDots_splitDots (s : String) : joinDots (splitDots s) = s := by
  have hback : String.toList ∘ String.ofList = id := funext fun _ => String.toList_ofList
  rw [joinDots, splitDots, List.map_map, hback, List.map_id, joinDotsList_splitDotsList,
    String.ofList_toList]

/-! ### Parts without dots -/

theorem dotless_of_mem_splitDotsList {cs part : List Char} (h : part ∈ splitDotsList cs) :
    '.' ∉ part := by
  induction cs generalizing part with
  | nil =>
    rw [splitDotsList, List.mem_singleton] at h
    subst h
    exact List.not_mem_nil
  | cons c cs ih =>
    rw [splitDotsList] at h
    obtain ⟨first, rest, hsplit⟩ := List.exists_cons_of_ne_nil (splitDotsList_ne_nil cs)
    rw [hsplit] at h ih
    split at h
    · rcases List.mem_cons.1 h with rfl | h
      · exact List.not_mem_nil
      · exact ih h
    · next hc =>
      rcases List.mem_cons.1 h with rfl | h
      · rintro (_ | ⟨_, hmem⟩)
        · exact hc rfl
        · exact ih List.mem_cons_self hmem
      · exact ih (List.mem_cons_of_mem _ h)

theorem dotless_of_mem_splitDots {s part : String} (h : part ∈ splitDots s) :
    '.' ∉ part.toList := by
  obtain ⟨cs, hcs, rfl⟩ := List.mem_map.1 h
  rw [String.toList_ofList]
  exact dotless_of_mem_splitDotsList hcs

theorem splitDotsList_of_dotless {part : List Char} (h : '.' ∉ part) :
    splitDotsList part = [part] := by
  induction part with
  | nil => rfl
  | cons c part ih =>
    have hc : c ≠ '.' := fun heq => h (heq ▸ List.mem_cons_self)
    rw [splitDotsList, if_neg hc, ih fun hmem => h (List.mem_cons_of_mem c hmem)]

/-- A dot sets the parts before it apart from those behind it. -/
theorem splitDotsList_append (cs ds : List Char) :
    splitDotsList (cs ++ '.' :: ds) = splitDotsList cs ++ splitDotsList ds := by
  induction cs with
  | nil => simp only [List.nil_append, splitDotsList, ↓reduceIte, List.singleton_append]
  | cons c cs ih =>
    obtain ⟨part, rest, hsplit⟩ := List.exists_cons_of_ne_nil (splitDotsList_ne_nil cs)
    rw [List.cons_append, splitDotsList, splitDotsList, ih, hsplit]
    split <;> rfl

theorem joinDotsList_cons {rest : List (List Char)} (h : rest ≠ []) (part : List Char) :
    joinDotsList (part :: rest) = part ++ '.' :: joinDotsList rest := by
  rw [joinDotsList]
  exact h

/-- Between the parts of two lists there is one dot more. -/
theorem joinDotsList_append {first second : List (List Char)} (h : first ≠ []) (h' : second ≠ []) :
    joinDotsList (first ++ second) = joinDotsList first ++ '.' :: joinDotsList second := by
  induction first with
  | nil => exact absurd rfl h
  | cons part rest ih =>
    by_cases hrest : rest = []
    · subst hrest
      exact joinDotsList_cons h' part
    · rw [List.cons_append, joinDotsList_cons (List.append_ne_nil_of_left_ne_nil hrest second),
        ih hrest, joinDotsList_cons hrest, List.append_assoc, List.cons_append]

/-- Splitting what was joined gives the parts, if there is no dot in them. -/
theorem splitDotsList_joinDotsList {parts : List (List Char)} (h : parts ≠ [])
    (dotless : ∀ part ∈ parts, '.' ∉ part) : splitDotsList (joinDotsList parts) = parts := by
  match parts with
  | [part] => exact splitDotsList_of_dotless (dotless part List.mem_cons_self)
  | part :: next :: rest =>
    obtain ⟨hpart, hrest⟩ := List.forall_mem_cons.1 dotless
    have hne : next :: rest ≠ [] := List.cons_ne_nil next rest
    rw [joinDotsList_cons hne, splitDotsList_append, splitDotsList_of_dotless hpart,
      splitDotsList_joinDotsList hne hrest, List.singleton_append]

theorem splitDots_joinDots {parts : List String} (h : parts ≠ [])
    (dotless : ∀ part ∈ parts, '.' ∉ part.toList) : splitDots (joinDots parts) = parts := by
  have hlists : parts.map String.toList ≠ [] := fun heq => h (List.map_eq_nil_iff.1 heq)
  have hdotless : ∀ part ∈ parts.map String.toList, '.' ∉ part := by
    intro cs hcs
    obtain ⟨part, hpart, rfl⟩ := List.mem_map.1 hcs
    exact dotless part hpart
  rw [splitDots, joinDots, String.toList_ofList, splitDotsList_joinDotsList hlists hdotless,
    List.map_map]
  have hback : String.ofList ∘ String.toList = id := funext fun _ => String.ofList_toList
  rw [hback, List.map_id]

end CloudFlags.Text
