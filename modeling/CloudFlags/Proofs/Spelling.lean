import CloudFlags.KeyPath

/-! How key paths are spelled: non-empty keys with dots between them, and no dot in a key. A text
spells one list of keys at most, and reading it gives the path of these keys. Which texts spell
anything can be told by their dots alone, since an empty key would stand at an end of the text or
between two dots side by side (`Text.wellDotted_iff`); and the keys of one text begin those of
another where the one text begins the other up to its end or to a dot
(`Text.splitDotsList_prefix_iff`). -/

namespace CloudFlags.Text

/-- A text that is not empty, with no dot at either end and no two dots side by side. -/
structure WellDotted (cs : List Char) : Prop where
  ne_nil : cs ≠ []
  head?_ne : cs.head? ≠ some '.'
  getLast?_ne : cs.getLast? ≠ some '.'
  apart : ¬ ['.', '.'] <:+: cs

variable {cs ds : List Char}

theorem WellDotted.nil_not_mem (h : WellDotted cs) : [] ∉ splitDotsList cs := by
  intro hempty
  obtain ⟨before, after, hsplit⟩ := List.append_of_mem hempty
  have hcs : cs = joinDotsList (before ++ [] :: after) := by
    rw [← hsplit, joinDotsList_splitDotsList]
  -- the empty part is all there is, or it follows or precedes a dot, or both
  by_cases hbefore : before = []
  · subst hbefore
    by_cases hafter : after = []
    · subst hafter
      exact h.ne_nil hcs
    · refine h.head?_ne ?_
      rw [hcs, List.nil_append, joinDotsList_cons hafter]
      rfl
  · rw [joinDotsList_append hbefore (List.cons_ne_nil [] after)] at hcs
    by_cases hafter : after = []
    · subst hafter
      exact h.getLast?_ne (hcs ▸ List.getLast?_concat)
    · rw [joinDotsList_cons hafter, List.nil_append] at hcs
      exact h.apart ⟨joinDotsList before, joinDotsList after, by simp [hcs]⟩

theorem WellDotted.of_nil_not_mem (h : [] ∉ splitDotsList cs) : WellDotted cs := by
  have hnil : [] ∈ splitDotsList [] := List.mem_singleton_self []
  have hdot (before after : List Char) (hcs : cs = before ++ '.' :: after) :
      [] ∉ splitDotsList before ∧ [] ∉ splitDotsList after := by
    rw [hcs, splitDotsList_append, List.mem_append] at h
    exact not_or.1 h
  refine ⟨?_, ?_, ?_, ?_⟩
  · rintro rfl
    exact h hnil
  · intro hhead
    obtain ⟨rest, rfl⟩ := List.head?_eq_some_iff.1 hhead
    exact (hdot [] rest rfl).1 hnil
  · intro hlast
    obtain ⟨rest, rfl⟩ := List.getLast?_eq_some_iff.1 hlast
    exact (hdot rest [] rfl).2 hnil
  · rintro ⟨before, after, rfl⟩
    refine (hdot before ('.' :: after) (by simp)).2 ?_
    rw [← List.nil_append ('.' :: after), splitDotsList_append]
    exact List.mem_append_left _ hnil

/-- None of the parts is empty. -/
theorem wellDotted_iff : WellDotted cs ↔ [] ∉ splitDotsList cs :=
  ⟨WellDotted.nil_not_mem, WellDotted.of_nil_not_mem⟩

theorem splitDotsList_inj : splitDotsList cs = splitDotsList ds ↔ cs = ds := by
  refine ⟨fun h => ?_, congrArg splitDotsList⟩
  rw [← joinDotsList_splitDotsList cs, h, joinDotsList_splitDotsList]

/-- The parts of a text begin those of another where the text does, up to its end or to a dot. -/
theorem splitDotsList_prefix_iff :
    splitDotsList cs <+: splitDotsList ds ↔ ds = cs ∨ ∃ rest, ds = cs ++ '.' :: rest := by
  constructor
  · rintro ⟨more, hmore⟩
    by_cases hnil : more = []
    · rw [hnil, List.append_nil] at hmore
      exact .inl (splitDotsList_inj.1 hmore).symm
    · refine .inr ⟨joinDotsList more, ?_⟩
      calc
        ds = joinDotsList (splitDotsList cs ++ more) := by rw [hmore, joinDotsList_splitDotsList]
        _ = cs ++ '.' :: joinDotsList more := by
          rw [joinDotsList_append (splitDotsList_ne_nil cs) hnil, joinDotsList_splitDotsList]
  · rintro (rfl | ⟨rest, rfl⟩)
    · exact List.prefix_rfl
    · rw [splitDotsList_append]
      exact List.prefix_append _ _

end CloudFlags.Text

namespace CloudFlags.KeyPath

/-- The keys, none of them empty and none with a dot, stand in the text with dots between them. -/
structure Spells (s : String) (keys : List String) : Prop where
  ne_nil : keys ≠ []
  ne_empty : "" ∉ keys
  dotless : ∀ key ∈ keys, '.' ∉ key.toList
  eq_join : s = Text.joinDots keys

variable {s t : String} {keys : List String} {path p q : KeyPath} {e : Error}

theorem Spells.splitDots (h : Spells s keys) : Text.splitDots s = keys := by
  rw [h.eq_join, Text.splitDots_joinDots h.ne_nil h.dotless]

theorem Spells.unique {other : List String} (h : Spells s keys) (h' : Spells s other) :
    keys = other := h.splitDots.symm.trans h'.splitDots

theorem spells_splitDots (ne_nil : Text.splitDots s ≠ []) (ne_empty : "" ∉ Text.splitDots s) :
    Spells s (Text.splitDots s) :=
  ⟨ne_nil, ne_empty, fun _ => Text.dotless_of_mem_splitDots, (Text.joinDots_splitDots s).symm⟩

theorem ofKeys_eq_ok_iff : ofKeys keys = .ok path ↔ path.keys = keys := by
  rw [ofKeys]
  constructor
  · intro h
    split at h
    · cases h
      rfl
    · cases h
  · rintro rfl
    exact dif_pos ⟨path.keys_ne_nil, path.key_ne_empty⟩

theorem ofText_eq_ok_iff : ofText s = .ok path ↔ Spells s path.keys := by
  rw [ofText, ofKeys_eq_ok_iff]
  constructor
  · intro h
    rw [h]
    exact spells_splitDots (h ▸ path.keys_ne_nil) (h ▸ path.key_ne_empty)
  · exact fun h => h.splitDots.symm

/-- A text that spells nothing is refused, and told. -/
theorem ofText_eq_error_iff :
    ofText s = .error e ↔ (¬ ∃ keys, Spells s keys) ∧ e = .invalidKeyPath s := by
  rw [ofText, ofKeys]
  split
  · next hkeys =>
    refine iff_of_false (fun h => nomatch h) fun h => h.1 ?_
    exact ⟨_, spells_splitDots hkeys.1 hkeys.2⟩
  · next hkeys =>
    rw [Text.joinDots_splitDots, Except.error.injEq, eq_comm]
    refine (and_iff_right ?_).symm
    rintro ⟨keys, h⟩
    exact hkeys (h.splitDots ▸ ⟨h.ne_nil, h.ne_empty⟩)

/-- The path is written as it was spelled. -/
theorem text_of_spells (h : Spells s path.keys) : path.text = s := h.eq_join.symm

/-- Whether a text is read is a matter of its dots. -/
theorem exists_ofText_iff : (∃ path, ofText s = .ok path) ↔ Text.WellDotted s.toList := by
  have hempty : "" ∈ Text.splitDots s ↔ [] ∈ Text.splitDotsList s.toList := by
    rw [Text.splitDots, List.mem_map]
    constructor
    · rintro ⟨part, hpart, hnil⟩
      rwa [String.ofList_eq_empty_iff.1 hnil] at hpart
    · exact fun hnil => ⟨[], hnil, rfl⟩
  rw [Text.wellDotted_iff, ← hempty]
  constructor
  · rintro ⟨path, h⟩
    rw [(ofText_eq_ok_iff.1 h).splitDots]
    exact path.key_ne_empty
  · intro h
    have ne_nil : Text.splitDots s ≠ [] := mt List.map_eq_nil_iff.1 (Text.splitDotsList_ne_nil _)
    exact ⟨⟨Text.splitDots s, ne_nil, h⟩, ofText_eq_ok_iff.2 (spells_splitDots ne_nil h)⟩

/-- The keys that a text spells begin those of another where the text does, up to its end or to a
dot. -/
theorem prefix_iff_of_spells (hp : Spells s p.keys) (hq : Spells t q.keys) :
    p.keys <+: q.keys ↔ t = s ∨ ∃ rest, t = s ++ "." ++ rest := by
  have hinj : Function.Injective String.ofList := fun _ _ => String.ofList_inj.1
  rw [← hp.splitDots, ← hq.splitDots, Text.splitDots, Text.splitDots,
    List.prefix_map_iff_of_injective hinj, Text.splitDotsList_prefix_iff, String.toList_inj]
  refine or_congr_right ⟨?_, ?_⟩
  · rintro ⟨rest, hrest⟩
    refine ⟨String.ofList rest, String.toList_inj.1 ?_⟩
    simp [hrest]
  · rintro ⟨rest, rfl⟩
    exact ⟨rest.toList, by simp⟩

/-- A path is read back from its text if there is no dot in its keys, and only then. -/
theorem ofText_text_iff : ofText path.text = .ok path ↔ ∀ key ∈ path.keys, '.' ∉ key.toList := by
  rw [ofText_eq_ok_iff]
  exact ⟨Spells.dotless, fun h => ⟨path.keys_ne_nil, path.key_ne_empty, h, rfl⟩⟩

/-- Reading and writing paths undo one another. A text is read if it is not empty, has no dot at
either end and no two dots side by side; the keys have no dots then, and the path is written as that
text. A path of whatever keys is read back from its text exactly if there are no dots in them. Of
two paths that were read, the keys of the one begin those of the other exactly if the text of the
other is that of the one, or goes on after it with a dot. -/
theorem read_as_spelled :
    (∀ s, (∃ path, ofText s = .ok path) ↔ Text.WellDotted s.toList) ∧
      (∀ s path, ofText s = .ok path →
        (∀ key ∈ path.keys, '.' ∉ key.toList) ∧ path.text = s) ∧
      (∀ keys path, ofKeys keys = .ok path →
        (ofText path.text = .ok path ↔ ∀ key ∈ keys, '.' ∉ key.toList)) ∧
      ∀ s t p q, ofText s = .ok p → ofText t = .ok q →
        (p.isPrefixOf q = true ↔ p.keys <+: q.keys) ∧
          (p.keys <+: q.keys ↔ q.text = p.text ∨ ∃ rest, q.text = p.text ++ "." ++ rest) := by
  refine ⟨fun s => exists_ofText_iff, fun s path h => ?_, fun keys path h => ?_,
    fun s t p q hp hq => ?_⟩
  · have hs := ofText_eq_ok_iff.1 h
    exact ⟨hs.dotless, text_of_spells hs⟩
  · rw [← ofKeys_eq_ok_iff.1 h, ofText_text_iff]
  · have hs := ofText_eq_ok_iff.1 hp
    have ht := ofText_eq_ok_iff.1 hq
    rw [text_of_spells hs, text_of_spells ht]
    exact ⟨List.isPrefixOf_iff_prefix, prefix_iff_of_spells hs ht⟩

/-- The path of `a.b` begins that of `a.b.c`, but not that of `a.bc`. -/
theorem read_as_spelled_abc :
    ∃ p q r, ofText "a.b" = .ok p ∧ ofText "a.b.c" = .ok q ∧ ofText "a.bc" = .ok r ∧
      p.text = "a.b" ∧ ofText p.text = .ok p ∧ p.keys <+: q.keys ∧
      ¬ ∃ rest, r.text = p.text ++ "." ++ rest := by
  obtain ⟨-, spelled, readBack, begins⟩ := read_as_spelled
  let p : KeyPath := ⟨["a", "b"], by decide, by decide⟩
  let q : KeyPath := ⟨["a", "b", "c"], by decide, by decide⟩
  let r : KeyPath := ⟨["a", "bc"], by decide, by decide⟩
  have hp : ofText "a.b" = .ok p := rfl
  have hq : ofText "a.b.c" = .ok q := rfl
  have hr : ofText "a.bc" = .ok r := rfl
  obtain ⟨dotless, htext⟩ := spelled _ _ hp
  have hback : ofText p.text = .ok p := (readBack ["a", "b"] p rfl).2 dotless
  have hbegins : p.keys <+: q.keys := (begins _ _ _ _ hp hq).2.2 (.inr ⟨"c", rfl⟩)
  have hapart : ¬ p.keys <+: r.keys := by decide
  exact ⟨p, q, r, hp, hq, hr, htext, hback, hbegins, fun h =>
    hapart ((begins _ _ _ _ hp hr).2.2 (.inr h))⟩

end CloudFlags.KeyPath
