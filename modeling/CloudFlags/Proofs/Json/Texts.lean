import CloudFlags.Json.Parser
import CloudFlags.Json.Printer

/-! Texts in quotes are read back, whatever characters they are made of and whatever follows the
closing quote: each character is escaped so that reading gives the character again and goes on
behind its escape. -/

namespace CloudFlags.Json

/-! ### Control characters -/

theorem le_foldl_utf8Size (n : Nat) (cs : List Char) :
    n ≤ cs.foldl (fun n c => n + c.utf8Size) n := by
  induction cs generalizing n with
  | nil => exact Nat.le_refl n
  | cons c cs ih => exact Nat.le_trans (Nat.le_add_right n c.utf8Size) (ih _)

theorem four_le_byteCount (a b c d : Char) (rest : List Char) :
    4 ≤ byteCount (a :: b :: c :: d :: rest) := by
  have ha := a.utf8Size_pos
  have hb := b.utf8Size_pos
  have hc := c.utf8Size_pos
  have hd := d.utf8Size_pos
  refine Nat.le_trans ?_ (le_foldl_utf8Size (0 + a.utf8Size + b.utf8Size + c.utf8Size + d.utf8Size) rest)
  omega

theorem unit?_control : ∀ n < 0x20,
    unit? '0' '0' (Nat.digitChar (n / 16)) (Nat.digitChar (n % 16)) = some n := by
  decide

theorem readUnit_control {n : Nat} (h : n < 0x20) (rest : List Char) :
    readUnit ('0' :: '0' :: Nat.digitChar (n / 16) :: Nat.digitChar (n % 16) :: rest) =
      .ok (n, rest) := by
  rw [readUnit, if_neg (Nat.not_lt.2 (four_le_byteCount ..))]
  simp only [unit?_control n h]

/-- A control character below the space is no half of a pair, so its unit stands for itself. -/
theorem readEscape_control {c : Char} (h : c.toNat < 0x20) (rest : List Char) :
    readEscape ('u' :: '0' :: '0' :: Nat.digitChar (c.toNat / 16) ::
      Nat.digitChar (c.toNat % 16) :: rest) = .ok (c, rest) := by
  have hlow : isLowSurrogate c.toNat = false := by
    simp only [isLowSurrogate, Bool.and_eq_false_imp, decide_eq_true_eq, decide_eq_false_iff_not]
    omega
  have hhigh : isHighSurrogate c.toNat = false := by
    simp only [isHighSurrogate, Bool.and_eq_false_imp, decide_eq_true_eq, decide_eq_false_iff_not]
    omega
  simp only [readEscape, ↓reduceIte, readUnit_control h, hlow, hhigh, Bool.false_eq_true,
    Char.ofNat_toNat]

/-! ### Characters and texts -/

/-- Reading goes on behind the escape of a character. -/
theorem readChars_escape (c : Char) (fuel : Nat) (rest : List Char) :
    readChars (fuel + 1) (escape c ++ rest) = (readChars fuel rest).cons c := by
  unfold escape
  split
  case h_8 hquote hbackslash _ _ _ _ _ =>
    split
    · next hcontrol =>
      simp only [List.cons_append, List.nil_append, readChars, Char.reduceEq, ↓reduceIte,
        readEscape_control hcontrol]
    · next hcontrol =>
      have hq : c ≠ '"' := fun h => hquote h
      have hb : c ≠ '\\' := fun h => hbackslash h
      simp only [List.cons_append, List.nil_append, readChars, hq, hb, hcontrol, ↓reduceIte]
  all_goals rfl

theorem readChars_flatMap_escape (s : List Char) {fuel : Nat} (h : s.length < fuel)
    (rest : List Char) :
    readChars fuel (s.flatMap escape ++ '"' :: rest) = .ok (s, rest) := by
  induction s generalizing fuel with
  | nil =>
    obtain ⟨fuel, rfl⟩ := Nat.exists_eq_add_one_of_ne_zero (Nat.ne_of_gt h)
    rfl
  | cons c s ih =>
    obtain ⟨fuel, rfl⟩ := Nat.exists_eq_add_one_of_ne_zero (Nat.ne_of_gt (Nat.zero_lt_of_lt h))
    rw [List.flatMap_cons, List.append_assoc, readChars_escape, ih (Nat.lt_of_succ_lt_succ h)]
    rfl

theorem one_le_length_escape (c : Char) : 1 ≤ (escape c).length := by
  unfold escape
  split
  case h_8 => split <;> simp
  all_goals simp

theorem length_le_length_flatMap_escape (s : List Char) :
    s.length ≤ (s.flatMap escape).length := by
  induction s with
  | nil => exact Nat.le_refl 0
  | cons c s ih =>
    have hc := one_le_length_escape c
    rw [List.flatMap_cons, List.length_append, List.length_cons]
    omega

/-- A text is read back from behind its opening quote. -/
theorem readText_render (s : String) (rest : List Char) :
    readText (s.toList.flatMap escape ++ '"' :: rest) = .ok (s, rest) := by
  have hfuel : s.toList.length < (s.toList.flatMap escape ++ '"' :: rest).length := by
    have hle := length_le_length_flatMap_escape s.toList
    rw [List.length_append, List.length_cons]
    omega
  rw [readText, readChars_flatMap_escape s.toList hfuel]
  exact congrArg (fun t => Except.ok (t, rest)) String.ofList_toList

end CloudFlags.Json
