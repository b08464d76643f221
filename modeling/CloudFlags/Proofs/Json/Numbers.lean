import CloudFlags.Json.Parser
import CloudFlags.Json.Printer

/-! Numbers that are read back: the text of the number, read as a value, gives the number and leaves
nothing. Whatever then follows the text, if only it could not belong to the number, is left as it
is. Integers of 64 bits are read back; of a double this is a property of its text. -/

namespace CloudFlags

/-- Reading digits never makes a number smaller. -/
theorem Text.le_foldl_digitValue (n : Nat) (ds : List Char) :
    n ≤ ds.foldl (fun n d => n * 10 + digitValue d) n := by
  induction ds generalizing n with
  | nil => exact Nat.le_refl n
  | cons d ds ih =>
    have hd := ih (n * 10 + digitValue d)
    rw [List.foldl_cons]
    omega

/-- The decimal digits of a number stand for it. -/
theorem Text.digitsValue_toDigits (n : Nat) : digitsValue (Nat.toDigits 10 n) = n := by
  have hstep : (fun n d => n * 10 + digitValue d) =
      fun sofar (c : Char) => 10 * sofar + (c.toNat - '0'.toNat) := by
    funext n d
    rw [digitValue, Nat.mul_comm]
  rw [digitsValue, hstep]
  exact Nat.ofDigitChars_toDigits (by decide) (by decide)

/-- The only number whose digits begin with a zero is zero. -/
theorem Text.eq_zero_of_head?_toDigits (n : Nat) (h : (Nat.toDigits 10 n).head? = some '0') :
    n = 0 := by
  induction n using Nat.strongRecOn with
  | _ n ih =>
    rw [Nat.toDigits_eq_if (by decide)] at h
    split at h
    · next hlt =>
      have hdigit : ∀ k < 10, Nat.digitChar k = '0' → k = 0 := by decide
      exact hdigit n hlt (Option.some.inj h)
    · next hge =>
      rw [List.head?_append, Option.or_of_isSome (List.isSome_head?.2 Nat.toDigits_ne_nil)] at h
      have hten := ih (n / 10) (by omega) h
      omega

namespace Json

/-- The text of the number is read as the number, to its end. -/
def Number.ReadsBack (n : Number) : Prop := readValue 1 0 (renderNumber n) = .ok (.num n, [])

/-- What follows a number cannot belong to it. -/
def EndsNumber : List Char → Prop
  | [] => True
  | c :: _ => c.isDigit = false ∧ c ≠ '.' ∧ c ≠ 'e' ∧ c ≠ 'E'

variable {negative : Bool} {significand : Nat} {exponent : Int} {n : Number} {cs rest : List Char}

/-! ### What follows a number -/

theorem takeWhile_isDigit_append (h : EndsNumber rest) (cs : List Char) :
    (cs ++ rest).takeWhile Char.isDigit = cs.takeWhile Char.isDigit := by
  induction cs with
  | nil =>
    cases rest with
    | nil => rfl
    | cons c rest => exact List.takeWhile_cons_of_neg (Bool.not_eq_true _ ▸ h.1)
  | cons c cs ih =>
    rw [List.cons_append, List.takeWhile_cons, List.takeWhile_cons, ih]

theorem dropWhile_isDigit_append (h : EndsNumber rest) (cs : List Char) :
    (cs ++ rest).dropWhile Char.isDigit = cs.dropWhile Char.isDigit ++ rest := by
  induction cs with
  | nil =>
    cases rest with
    | nil => rfl
    | cons c rest => exact List.dropWhile_cons_of_neg (Bool.not_eq_true _ ▸ h.1)
  | cons c cs ih =>
    rw [List.cons_append, List.dropWhile_cons, List.dropWhile_cons, ih]
    split <;> rfl

theorem startsExponent_cons (c : Char) (cs : List Char) :
    startsExponent (c :: cs) = (c == 'e' || c == 'E') := by
  unfold startsExponent
  split <;> simp_all

theorem startsExponent_append (h : EndsNumber rest) (cs : List Char) :
    startsExponent (cs ++ rest) = startsExponent cs := by
  cases cs with
  | cons c cs => rw [List.cons_append, startsExponent_cons, startsExponent_cons]
  | nil =>
    cases rest with
    | nil => rfl
    | cons c rest =>
      obtain ⟨-, -, he, hE⟩ := h
      rw [List.nil_append, startsExponent_cons, beq_false_of_ne he, beq_false_of_ne hE]
      rfl

/-! ### Reading on -/

theorem toReal_append (h : toReal negative significand exponent [] = .ok (n, [])) :
    toReal negative significand exponent rest = .ok (n, rest) := by
  rw [toReal] at h ⊢
  split at h
  · cases h
    rfl
  · cases h

theorem left_of_toReal {left : List Char}
    (h : toReal negative significand exponent left = .ok (n, [])) : left = [] := by
  rw [toReal] at h
  split at h
  · exact (Prod.mk.inj (Except.ok.inj h)).2
  · cases h

/-- An exponent behind its sign. -/
def readShift (negative : Bool) (significand : Nat) (exponent : Int) (minus : Bool)
    (cs : List Char) : Reading Number :=
  let ds := cs.takeWhile Char.isDigit
  let rest := cs.dropWhile Char.isDigit
  if ds.isEmpty then noDigit rest else
  let shift : Int := Text.digitsValue ds
  match if minus ∨ significand = 0 then none else passesMost? 0 ds with
  | some later => .error (.behind .tooLarge (later ++ rest))
  | none => toReal negative significand (if minus then exponent - shift else exponent + shift) rest

theorem readExponent_cons {c : Char} (hplus : c ≠ '+') (hminus : c ≠ '-') (cs : List Char) :
    readExponent negative significand exponent (c :: cs) =
      readShift negative significand exponent false (c :: cs) := by
  unfold readExponent
  split
  next heq =>
    split at heq
    · next h => exact absurd (List.cons.inj h).1 hplus
    · next h => exact absurd (List.cons.inj h).1 hminus
    · cases heq
      rfl

theorem not_noDigit_eq_ok {left : List Char} : noDigit cs ≠ .ok (n, left) :=
  fun h => nomatch h

theorem readShift_append (minus : Bool) (ends : EndsNumber rest)
    (h : readShift negative significand exponent minus cs = .ok (n, [])) :
    readShift negative significand exponent minus (cs ++ rest) = .ok (n, rest) := by
  simp only [readShift] at h ⊢
  rw [takeWhile_isDigit_append ends, dropWhile_isDigit_append ends]
  split at h
  · exact absurd h not_noDigit_eq_ok
  · split at h
    · cases h
    · next hempty _ hpasses =>
      have hnil := left_of_toReal h
      rw [hnil] at h ⊢
      simp only [hempty, List.nil_append, Bool.false_eq_true, ↓reduceIte]
      exact toReal_append h

theorem readExponent_append (ends : EndsNumber rest)
    (h : readExponent negative significand exponent cs = .ok (n, [])) :
    readExponent negative significand exponent (cs ++ rest) = .ok (n, rest) := by
  cases cs with
  | nil => exact absurd h not_noDigit_eq_ok
  | cons c cs =>
    by_cases hplus : c = '+'
    · subst hplus
      exact readShift_append false ends h
    · by_cases hminus : c = '-'
      · subst hminus
        exact readShift_append true ends h
      · rw [readExponent_cons hplus hminus] at h
        rw [List.cons_append, readExponent_cons hplus hminus]
        exact readShift_append false ends h

theorem readFraction_append (ends : EndsNumber rest)
    (h : readFraction negative significand exponent cs = .ok (n, [])) :
    readFraction negative significand exponent (cs ++ rest) = .ok (n, rest) := by
  simp only [readFraction] at h ⊢
  rw [takeWhile_isDigit_append ends, dropWhile_isDigit_append ends, startsExponent_append ends]
  split at h
  · exact absurd h not_noDigit_eq_ok
  · next hempty =>
    rw [if_neg hempty]
    split at h
    · next hexponent =>
      obtain ⟨c, left, hleft⟩ : ∃ c left, cs.dropWhile Char.isDigit = c :: left := by
        cases hleft : cs.dropWhile Char.isDigit with
        | nil => rw [hleft] at hexponent; cases hexponent
        | cons c left => exact ⟨c, left, rfl⟩
      rw [if_pos hexponent, hleft]
      rw [hleft] at h
      exact readExponent_append ends h
    · next hexponent =>
      have hnil := left_of_toReal h
      rw [if_neg hexponent, hnil]
      rw [hnil] at h
      exact toReal_append h

theorem left_of_wholeNumber {dropped : Nat} {left : List Char}
    (h : wholeNumber negative significand dropped left = .ok (n, [])) : left = [] := by
  rw [wholeNumber] at h
  split at h
  · exact (Prod.mk.inj (Except.ok.inj h)).2
  · split at h
    · exact (Prod.mk.inj (Except.ok.inj h)).2
    · exact left_of_toReal h

theorem wholeNumber_append {dropped : Nat}
    (h : wholeNumber negative significand dropped [] = .ok (n, [])) :
    wholeNumber negative significand dropped rest = .ok (n, rest) := by
  rw [wholeNumber] at h ⊢
  split at h
  · next hcond =>
    cases h
    rw [if_pos hcond]
  · next hcond =>
    rw [if_neg hcond]
    split at h
    · next hcond' =>
      cases h
      rw [if_pos hcond']
    · next hcond' =>
      rw [if_neg hcond']
      exact toReal_append h

/-- A number behind its leading digits. -/
def readBehind (negative : Bool) (significand dropped : Nat) : List Char → Reading Number
  | '.' :: rest => readFraction negative significand dropped rest
  | rest =>
    if startsExponent rest then readExponent negative significand dropped rest.tail
    else wholeNumber negative significand dropped rest

theorem readBehind_of_ne {dropped : Nat} (h : ∀ left, cs ≠ '.' :: left) :
    readBehind negative significand dropped cs =
      if startsExponent cs then readExponent negative significand dropped cs.tail
      else wholeNumber negative significand dropped cs := by
  unfold readBehind
  split
  · next left => exact absurd rfl (h left)
  · rfl

theorem readBehind_append {dropped : Nat} (ends : EndsNumber rest)
    (h : readBehind negative significand dropped cs = .ok (n, [])) :
    readBehind negative significand dropped (cs ++ rest) = .ok (n, rest) := by
  by_cases hpoint : ∃ left, cs = '.' :: left
  · obtain ⟨left, rfl⟩ := hpoint
    exact readFraction_append ends h
  · have hne : ∀ left, cs ≠ '.' :: left := fun left heq => hpoint ⟨left, heq⟩
    have hne' : ∀ left, cs ++ rest ≠ '.' :: left := by
      intro left heq
      cases cs with
      | cons c cs => exact hne cs (by rw [(List.cons.inj heq).1])
      | nil =>
        cases rest with
        | nil => cases heq
        | cons c rest => exact ends.2.1 (List.cons.inj heq).1
    rw [readBehind_of_ne hne] at h
    rw [readBehind_of_ne hne', startsExponent_append ends]
    split at h
    · next hexponent =>
      obtain ⟨c, left, rfl⟩ : ∃ c left, cs = c :: left := by
        cases cs with
        | nil => cases hexponent
        | cons c left => exact ⟨c, left, rfl⟩
      rw [if_pos hexponent]
      exact readExponent_append ends h
    · next hexponent =>
      have hnil := left_of_wholeNumber h
      subst hnil
      rw [if_neg hexponent]
      exact wholeNumber_append h

/-- A number that is read to its end is read in the same way from a longer text. -/
theorem readNumber_append (ends : EndsNumber rest) (h : readNumber negative cs = .ok (n, [])) :
    readNumber negative (cs ++ rest) = .ok (n, rest) := by
  simp only [readNumber] at h ⊢
  rw [takeWhile_isDigit_append ends, dropWhile_isDigit_append ends]
  split at h
  · exact absurd h not_noDigit_eq_ok
  · next hempty =>
    rw [if_neg hempty]
    split at h
    · cases h
    · next hzero =>
      rw [if_neg hzero]
      exact readBehind_append ends h

/-! ### Reading a number as a value -/

theorem skipBlank_append {c : Char} {left : List Char} (h : skipBlank cs = c :: left)
    (rest : List Char) : skipBlank (cs ++ rest) = c :: (left ++ rest) := by
  have hne : (cs.dropWhile isBlank).isEmpty = false := by
    rw [skipBlank] at h
    rw [h]
    rfl
  rw [skipBlank, List.dropWhile_append, hne]
  exact congrArg (· ++ rest) h

theorem readValue_minus {fuel depth : Nat} (h : skipBlank cs = '-' :: rest) :
    readValue (fuel + 1) depth cs = (readNumber true rest).map fun (n, rest) => (.num n, rest) := by
  rw [readValue, h]
  rfl

theorem readValue_digit {fuel depth : Nat} {c : Char} (h : skipBlank cs = c :: rest)
    (hc : c.isDigit) :
    readValue (fuel + 1) depth cs =
      (readNumber false (c :: rest)).map fun (n, rest) => (.num n, rest) := by
  have hne (mark : Char) (hmark : mark.isDigit = false) : c ≠ mark := by
    rintro rfl
    rw [hc] at hmark
    cases hmark
  rw [readValue, h]
  simp only [hne 'n' (by decide), hne 't' (by decide), hne 'f' (by decide), hne '-' (by decide), hc,
    ↓reduceIte]

theorem exists_of_map_eq_ok {ε α β : Type} {f : α → β} {r : Except ε α} {b : β}
    (h : r.map f = .ok b) : ∃ a, r = .ok a ∧ f a = b := by
  cases r with
  | error e => cases h
  | ok a => exact ⟨a, rfl, Except.ok.inj h⟩

/-- A value that is a number begins with a minus sign or a digit. -/
theorem readNumber_of_readValue (h : readValue 1 0 cs = .ok (.num n, [])) :
    (∃ left, skipBlank cs = '-' :: left ∧ readNumber true left = .ok (n, [])) ∨
      ∃ c left, skipBlank cs = c :: left ∧ c.isDigit ∧ readNumber false (c :: left) = .ok (n, []) := by
  have number {negative : Bool} {left : List Char}
      (h : (readNumber negative left).map (fun (n, rest) => (Json.num n, rest)) =
        .ok (.num n, [])) : readNumber negative left = .ok (n, []) := by
    obtain ⟨⟨m, rest⟩, hread, heq⟩ := exists_of_map_eq_ok h
    cases heq
    exact hread
  cases hskip : skipBlank cs with
  | nil =>
    rw [readValue, hskip] at h
    cases h
  | cons c left =>
    by_cases hminus : c = '-'
    · subst hminus
      rw [readValue_minus hskip] at h
      exact .inl ⟨left, rfl, number h⟩
    by_cases hdigit : c.isDigit
    · rw [readValue_digit hskip hdigit] at h
      exact .inr ⟨c, left, rfl, hdigit, number h⟩
    -- every other beginning is that of another kind of value, or of none
    rw [readValue, hskip] at h
    simp only [hminus, hdigit, ↓reduceIte, Bool.false_eq_true] at h
    repeat' split at h
    all_goals first
      | cases h
      | obtain ⟨_, -, heq⟩ := exists_of_map_eq_ok h
        cases heq

/-- What follows a number that is read back is left as it is. -/
theorem Number.ReadsBack.readValue (h : n.ReadsBack) (ends : EndsNumber rest) (fuel depth : Nat) :
    readValue (fuel + 1) depth (renderNumber n ++ rest) = .ok (.num n, rest) := by
  rcases readNumber_of_readValue h with ⟨left, hskip, hread⟩ | ⟨c, left, hskip, hdigit, hread⟩
  · rw [readValue_minus (skipBlank_append hskip rest), readNumber_append ends hread]
    rfl
  · rw [readValue_digit (skipBlank_append hskip rest) hdigit, ← List.cons_append,
      readNumber_append ends hread]
    rfl

/-! ### Integers -/

/-- An integer that 64 bits hold, with a sign or without. -/
def Number.Fits64 : Number → Prop
  | .int n => -(lowest64 : Int) ≤ n ∧ n < past64
  | .real _ => False

section

-- the comparison with `past64` is not to be evaluated in unary
attribute [local irreducible] appendDigit?

theorem takeDigits_cons (s : Nat) (d : Char) (ds : List Char) :
    takeDigits s (d :: ds) = match appendDigit? s d with
      | some next => takeDigits next ds
      | none => (s, ds.length + 1) :=
  rfl

end

/-- No digit is dropped from a number that 64 bits hold. -/
theorem takeDigits_of_lt {s : Nat} {ds : List Char}
    (h : ds.foldl (fun n d => n * 10 + Text.digitValue d) s < past64) :
    takeDigits s ds = (ds.foldl (fun n d => n * 10 + Text.digitValue d) s, 0) := by
  induction ds generalizing s with
  | nil => rfl
  | cons d ds ih =>
    rw [List.foldl_cons] at h ⊢
    have hnext : s * 10 + Text.digitValue d < past64 :=
      Nat.lt_of_le_of_lt (Text.le_foldl_digitValue _ ds) h
    have happend : appendDigit? s d = some (s * 10 + Text.digitValue d) := if_pos hnext
    rw [takeDigits_cons, happend]
    exact ih h

theorem takeWhile_eq_self {p : Char → Bool} (h : ∀ c ∈ cs, p c) : cs.takeWhile p = cs := by
  have happend : (cs ++ []).takeWhile p = cs ++ [].takeWhile p := List.takeWhile_append_of_pos h
  rwa [List.append_nil, List.takeWhile_nil, List.append_nil] at happend

theorem dropWhile_eq_nil {p : Char → Bool} (h : ∀ c ∈ cs, p c) : cs.dropWhile p = [] := by
  have happend : (cs ++ []).dropWhile p = [].dropWhile p := List.dropWhile_append_of_pos h
  rwa [List.append_nil, List.dropWhile_nil] at happend

theorem isDigit_of_mem_toDigits {m : Nat} {c : Char} (h : c ∈ Nat.toDigits 10 m) : c.isDigit :=
  Nat.isDigit_of_mem_toDigits (by decide) (by decide) h

/-- The digits of a natural are read to their end. -/
theorem readNumber_toDigits {m : Nat} (h : m < past64) (negative : Bool) :
    readNumber negative (Nat.toDigits 10 m) = wholeNumber negative m 0 [] := by
  have htake := takeWhile_eq_self fun c => isDigit_of_mem_toDigits (m := m) (c := c)
  have hdrop := dropWhile_eq_nil fun c => isDigit_of_mem_toDigits (m := m) (c := c)
  have hempty : (Nat.toDigits 10 m).isEmpty = false :=
    List.isEmpty_eq_false_iff.2 Nat.toDigits_ne_nil
  have hzero : ¬ ((Nat.toDigits 10 m).head? = some '0' ∧ 1 < (Nat.toDigits 10 m).length) := by
    rintro ⟨hhead, hlength⟩
    rw [Text.eq_zero_of_head?_toDigits m hhead] at hlength
    exact absurd hlength (by decide)
  have hvalue : takeDigits 0 (Nat.toDigits 10 m) = (m, 0) := by
    have hsum := Text.digitsValue_toDigits m
    rw [Text.digitsValue] at hsum
    rw [takeDigits_of_lt (by rwa [hsum]), hsum]
  rw [readNumber, htake, hdrop]
  simp only [hempty, hzero, hvalue, startsExponent, Bool.false_eq_true, ↓reduceIte]

theorem isBlank_of_isDigit {c : Char} (h : c.isDigit) : isBlank c = false := by
  have hne (blank : Char) (hblank : blank.isDigit = false) : (c == blank) = false := by
    refine beq_false_of_ne ?_
    rintro rfl
    rw [h] at hblank
    cases hblank
  rw [isBlank, hne ' ' (by decide), hne '\n' (by decide), hne '\t' (by decide),
    hne '\r' (by decide)]
  rfl

/-- Integers of 64 bits are read back. -/
theorem Number.Fits64.readsBack {n : Number} (h : n.Fits64) : n.ReadsBack := by
  cases n with
  | real x => exact h.elim
  | int n =>
    obtain ⟨low, high⟩ := h
    rw [ReadsBack, renderNumber, renderInt]
    split
    · next hnegative =>
      have hpos : 0 < n.natAbs := by omega
      have hle : n.natAbs ≤ lowest64 := by omega
      have hlt : n.natAbs < past64 := Nat.lt_of_le_of_lt hle (by decide)
      have hn : -(n.natAbs : Int) = n := by omega
      rw [readValue_minus rfl, readNumber_toDigits hlt, wholeNumber]
      simp only [hpos, hle, Bool.true_eq_false, and_false, and_self, ↓reduceIte, Except.map, hn]
    · next hnonnegative =>
      have hn : (n.natAbs : Int) = n := by omega
      have hlt : n.natAbs < past64 := by omega
      obtain ⟨c, left, hdigits⟩ :=
        List.exists_cons_of_ne_nil (Nat.toDigits_ne_nil (b := 10) (n := n.natAbs))
      have hc : c.isDigit := isDigit_of_mem_toDigits (hdigits ▸ List.mem_cons_self)
      have hskip : skipBlank (Nat.toDigits 10 n.natAbs) = c :: left := by
        rw [hdigits]
        exact List.dropWhile_cons_of_neg (Bool.not_eq_true _ ▸ isBlank_of_isDigit hc)
      rw [readValue_digit hskip hc, ← hdigits, readNumber_toDigits hlt, wholeNumber]
      simp only [and_self, ↓reduceIte, Except.map, hn]

end Json

end CloudFlags
