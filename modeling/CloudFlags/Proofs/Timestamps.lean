import Mathlib.Data.Nat.Digits.Defs
import CloudFlags.Calendar.Timestamp.Parser
import CloudFlags.Proofs.Json.ConfigMaps

/-! A moment is read again to the second (`Timestamp.parse_text`), if its year is one of those that
are kept, and no other is ever read. Each part of the text is read by its scanner up to the
mark that stands behind it. -/

namespace CloudFlags

namespace Text

variable {width n : Nat} {c : Char}

theorem isDigit_of_mem_paddedDigits (h : c ∈ paddedDigits width n) : c.isDigit := by
  rcases List.mem_append.1 h with h | h
  · rw [List.eq_of_mem_replicate h]
    rfl
  · exact Json.isDigit_of_mem_toDigits h

theorem paddedDigits_ne_nil : paddedDigits width n ≠ [] :=
  List.append_ne_nil_of_right_ne_nil _ Nat.toDigits_ne_nil

theorem isDigit_of_paddedDigits_append {cs rest : List Char}
    (h : paddedDigits width n ++ rest = c :: cs) : c.isDigit := by
  cases hds : paddedDigits width n with
  | nil => exact absurd hds paddedDigits_ne_nil
  | cons d ds =>
    rw [hds] at h
    cases h
    exact isDigit_of_mem_paddedDigits (hds ▸ List.mem_cons_self)

theorem digitsValue_paddedDigits (width n : Nat) : digitsValue (paddedDigits width n) = n := by
  rw [paddedDigits, digitsValue_zeros, digitsValue_toDigits]

theorem length_paddedDigits (hwidth : 0 < width) (h : n < 10 ^ width) :
    (paddedDigits width n).length = width := by
  have hle := Nat.toDigits_length 10 n width hwidth h
  rw [paddedDigits, List.length_append, List.length_replicate]
  omega

end Text

namespace Calendar.Timestamp

open Text

variable {α β : Type} {n low high : Nat} {year : Int} {cs rest : List Char}

/-! ### Scanners -/

theorem bind_of_eq_ok {scan : Scan α} {next : α → Scan β} {value : α}
    (h : scan cs = .ok (value, rest)) : (scan >>= next) cs = next value rest := by
  show (scan cs >>= fun found => next found.1 found.2) = _
  rw [h]
  rfl

theorem get_eq (cs : List Char) : (get : Scan (List Char)) cs = .ok (cs, cs) := rfl

theorem scanBlank_of_not_isBlank {c : Char} (h : isBlank c = false) :
    scanBlank (c :: rest) = .ok ((), c :: rest) := by
  show Except.ok ((), (c :: rest).dropWhile isBlank) = _
  rw [List.dropWhile_cons_of_neg (by rw [h]; exact Bool.false_ne_true)]

theorem scanMark_self (mark : Char) (rest : List Char) :
    scanMark mark (mark :: rest) = .ok ((), rest) := by
  rw [scanMark, bind_of_eq_ok (get_eq _)]
  dsimp only
  rw [if_pos rfl]
  rfl

/-- Digits that are all of the number are read as it. -/
theorem scanNumber_append {width : Nat} {ds : List Char} (hne : ds ≠ [])
    (hdigits : ((ds ++ rest).take width).takeWhile Char.isDigit = ds)
    (hbound : digitsValue ds < numberBound) :
    scanNumber width (ds ++ rest) = .ok (digitsValue ds, rest) := by
  have hempty : (ds ++ rest).isEmpty = false :=
    List.isEmpty_eq_false_iff.2 (List.append_ne_nil_of_left_ne_nil hne rest)
  rw [scanNumber, bind_of_eq_ok (get_eq _)]
  simp only [hdigits, hempty, List.isEmpty_eq_false_iff.2 hne, Nat.not_le.2 hbound,
    Bool.false_eq_true, ↓reduceIte, List.drop_left]
  rfl

theorem scanBlank_paddedDigits (width n : Nat) (rest : List Char) :
    scanBlank (paddedDigits width n ++ rest) = .ok ((), paddedDigits width n ++ rest) := by
  cases h : paddedDigits width n ++ rest with
  | nil => rfl
  | cons c cs =>
    exact scanBlank_of_not_isBlank (isBlank_of_isDigit (isDigit_of_paddedDigits_append h))

theorem scanNumber_paddedDigits {width : Nat} (hwidth : 0 < width) (h : n < 10 ^ width)
    (hbound : n < numberBound) (rest : List Char) :
    scanNumber width (paddedDigits width n ++ rest) = .ok (n, rest) := by
  have hdigits : ((paddedDigits width n ++ rest).take width).takeWhile Char.isDigit =
      paddedDigits width n := by
    rw [List.take_left' (length_paddedDigits hwidth h)]
    exact Json.takeWhile_eq_self fun c hc => isDigit_of_mem_paddedDigits hc
  have hread := scanNumber_append paddedDigits_ne_nil hdigits
    (by rwa [digitsValue_paddedDigits])
  rwa [digitsValue_paddedDigits] at hread

/-- Behind a sign all digits up to the next mark are read. -/
theorem scanNumber_paddedDigits_mark {width : Nat} {mark : Char} (hmark : mark.isDigit = false)
    (hbound : n < numberBound) (rest : List Char) :
    scanNumber (paddedDigits width n ++ mark :: rest).length
      (paddedDigits width n ++ mark :: rest) = .ok (n, mark :: rest) := by
  have hdigits : ((paddedDigits width n ++ mark :: rest).take
      (paddedDigits width n ++ mark :: rest).length).takeWhile Char.isDigit =
        paddedDigits width n := by
    rw [List.take_length,
      List.takeWhile_append_of_pos fun c hc => isDigit_of_mem_paddedDigits hc,
      List.takeWhile_cons_of_neg (Bool.not_eq_true _ ▸ hmark), List.append_nil]
  have hread := scanNumber_append paddedDigits_ne_nil hdigits
    (by rwa [digitsValue_paddedDigits])
  rwa [digitsValue_paddedDigits] at hread

theorem scanField_paddedDigits (h : n < 100) (hlow : low ≤ n) (hhigh : n ≤ high)
    (rest : List Char) : scanField low high (paddedDigits 2 n ++ rest) = .ok (n, rest) := by
  have hbound : n < numberBound := Nat.lt_trans h (by decide)
  rw [scanField, bind_of_eq_ok (scanBlank_paddedDigits 2 n rest),
    bind_of_eq_ok (scanNumber_paddedDigits (by decide) h hbound rest), if_pos ⟨hlow, hhigh⟩]
  rfl

/-! ### Date and time -/

/-- A year that a word of 32 bits holds. -/
abbrev IsYear (year : Int) : Prop := -(yearBound : Int) ≤ year ∧ year < yearBound

theorem scanYear_minus (hyear : IsYear (-(n : Int))) (h : scanNumber cs.length cs = .ok (n, rest)) :
    scanYear ('-' :: cs) = .ok (-(n : Int), rest) := by
  rw [scanYear, bind_of_eq_ok (scanBlank_of_not_isBlank rfl), bind_of_eq_ok (get_eq _)]
  show (scanNumber cs.length >>= fun n => pure (-(n : Int)) >>= fun year =>
    if IsYear year then pure year else throw .outOfRange) cs = _
  rw [bind_of_eq_ok h, pure_bind, if_pos hyear]
  rfl

theorem scanYear_plus (hyear : IsYear n) (h : scanNumber cs.length cs = .ok (n, rest)) :
    scanYear ('+' :: cs) = .ok ((n : Int), rest) := by
  rw [scanYear, bind_of_eq_ok (scanBlank_of_not_isBlank rfl), bind_of_eq_ok (get_eq _)]
  show (scanNumber cs.length >>= fun n => pure (n : Int) >>= fun year =>
    if IsYear year then pure year else throw .outOfRange) cs = _
  rw [bind_of_eq_ok h, pure_bind, if_pos hyear]
  rfl

theorem scanYear_digits {c : Char} (hc : c.isDigit) (hyear : IsYear n)
    (h : scanNumber 4 (c :: cs) = .ok (n, rest)) : scanYear (c :: cs) = .ok ((n : Int), rest) := by
  rw [scanYear, bind_of_eq_ok (scanBlank_of_not_isBlank (isBlank_of_isDigit hc)),
    bind_of_eq_ok (get_eq _)]
  generalize hcs : c :: cs = given at h ⊢
  split
  · cases hcs
    cases hc
  · cases hcs
    cases hc
  · rw [bind_of_eq_ok h, pure_bind]
    exact congrFun (if_pos hyear) rest

theorem scanYear_yearText (h : isKept year) (rest : List Char) :
    scanYear (yearText year ++ '-' :: rest) = .ok (year, '-' :: rest) := by
  simp only [isKept, Bool.and_eq_true, decide_eq_true_eq] at h
  have hyear : IsYear year := by
    simp only [IsYear, yearBound]
    omega
  have hbound : year.natAbs < numberBound := by
    simp only [numberBound]
    omega
  have hsigned : scanNumber (paddedDigits 4 year.natAbs ++ '-' :: rest).length
      (paddedDigits 4 year.natAbs ++ '-' :: rest) = .ok (year.natAbs, '-' :: rest) :=
    scanNumber_paddedDigits_mark rfl hbound rest
  rw [yearText]
  split
  · next hplain =>
    have hnat : ((year.natAbs : Nat) : Int) = year := by omega
    have hread : scanNumber 4 (paddedDigits 4 year.natAbs ++ '-' :: rest) =
        .ok (year.natAbs, '-' :: rest) :=
      scanNumber_paddedDigits (by decide) (by omega) hbound _
    rw [show year.toNat = year.natAbs by omega]
    cases hcs : paddedDigits 4 year.natAbs ++ '-' :: rest with
    | nil => cases List.append_ne_nil_of_left_ne_nil paddedDigits_ne_nil _ hcs
    | cons c cs =>
      rw [hcs] at hread
      have hscan := scanYear_digits (isDigit_of_paddedDigits_append hcs) (by rwa [hnat]) hread
      rwa [hnat] at hscan
  · split
    · have hnat : -((year.natAbs : Nat) : Int) = year := by omega
      have hscan := scanYear_minus (by rwa [hnat]) hsigned
      rwa [hnat] at hscan
    · have hnat : ((year.natAbs : Nat) : Int) = year := by omega
      have hscan := scanYear_plus (by rwa [hnat]) hsigned
      rwa [hnat] at hscan

theorem scanDate_text {month day : Nat} (hyear : isKept year) (hdate : IsDate year month day)
    (rest : List Char) :
    scanDate (yearText year ++ '-' :: (paddedDigits 2 month ++
        '-' :: (paddedDigits 2 day ++ rest))) = .ok ((year, month, day), rest) := by
  obtain ⟨hmonth, hmonth', hday, hday'⟩ := hdate
  have hlast : day ≤ 31 := Nat.le_trans hday' (daysInMonth_le year month)
  rw [scanDate, bind_of_eq_ok (scanYear_yearText hyear _),
    bind_of_eq_ok (scanBlank_of_not_isBlank rfl), bind_of_eq_ok (scanMark_self _ _),
    bind_of_eq_ok (scanField_paddedDigits (by omega) hmonth hmonth' _),
    bind_of_eq_ok (scanBlank_of_not_isBlank rfl), bind_of_eq_ok (scanMark_self _ _),
    bind_of_eq_ok (scanField_paddedDigits (by omega) hday hlast _)]
  rfl

theorem scanTime_text {hour minute second nano : Nat} (h : IsTime hour minute second nano)
    (rest : List Char) :
    scanTime (paddedDigits 2 hour ++ ':' :: (paddedDigits 2 minute ++
        ':' :: (paddedDigits 2 second ++ 'Z' :: rest))) =
      .ok ((hour, minute, second, 0), 'Z' :: rest) := by
  obtain ⟨hhour, hminute, hsecond⟩ := h
  have hfraction : scanFraction ('Z' :: rest) = .ok (0, 'Z' :: rest) := rfl
  rw [scanTime, bind_of_eq_ok (scanField_paddedDigits (by omega) (by omega) (by omega) _),
    bind_of_eq_ok (scanBlank_of_not_isBlank rfl), bind_of_eq_ok (scanMark_self _ _),
    bind_of_eq_ok (scanField_paddedDigits (by omega) (by omega) (by omega) _),
    bind_of_eq_ok (scanBlank_of_not_isBlank rfl), bind_of_eq_ok (scanMark_self _ _),
    bind_of_eq_ok (scanField_paddedDigits (by omega) (by omega) (by omega) _),
    bind_of_eq_ok hfraction]
  rfl

/-! ### Moments -/

theorem ofNumbers_self {t : Timestamp} (h : isKept t.date.year) :
    ofNumbers t.date.year t.date.month t.date.day t.hour t.minute t.second t.nano 0 = .ok t := by
  rw [ofNumbers, dif_pos t.date.valid, dif_pos t.valid, if_pos ⟨h, by decide⟩]
  show (if isKept (ofLocal t.date t.hour t.minute t.second t.nano 0 t.valid).date.year then
    Except.ok (ofLocal t.date t.hour t.minute t.second t.nano 0 t.valid) else _) = _
  rw [ofLocal_zero, if_pos h]

/-- The moment at which its second began. -/
def whole (t : Timestamp) : Timestamp :=
  ⟨t.date, t.hour, t.minute, t.second, 0, t.valid.1, t.valid.2.1, t.valid.2.2.1, by decide⟩

@[simp] theorem text_whole (t : Timestamp) : t.whole.text = t.text := rfl

theorem whole_of_nano {t : Timestamp} (h : t.nano = 0) : t.whole = t := by
  obtain ⟨date, hour, minute, second, nano, valid⟩ := t
  cases h
  rfl

/-- A moment of a year that is kept is read again to the second. -/
theorem parse_text {t : Timestamp} (h : isKept t.date.year) : parse t.text = .ok t.whole := by
  have hmark : scanSeparator ('T' :: (paddedDigits 2 t.hour ++ ':' :: (paddedDigits 2 t.minute ++
      ':' :: (paddedDigits 2 t.second ++ ['Z'])))) = .ok ((), paddedDigits 2 t.hour ++
        ':' :: (paddedDigits 2 t.minute ++ ':' :: (paddedDigits 2 t.second ++ ['Z']))) := rfl
  have hahead : scanAhead ['Z'] = .ok (0, []) := rfl
  rw [parse, text, String.toList_ofList, parseList, textList]
  simp only [List.append_assoc, List.cons_append]
  rw [StateT.run, bind_of_eq_ok (scanDate_text h t.date.valid _), bind_of_eq_ok hmark,
    bind_of_eq_ok (scanTime_text t.valid _), bind_of_eq_ok hahead]
  exact ofNumbers_self (t := t.whole) h

/-- Only moments of such years are made of numbers. -/
theorem isKept_of_ofNumbers {month day hour minute second nano : Nat} {ahead : Int} {t : Timestamp}
    (h : ofNumbers year month day hour minute second nano ahead = .ok t) :
    isKept t.date.year := by
  rw [ofNumbers] at h
  split at h
  · split at h
    · split at h
      · dsimp only at h
        split at h
        · next hkept =>
          cases h
          exact hkept
        · cases h
      · cases h
    · cases h
  · cases h

theorem isKept_of_parse {s : String} {t : Timestamp} (h : parse s = .ok t) :
    isKept t.date.year := by
  rw [parse, parseList] at h
  obtain ⟨⟨⟨⟨year, month, day⟩, ⟨hour, minute, second, nano⟩, ahead⟩, rest⟩, -, h⟩ :=
    Json.exists_of_bind_eq_ok h
  dsimp only at h
  split at h
  · cases h
  · exact isKept_of_ofNumbers h

end Calendar.Timestamp

end CloudFlags
