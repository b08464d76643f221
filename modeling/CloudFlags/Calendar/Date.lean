/-! Days of the calendar that has a leap day every fourth year, but not in the years of a century
that 400 does not divide. Years count through zero. A day has a next one and a previous one, and
going forward and back again changes nothing. -/

namespace CloudFlags.Calendar

def isLeap (year : Int) : Bool := year % 4 = 0 && (year % 100 ≠ 0 || year % 400 = 0)

def daysInMonth (year : Int) : (month : Nat) → Nat
  | 2 => if isLeap year then 29 else 28
  | 4 | 6 | 9 | 11 => 30
  | _ => 31

theorem one_le_daysInMonth (year : Int) (month : Nat) : 1 ≤ daysInMonth year month := by
  unfold daysInMonth
  split <;> (try split) <;> omega

theorem daysInMonth_le (year : Int) (month : Nat) : daysInMonth year month ≤ 31 := by
  unfold daysInMonth
  split <;> (try split) <;> omega

/-- The day is one of the calendar. -/
abbrev IsDate (year : Int) (month day : Nat) : Prop :=
  1 ≤ month ∧ month ≤ 12 ∧ 1 ≤ day ∧ day ≤ daysInMonth year month

structure Date where
  year : Int
  month : Nat
  day : Nat
  valid : IsDate year month day
  deriving DecidableEq

namespace Date

def next (d : Date) : Date :=
  if h : d.day < daysInMonth d.year d.month then
    ⟨d.year, d.month, d.day + 1, d.valid.1, d.valid.2.1, by omega, h⟩
  else if h : d.month < 12 then
    ⟨d.year, d.month + 1, 1, by omega, h, Nat.le_refl 1, one_le_daysInMonth _ _⟩
  else ⟨d.year + 1, 1, 1, by decide, by decide, Nat.le_refl 1, one_le_daysInMonth _ _⟩

def previous (d : Date) : Date :=
  if h : 1 < d.day then
    ⟨d.year, d.month, d.day - 1, d.valid.1, d.valid.2.1, by omega, by have := d.valid; omega⟩
  else if h : 1 < d.month then
    ⟨d.year, d.month - 1, daysInMonth d.year (d.month - 1), by omega, by have := d.valid; omega,
      one_le_daysInMonth _ _, Nat.le_refl _⟩
  else ⟨d.year - 1, 12, 31, by decide, by decide, by decide, Nat.le_refl 31⟩

theorem previous_next (d : Date) : d.next.previous = d := by
  obtain ⟨year, month, day, hm, hm', hd, hd'⟩ := d
  unfold next
  dsimp only
  split
  · simp [previous, show 0 < day by omega]
  · split
    · have : day = daysInMonth year month := by omega
      simp [previous, this, show 0 < month by omega]
    · have hm : month = 12 := by omega
      subst hm
      have : day = 31 := by simp only [daysInMonth] at *; omega
      simp [previous, this]

end Date

end CloudFlags.Calendar
