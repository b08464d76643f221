/-! The delay after passes that failed in a row: it doubles from failure to failure, up to an hour.
Seconds are counted in 64 bits, and what would be more stays at the most; `delay_eq` says that this
is never felt. -/

namespace CloudFlags.Backoff

/-- The seconds that are doubled. -/
def base : Nat := 2

/-- The longest delay. -/
def longest : Nat := 3600

/-- The largest number of 64 bits. -/
def most : Nat := 0xFFFFFFFFFFFFFFFF

/-- A power of two, as far as 64 bits go. -/
def power (n : Nat) : Nat := if n < 64 then Nat.pow 2 n else most

/-- The seconds to wait after this many failures in a row. -/
def delay (failures : Nat) : Nat := min longest (min most (base * power failures))

theorem delay_eq (n : Nat) : delay n = min 3600 (Nat.pow 2 (n + 1)) := by
  have hs : Nat.pow 2 (n + 1) = Nat.pow 2 n * 2 := rfl
  simp only [delay, power, longest, most, base]
  by_cases h : n < 12
  · have : n < 64 := by omega
    have hp : Nat.pow 2 n ≤ Nat.pow 2 11 := Nat.pow_le_pow_right (by omega) (by omega)
    have h11 : Nat.pow 2 11 = 2048 := by decide
    simp only [this, if_true]
    omega
  · have hp : Nat.pow 2 12 ≤ Nat.pow 2 n := Nat.pow_le_pow_right (by omega) (by omega)
    have h12 : Nat.pow 2 12 = 4096 := by decide
    split <;> omega

theorem delay_pos (n : Nat) : 0 < delay n := by
  have : 0 < Nat.pow 2 (n + 1) := Nat.pow_pos (by omega)
  rw [delay_eq]
  omega

theorem delay_le (n : Nat) : delay n ≤ 3600 := by
  rw [delay_eq]
  omega

end CloudFlags.Backoff
