/-! Finite binary floating-point numbers of 64 bits, as exact values: a sign, a significand and a
power of two. The one way in is `ofRatio?`, the nearest number to a quotient of naturals with ties
to the even significand; products and quotients go through it, so each is rounded once. There is no
infinity and no NaN: a quotient past the largest number has no nearest one here. -/

namespace CloudFlags.Decimal

/-- The number `± significand * 2 ^ exponent`. -/
structure Binary64 where
  negative : Bool
  significand : Nat
  exponent : Int
  deriving DecidableEq, Repr

/-- The quotient to the nearest natural; of two equally near, the even one. -/
def roundDiv (num den : Nat) : Nat :=
  let q := num / den
  let r := num % den
  if 2 * r < den ∨ (2 * r = den ∧ q % 2 = 0) then q else q + 1

theorem roundDiv_exact {den : Nat} (h : 0 < den) (q : Nat) : roundDiv (q * den) den = q := by
  simp [roundDiv, Nat.mul_div_cancel _ h, h]

namespace Binary64

def zero (negative : Bool) : Binary64 := ⟨negative, 0, -1074⟩

/-- The least significand of 53 bits. -/
def leastFull : Nat := 0x10000000000000

/-- The exponent of the last place of a positive quotient: its significand has 53 bits, fewer only
where the exponents end. -/
def lastPlace (num den : Nat) : Int :=
  let guess : Int := num.log2 - den.log2 - 52
  let fits := if 0 ≤ guess then den * leastFull * Nat.pow 2 guess.toNat ≤ num
    else den * leastFull ≤ num * Nat.pow 2 (-guess).toNat
  max (if fits then guess else guess - 1) (-1074)

/-- The number nearest to a quotient, none if that is past the largest number. -/
def ofRatio? (negative : Bool) (num den : Nat) : Option Binary64 :=
  if num = 0 then some (zero negative) else
  let place := lastPlace num den
  let m := if 0 ≤ place then roundDiv num (den * Nat.pow 2 place.toNat)
    else roundDiv (num * Nat.pow 2 (-place).toNat) den
  let x : Binary64 :=
    if m = 2 * leastFull then ⟨negative, leastFull, place + 1⟩ else ⟨negative, m, place⟩
  if x.exponent ≤ 971 then some x else none

/-- Numerator of the magnitude. -/
def num (x : Binary64) : Nat := x.significand * Nat.pow 2 x.exponent.toNat

/-- Denominator of the magnitude. -/
def den (x : Binary64) : Nat := Nat.pow 2 (-x.exponent).toNat

def mul? (x y : Binary64) : Option Binary64 :=
  ofRatio? (x.negative != y.negative) (x.num * y.num) (x.den * y.den)

def div? (x y : Binary64) : Option Binary64 :=
  ofRatio? (x.negative != y.negative) (x.num * y.den) (x.den * y.num)

/-- The number nearest to a power of ten that has one. -/
def tenTo (k : Nat) : Binary64 := (ofRatio? false (Nat.pow 10 k) 1).getD (zero false)

/-- The greatest power of ten that a number is multiplied or divided by in one step. -/
def maxTenPower : Nat := 308

/-- Divides by a power of ten, in steps where the power is past the greatest. -/
def scaleDown (x : Binary64) (k : Nat) : Binary64 :=
  if k ≤ maxTenPower then (x.div? (tenTo k)).getD x
  else if x.significand = 0 then x
  else scaleDown ((x.div? (tenTo maxTenPower)).getD x) (k - maxTenPower)
termination_by k
decreasing_by simp [maxTenPower] at *; omega

/-- The number that a decimal significand and exponent stand for: the number nearest to the
significand, then scaled by a power of ten. None if it is too large. -/
def ofDecimal? (negative : Bool) (significand : Nat) (exponent : Int) : Option Binary64 :=
  (ofRatio? negative significand 1).bind fun x =>
    if exponent < 0 then some (scaleDown x (-exponent).toNat)
    else if exponent.toNat ≤ maxTenPower then x.mul? (tenTo exponent.toNat)
    else if x.significand = 0 then some x
    else none

end Binary64

end CloudFlags.Decimal
