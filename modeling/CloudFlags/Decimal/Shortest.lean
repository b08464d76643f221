import CloudFlags.Decimal.Binary64

/-! The decimal text of a binary floating-point number: the fewest significant digits that read back
as the number, and of those the nearest to it. The search runs over the decimal grids of one, two
and more digits in exact arithmetic; if a point of a grid lies in the interval of reals that round
to the number, so does one of the number's two neighbours on that grid. Where the digits stand
against the point is left to a `Layout`. -/

namespace CloudFlags.Decimal

/-- The decimal `digits * 10 ^ scale`. -/
structure Scaled where
  digits : Nat
  scale : Int
  deriving DecidableEq, Repr

/-- Numerator of the value. -/
def Scaled.num (d : Scaled) : Nat := d.digits * Nat.pow 10 d.scale.toNat

/-- Denominator of the value. -/
def Scaled.den (d : Scaled) : Nat := Nat.pow 10 (-d.scale).toNat

/-- The reals that round to a positive number, between two quotients of one denominator. The ends
belong to it iff the significand is even. -/
structure Interval where
  low : Nat
  high : Nat
  den : Nat
  closed : Bool

/-- The interval below is half as wide where the exponents change. -/
def Binary64.interval (x : Binary64) : Interval :=
  let unit := Nat.pow 2 x.exponent.toNat
  let below := if x.significand = leastFull ∧ -1074 < x.exponent then 1 else 2
  { low := (4 * x.significand - below) * unit
    high := (4 * x.significand + 2) * unit
    den := 4 * x.den
    closed := x.significand % 2 = 0 }

def Interval.contains (i : Interval) (d : Scaled) : Bool :=
  let low := i.low * d.den
  let high := i.high * d.den
  let point := d.num * i.den
  if i.closed then low ≤ point && point ≤ high else low < point && point < high

/-- How many decimal digits a natural has. -/
def digitCount (n : Nat) : Nat := (Nat.toDigits 10 n).length

/-- The exponent `p` with `10 ^ (p - 1) ≤ num / den < 10 ^ p`, for a positive quotient. -/
def magnitude (num den : Nat) : Int :=
  if den ≤ num then digitCount (num / den) else 1 - digitCount ((den + num - 1) / num - 1)

/-- The neighbours of a quotient on a decimal grid, the nearer first; at equal distance the even
one comes first. -/
def neighbours (num den : Nat) (scale : Int) : List Scaled :=
  let grid : Scaled := ⟨1, scale⟩
  let n := num * grid.den
  let d := den * grid.num
  let below := n / d
  if roundDiv n d = below then [⟨below, scale⟩, ⟨below + 1, scale⟩]
  else [⟨below + 1, scale⟩, ⟨below, scale⟩]

/-- The first neighbour in the interval, over the grids of `count` and more digits. -/
def searchFrom (x : Binary64) (top : Int) : (fuel count : Nat) → Scaled
  | 0, count => ⟨roundDiv (x.num * Nat.pow 10 count) x.den, -count⟩
  | fuel + 1, count =>
    match (neighbours x.num x.den (top - count)).find? x.interval.contains with
    | some d => d
    | none => searchFrom x top fuel (count + 1)

/-- Moves zeros at the end of the digits into the scale. -/
def Scaled.trim (d : Scaled) : Scaled :=
  if h : d.digits ≠ 0 ∧ d.digits % 10 = 0 then
    Scaled.trim ⟨d.digits / 10, d.scale + 1⟩
  else d
termination_by d.digits
decreasing_by omega

/-- The shortest decimal of a positive number; seventeen digits always suffice. -/
def Binary64.shortest (x : Binary64) : Scaled :=
  (searchFrom x (magnitude x.num x.den) 17 1).trim

/-- Where the digits of a number stand. -/
structure Layout where
  /-- Positional up to this exponent of ten, scientific from it on. -/
  positionalBelow : Int
  /-- Positional from this exponent of ten on, scientific below it. -/
  positionalFrom : Int
  /-- The mark before a scientific exponent that is not negative. -/
  plus : List Char

/-- The digits `d` with the point after `point` of them, and a zero on either side that has none. -/
def positional (d : List Char) (point : Int) : List Char :=
  if point ≤ 0 then ['0', '.'] ++ List.replicate (-point).toNat '0' ++ d
  else
    let whole := d.take point.toNat ++ List.replicate (point.toNat - d.length) '0'
    let part := d.drop point.toNat
    whole ++ '.' :: (if part.isEmpty then ['0'] else part)

/-- One digit, a point if more follow, and the exponent. -/
def scientific (layout : Layout) (d : List Char) (exponent : Int) : List Char :=
  let mantissa := match d with
    | [] => []
    | c :: [] => [c]
    | c :: rest => c :: '.' :: rest
  let mark := if exponent < 0 then ['-'] else layout.plus
  mantissa ++ 'e' :: mark ++ Nat.toDigits 10 exponent.natAbs

/-- The shortest text of a number. -/
def Binary64.text (layout : Layout) (x : Binary64) : List Char :=
  let sign := if x.negative then ['-'] else []
  if x.significand = 0 then sign ++ ['0', '.', '0'] else
  let shortest := x.shortest
  let d := Nat.toDigits 10 shortest.digits
  let point : Int := d.length + shortest.scale
  let exponent := point - 1
  sign ++ if layout.positionalFrom ≤ exponent ∧ exponent < layout.positionalBelow then
    positional d point else scientific layout d exponent

end CloudFlags.Decimal
