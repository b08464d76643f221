import CloudFlags.Calendar.Timestamp
import CloudFlags.Text.Blank

/-! Reading a moment from text: year, month and day with hyphens, one letter, hour, minute and
second with colons, a fraction, and how far the clocks are ahead of universal time.
White space may stand before every number and every mark but the letter, and months, days and times
may have one digit. Each number is held against its range as soon as it is read; that the day is in
the calendar is looked at when the text has been read to its end. -/

namespace CloudFlags.Calendar.Timestamp

/-- Why a text is no moment. -/
inductive Fault where
  | cutShort
  | illFormed
  | outOfRange
  | trailing
  /-- The moment lies beyond the years that are kept. -/
  | impossible
  deriving DecidableEq, Repr

def Fault.message : Fault → String
  | .cutShort => "premature end of input"
  | .illFormed => "input contains invalid characters"
  | .outOfRange => "input is out of range"
  | .trailing => "trailing input"
  | .impossible => "no possible date and time matching input"

/-- A reader that takes characters off the front. -/
abbrev Scan (α : Type) := StateT (List Char) (Except Fault) α

def scanBlank : Scan Unit := modify (·.dropWhile Text.isBlank)

/-- The given mark. -/
def scanMark (mark : Char) : Scan Unit := do
  match ← get with
  | [] => throw .cutShort
  | c :: rest => if c = mark then set rest else throw .illFormed

/-! ### Numbers -/

/-- The first number that a signed word of 64 bits does not hold. -/
def numberBound : Nat := 0x8000000000000000

/-- One or more digits, of which so many belong to the number. -/
def scanNumber (width : Nat) : Scan Nat := do
  let cs ← get
  let ds := (cs.take width).takeWhile Char.isDigit
  if cs.isEmpty then throw .cutShort
  if ds.isEmpty then throw .illFormed
  if numberBound ≤ Text.digitsValue ds then throw .outOfRange
  set (cs.drop ds.length)
  return Text.digitsValue ds

/-- A number of one or two digits within bounds. -/
def scanField (low high : Nat) : Scan Nat := do
  scanBlank
  let n ← scanNumber 2
  if low ≤ n ∧ n ≤ high then return n else throw .outOfRange

/-- The first year that a signed word of 32 bits does not hold. -/
def yearBound : Nat := 0x80000000

/-- Four digits at most, or a sign and any number of digits. -/
def scanYear : Scan Int := do
  scanBlank
  let cs ← get
  let year : Int ← match cs with
    | '-' :: rest => do set rest; pure (-(← scanNumber rest.length : Nat))
    | '+' :: rest => do set rest; pure (← scanNumber rest.length : Nat)
    | _ => do pure (← scanNumber 4 : Nat)
  if -(yearBound : Int) ≤ year ∧ year < yearBound then return year else throw .outOfRange

/-- The nanoseconds of a fraction, if there is one; its digits after the ninth do not count. -/
def scanFraction : Scan Nat := do
  match ← get with
  | '.' :: rest =>
    set rest
    let digits := ((rest.take 9).takeWhile Char.isDigit).length
    let n ← scanNumber 9
    modify (·.dropWhile Char.isDigit)
    return n * Nat.pow 10 (9 - digits)
  | _ => return 0

/-- Exactly two digits. -/
def scanPair : Scan (Char × Char) := do
  match ← get with
  | [] => throw .cutShort
  | [c] => throw (if c.utf8Size < 2 then .cutShort else .illFormed)
  | a :: b :: rest =>
    if a.isDigit ∧ b.isDigit then
      set rest
      return (a, b)
    else throw .illFormed

/-! ### Date, time, and how far the clocks are ahead -/

def scanDate : Scan (Int × Nat × Nat) := do
  let year ← scanYear
  scanBlank
  scanMark '-'
  let month ← scanField 1 12
  scanBlank
  scanMark '-'
  return (year, month, ← scanField 1 31)

/-- The letter between date and time. -/
def scanSeparator : Scan Unit := do
  match ← get with
  | [] => throw .cutShort
  | c :: rest => if c = 'T' ∨ c = 't' ∨ c = ' ' then set rest else throw .illFormed

def scanTime : Scan (Nat × Nat × Nat × Nat) := do
  let hour ← scanField 0 23
  scanBlank
  scanMark ':'
  let minute ← scanField 0 59
  scanBlank
  scanMark ':'
  let second ← scanField 0 60
  return (hour, minute, second, ← scanFraction)

/-- Hours and minutes after the sign, with any number of colons and blanks between. -/
def scanSpan : Scan Nat := do
  let (a, b) ← scanPair
  modify (·.dropWhile fun c => c = ':' || Text.isBlank c)
  let (c, d) ← scanPair
  if '5' < c then throw .outOfRange
  return Text.digitsValue [a, b] * 60 + Text.digitsValue [c, d]

/-- How many minutes the clocks are ahead of universal time. -/
def scanAhead : Scan Int := do
  scanBlank
  match ← get with
  | [] => throw .cutShort
  | c :: rest =>
    if ((c :: rest).take 3).map Char.toUpper = ['U', 'T', 'C'] then
      set (rest.drop 2)
      return 0
    else
      set rest
      if c = 'Z' ∨ c = 'z' then return 0
      else if c = '+' then return (← scanSpan : Nat)
      else if c = '-' ∨ c = '\u2212' then return -(← scanSpan : Nat)
      else throw .illFormed

/-! ### Moments -/

/-- The years that are kept. -/
def isKept (year : Int) : Bool := -262143 ≤ year && year ≤ 262142

/-- The moment of numbers that are each in range. -/
def ofNumbers (year : Int) (month day hour minute second nano : Nat) (ahead : Int) :
    Except Fault Timestamp :=
  if hd : IsDate year month day then
    if ht : IsTime hour minute second nano then
      if isKept year ∧ ahead.natAbs < minutesADay then
        let t := ofLocal ⟨year, month, day, hd⟩ hour minute second nano ahead ht
        if isKept t.date.year then .ok t else .error .impossible
      else .error .outOfRange
    else .error .outOfRange
  else .error .outOfRange

def parseList (cs : List Char) : Except Fault Timestamp := do
  let (((year, month, day), (hour, minute, second, nano), ahead), rest) ←
    (do
      let date ← scanDate
      scanSeparator
      let time ← scanTime
      return (date, time, ← scanAhead) : Scan _).run cs
  if ¬ (rest.dropWhile Text.isBlank).isEmpty then throw .trailing
  ofNumbers year month day hour minute second nano ahead

def parse (s : String) : Except Fault Timestamp := parseList s.toList

end CloudFlags.Calendar.Timestamp
