import CloudFlags.Calendar.Date
import CloudFlags.Text.Digits

/-! Moments in universal time, kept to the nanosecond and written to the second. The last minute of a
day may have a second more, and any other minute is given one where the text says so. -/

namespace CloudFlags.Calendar

/-- The time is one of a day. -/
abbrev IsTime (hour minute second nano : Nat) : Prop :=
  hour < 24 ∧ minute < 60 ∧ second ≤ 60 ∧ nano < 1000000000

structure Timestamp where
  date : Date
  hour : Nat
  minute : Nat
  second : Nat
  /-- What has passed of the second. -/
  nano : Nat
  valid : IsTime hour minute second nano
  deriving DecidableEq

namespace Timestamp

def minutesADay : Nat := 24 * 60

/-- The moment at which clocks that are ahead by less than a day show the date and time. -/
def ofLocal (date : Date) (hour minute second nano : Nat) (ahead : Int)
    (valid : IsTime hour minute second nano) : Timestamp :=
  let minutes : Int := (hour * 60 + minute : Nat) - ahead
  let date :=
    if minutes < 0 then date.previous else if minutes < minutesADay then date else date.next
  let ofDay := (minutes % minutesADay).toNat
  have h : ofDay < 1440 := by simp only [ofDay, minutesADay]; omega
  ⟨date, ofDay / 60, ofDay % 60, second, nano, by omega, by omega, valid.2.2⟩

/-- Clocks that are not ahead show universal time. -/
theorem ofLocal_zero (t : Timestamp) :
    ofLocal t.date t.hour t.minute t.second t.nano 0 t.valid = t := by
  obtain ⟨date, hour, minute, second, nano, h, h', h''⟩ := t
  have : (hour * 60 + minute) / 60 = hour := by omega
  have hday :
      ((hour * 60 + minute : Nat) - 0 : Int) % minutesADay = (hour * 60 + minute : Nat) := by
    simp only [minutesADay]; omega
  have hlt : ((hour * 60 + minute : Nat) - 0 : Int) < minutesADay := by
    simp only [minutesADay]; omega
  have hge : ¬ ((hour * 60 + minute : Nat) - 0 : Int) < 0 := by omega
  simp only [ofLocal, hday, Int.toNat_natCast, hge, hlt, if_true, if_false]
  congr 1
  omega

/-- Years of four digits stand for themselves, others have a sign and four digits or more. -/
def yearText (year : Int) : List Char :=
  if 0 ≤ year ∧ year ≤ 9999 then Text.paddedDigits 4 year.toNat
  else (if year < 0 then '-' else '+') :: Text.paddedDigits 4 year.natAbs

/-- A fraction of a second is not written. -/
def textList (t : Timestamp) : List Char :=
  yearText t.date.year ++ '-' :: Text.paddedDigits 2 t.date.month ++
    '-' :: Text.paddedDigits 2 t.date.day ++ 'T' :: Text.paddedDigits 2 t.hour ++
    ':' :: Text.paddedDigits 2 t.minute ++ ':' :: Text.paddedDigits 2 t.second ++ ['Z']

def text (t : Timestamp) : String := String.ofList t.textList

end Timestamp

end CloudFlags.Calendar
