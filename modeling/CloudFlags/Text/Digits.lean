/-! Decimal digits: the number that a list of them stands for, and the digits of a number, filled up
with zeros to a width. -/

namespace CloudFlags.Text

def digitValue (c : Char) : Nat := c.toNat - '0'.toNat

/-- The number that decimal digits stand for. -/
def digitsValue (ds : List Char) : Nat := ds.foldl (fun n d => n * 10 + digitValue d) 0

/-- The decimal digits of a number, at least as many as the width. -/
def paddedDigits (width n : Nat) : List Char :=
  let ds := Nat.toDigits 10 n
  List.replicate (width - ds.length) '0' ++ ds

theorem digitsValue_append (ds es : List Char) :
    digitsValue (ds ++ es) = es.foldl (fun n d => n * 10 + digitValue d) (digitsValue ds) :=
  List.foldl_append

/-- Leading zeros do not count. -/
theorem digitsValue_zeros (k : Nat) (ds : List Char) :
    digitsValue (List.replicate k '0' ++ ds) = digitsValue ds := by
  have h : digitsValue (List.replicate k '0') = 0 := by
    induction k with
    | zero => rfl
    | succ k ih => simpa [List.replicate_succ, digitsValue, digitValue] using ih
  rw [digitsValue_append, h]
  rfl

end CloudFlags.Text
