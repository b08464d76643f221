/-! The texts that stand for bytes in base 64: padded to groups of four, with no bits set beyond the
last byte, so that each sequence of bytes has one text. A text that is none is refused for a reason,
with the byte of the text at which it shows. The groups before the last are looked at first; the
last one is where padding may stand. -/

namespace CloudFlags.Text

/-- Why a text is not base 64. Places count the bytes before. -/
inductive Base64Fault where
  /-- A byte that is no digit, or padding where there can be none. -/
  | symbol (byte : Nat) (place : Nat)
  /-- A digit with bits beyond the last byte. -/
  | lastSymbol (byte : Nat) (place : Nat)
  /-- The text ends after this many bytes with a group of one digit. -/
  | length (bytes : Nat)
  | padding
  deriving DecidableEq, Repr

def Base64Fault.message : Base64Fault → String
  | .symbol byte place => "Invalid symbol " ++ toString byte ++ ", offset " ++ toString place ++ "."
  | .lastSymbol byte place =>
    "Invalid last symbol " ++ toString byte ++ ", offset " ++ toString place ++ "."
  | .length bytes => "Invalid input length: " ++ toString bytes
  | .padding => "Invalid padding"

/-- The value of a base-64 digit. -/
def base64Value? (byte : Nat) : Option Nat :=
  if 'A'.toNat ≤ byte ∧ byte ≤ 'Z'.toNat then some (byte - 'A'.toNat)
  else if 'a'.toNat ≤ byte ∧ byte ≤ 'z'.toNat then some (byte - 'a'.toNat + 26)
  else if '0'.toNat ≤ byte ∧ byte ≤ '9'.toNat then some (byte - '0'.toNat + 52)
  else if byte = '+'.toNat then some 62
  else if byte = '/'.toNat then some 63
  else none

def isBase64Digit (byte : Nat) : Bool := (base64Value? byte).isSome

/-- The byte that fills a group up. -/
def base64Pad : Nat := '='.toNat

/-- All bytes are digits; the place is that of the first byte. -/
def checkDigits (place : Nat) : List Nat → Except Base64Fault Unit
  | [] => .ok ()
  | byte :: rest =>
    if isBase64Digit byte then checkDigits (place + 1) rest else .error (.symbol byte place)

/-- The bits of the last digit that lie beyond the last byte: two digits hold one byte, three hold
two. -/
def hasSpareBits (digits last : Nat) : Bool :=
  match base64Value? last with
  | some value => if digits = 2 then value % 16 ≠ 0 else digits = 3 ∧ value % 4 ≠ 0
  | none => false

/-- The last group: digits, then padding, four of them in all. -/
def checkLastGroup (place : Nat) (group : List Nat) : Except Base64Fault Unit := do
  let digits := group.takeWhile (· ≠ base64Pad)
  let padding := group.dropWhile (· ≠ base64Pad)
  checkDigits place digits
  if (digits.length < 2 ∧ ¬ padding.isEmpty) ∨ padding.any (· ≠ base64Pad) then
    throw (.symbol base64Pad (place + digits.length))
  if digits.length < 2 then throw (.length (place + digits.length))
  if group.length ≠ 4 then throw .padding
  match digits.getLast? with
  | some last =>
    if hasSpareBits digits.length last then
      throw (.lastSymbol last (place + digits.length - 1))
  | none => pure ()

/-- The byte that is left over after the groups, if it is one that cannot stand anywhere, is what
the text is refused for. -/
def checkLeftOver (bytes : List Nat) : Except Base64Fault Unit :=
  match bytes.getLast? with
  | some last =>
    if bytes.length % 4 = 1 ∧ last ≠ base64Pad ∧ ¬ isBase64Digit last then
      .error (.symbol last (bytes.length - 1))
    else .ok ()
  | none => .ok ()

def checkBase64Bytes (bytes : List Nat) : Except Base64Fault Unit := do
  checkLeftOver bytes
  let before := (bytes.length - 1) / 4 * 4
  checkDigits 0 (bytes.take before)
  if bytes.isEmpty then pure () else checkLastGroup before (bytes.drop before)

/-- Accepts the texts that stand for bytes. -/
def checkBase64 (s : String) : Except Base64Fault Unit :=
  checkBase64Bytes ((s.toList.flatMap String.utf8EncodeChar).map UInt8.toNat)

end CloudFlags.Text
