import CloudFlags.Json.Basic
import CloudFlags.Json.Place
import CloudFlags.Text.Digits

/-! Reading JSON text. A text is refused either as cut short, when it ends where more is needed, or
as ill formed, mostly at the first character that cannot stand where it does. Containers may nest to
a given depth, and a number too large for a double is ill formed. The tree read keeps the members of
an object as they stand in the text; `parse` puts them in order. -/

namespace CloudFlags.Json

/-- Why a text is not JSON. -/
inductive Flaw where
  | unfinishedValue
  | unfinishedText
  | unfinishedList
  | unfinishedObject
  | noValue
  | noWord
  | noColon
  | noListEnd
  | noObjectEnd
  | noKey
  | trailingComma
  | trailingText
  | badNumber
  | tooLarge
  | badEscape
  | control
  /-- A second half of a pair without the first, or the first with something else after it. -/
  | loneHalf
  | noSecondHalf
  | tooDeep
  deriving DecidableEq, Repr

namespace Flaw

/-- The text ends where more is needed. -/
def isCutShort : Flaw → Bool
  | .unfinishedValue | .unfinishedText | .unfinishedList | .unfinishedObject => true
  | _ => false

def message : Flaw → String
  | .unfinishedValue => "EOF while parsing a value"
  | .unfinishedText => "EOF while parsing a string"
  | .unfinishedList => "EOF while parsing a list"
  | .unfinishedObject => "EOF while parsing an object"
  | .noValue => "expected value"
  | .noWord => "expected ident"
  | .noColon => "expected `:`"
  | .noListEnd => "expected `,` or `]`"
  | .noObjectEnd => "expected `,` or `\x7d`"
  | .noKey => "key must be a string"
  | .trailingComma => "trailing comma"
  | .trailingText => "trailing characters"
  | .badNumber => "invalid number"
  | .tooLarge => "number out of range"
  | .badEscape => "invalid escape"
  | .control => "control character (\\u0000-\\u001F) found while parsing a string"
  | .loneHalf => "lone leading surrogate in hex escape"
  | .noSecondHalf => "unexpected end of hex escape"
  | .tooDeep => "recursion limit exceeded"

end Flaw

/-- What was read, and the characters after it. -/
abbrev Reading (α : Type) := Except (Stop Flaw) (α × List Char)

/-- Refuses the next character, or the end of the text. -/
def refuse {α : Type} (flaw : Flaw) (cs : List Char) : Except (Stop Flaw) α :=
  .error (.here flaw cs)

def isBlank (c : Char) : Bool := c == ' ' || c == '\n' || c == '\t' || c == '\r'

def skipBlank (cs : List Char) : List Char := cs.dropWhile isBlank

/-- Reads the given letters. -/
def readWord : (word cs : List Char) → Except (Stop Flaw) (List Char)
  | [], cs => .ok cs
  | _ :: _, [] => refuse .unfinishedValue []
  | w :: word, c :: cs => if c = w then readWord word cs else refuse .noWord (c :: cs)

/-! ### Texts -/

def hexValue? (c : Char) : Option Nat :=
  if c.isDigit then some (c.toNat - '0'.toNat)
  else if 'a' ≤ c ∧ c ≤ 'f' then some (c.toNat - 'a'.toNat + 10)
  else if 'A' ≤ c ∧ c ≤ 'F' then some (c.toNat - 'A'.toNat + 10)
  else none

/-- The 16-bit unit of four hexadecimal digits. -/
def unit? (a b c d : Char) : Option Nat := do
  return (((← hexValue? a) * 16 + (← hexValue? b)) * 16 + (← hexValue? c)) * 16 + (← hexValue? d)

def isHighSurrogate (n : Nat) : Bool := 0xD800 ≤ n && n ≤ 0xDBFF

def isLowSurrogate (n : Nat) : Bool := 0xDC00 ≤ n && n ≤ 0xDFFF

/-- The character of a surrogate pair. -/
def pairChar (high low : Nat) : Char :=
  Char.ofNat (0x10000 + (high - 0xD800) * 0x400 + (low - 0xDC00))

/-- The letter after a backslash, but for `u`. -/
def escaped? : Char → Option Char
  | '"' => some '"'
  | '\\' => some '\\'
  | '/' => some '/'
  | 'b' => some '\x08'
  | 'f' => some '\x0c'
  | 'n' => some '\n'
  | 'r' => some '\r'
  | 't' => some '\t'
  | _ => none

/-- The unit of the digits after `\u`, which take up four bytes. -/
def readUnit (cs : List Char) : Reading Nat :=
  if byteCount cs < 4 then refuse .unfinishedText []
  else
    match cs with
    | a :: b :: c :: d :: rest =>
      match unit? a b c d with
      | some n => .ok (n, rest)
      | none => .error ⟨.badEscape, cs, 4⟩
    | _ => .error ⟨.badEscape, cs, 4⟩

/-- Puts a character in front of what was read. -/
def Reading.cons (c : Char) (r : Reading (List Char)) : Reading (List Char) :=
  r.map fun (cs, rest) => (c :: cs, rest)

/-- The second half of a surrogate pair, which stands at once after the first. -/
def readSecondHalf : List Char → Reading Nat
  | [] => refuse .unfinishedText []
  | c :: cs =>
    if c ≠ '\\' then refuse .noSecondHalf (c :: cs) else
    match cs with
    | [] => refuse .unfinishedText []
    | u :: cs =>
      if u ≠ 'u' then refuse .noSecondHalf (u :: cs) else
      match readUnit cs with
      | .error stop => .error stop
      | .ok (n, rest) => if isLowSurrogate n then .ok (n, rest) else .error (.behind .loneHalf rest)

/-- The character of an escape after its backslash. -/
def readEscape : List Char → Reading Char
  | [] => refuse .unfinishedText []
  | e :: cs =>
    if e = 'u' then
      match readUnit cs with
      | .error stop => .error stop
      | .ok (n, rest) =>
        if isLowSurrogate n then .error (.behind .loneHalf rest)
        else if isHighSurrogate n then
          (readSecondHalf rest).map fun (low, rest) => (pairChar n low, rest)
        else .ok (Char.ofNat n, rest)
    else
      match escaped? e with
      | some letter => .ok (letter, cs)
      | none => refuse .badEscape (e :: cs)

/-- The rest of a text after its opening quote. The fuel bounds the characters. -/
def readChars : (fuel : Nat) → List Char → Reading (List Char)
  | _, [] => refuse .unfinishedText []
  | 0, cs => refuse .unfinishedText cs
  | fuel + 1, c :: cs =>
    if c = '"' then .ok ([], cs)
    else if c = '\\' then
      match readEscape cs with
      | .error stop => .error stop
      | .ok (letter, rest) => (readChars fuel rest).cons letter
    else if c.toNat < 0x20 then refuse .control (c :: cs)
    else (readChars fuel cs).cons c

def readText (cs : List Char) : Reading String :=
  (readChars cs.length cs).map fun (s, rest) => (String.ofList s, rest)

/-! ### Numbers -/

/-- The first natural that 64 bits do not hold. -/
def past64 : Nat := 0x10000000000000000

/-- The magnitude of the lowest integer of 64 bits. -/
def lowest64 : Nat := 0x8000000000000000

/-- Appends a digit while the significand fits in 64 bits. -/
def appendDigit? (significand : Nat) (digit : Char) : Option Nat :=
  let next := significand * 10 + Text.digitValue digit
  if next < past64 then some next else none

/-- The significand of the leading digits that fit, and the number of digits after them. -/
def takeDigits (significand : Nat) : List Char → Nat × Nat
  | [] => (significand, 0)
  | d :: ds =>
    match appendDigit? significand d with
    | some next => takeDigits next ds
    | none => (significand, ds.length + 1)

/-- The double of a decimal, ill formed if it is too large. -/
def toReal (negative : Bool) (significand : Nat) (exponent : Int) (rest : List Char) :
    Reading Number :=
  match Decimal.Binary64.ofDecimal? negative significand exponent with
  | some x => .ok (.real x, rest)
  | none => .error (.behind .tooLarge rest)

/-- What stands where a digit is needed is no number, or the end of the text. -/
def noDigit (cs : List Char) : Reading Number :=
  refuse (if cs.isEmpty then .unfinishedValue else .badNumber) cs

/-- The largest exponent, which is also the largest number of 32 bits with a sign. -/
def mostExponent : Nat := 0x7FFFFFFF

/-- The digits after the one that takes an exponent past the largest, if one does. -/
def passesMost? (exponent : Nat) : List Char → Option (List Char)
  | [] => none
  | d :: ds =>
    let next := exponent * 10 + Text.digitValue d
    if mostExponent < next then some ds else passesMost? next ds

/-- The exponent after its letter. If it lies past the largest, then a double that is not zero is
known to be too large before the last digit. -/
def readExponent (negative : Bool) (significand : Nat) (exponent : Int) (cs : List Char) :
    Reading Number :=
  let (minus, cs) : Bool × List Char := match cs with
    | '+' :: cs => (false, cs)
    | '-' :: cs => (true, cs)
    | cs => (false, cs)
  let ds := cs.takeWhile Char.isDigit
  let rest := cs.dropWhile Char.isDigit
  if ds.isEmpty then noDigit rest else
  let shift : Int := Text.digitsValue ds
  match if minus ∨ significand = 0 then none else passesMost? 0 ds with
  | some later => .error (.behind .tooLarge (later ++ rest))
  | none => toReal negative significand (if minus then exponent - shift else exponent + shift) rest

def startsExponent : List Char → Bool
  | 'e' :: _ => true
  | 'E' :: _ => true
  | _ => false

/-- The digits after the point. -/
def readFraction (negative : Bool) (significand : Nat) (exponent : Int) (cs : List Char) :
    Reading Number :=
  let ds := cs.takeWhile Char.isDigit
  let rest := cs.dropWhile Char.isDigit
  if ds.isEmpty then noDigit rest else
  let (significand, dropped) := takeDigits significand ds
  let exponent := exponent - (ds.length - dropped : Nat)
  if startsExponent rest then readExponent negative significand exponent rest.tail
  else toReal negative significand exponent rest

/-- A number without point or exponent: an integer where 64 bits hold it. Zero with a sign is a
double. -/
def wholeNumber (negative : Bool) (significand dropped : Nat) (rest : List Char) :
    Reading Number :=
  if dropped = 0 ∧ negative = false then .ok (.int significand, rest)
  else if dropped = 0 ∧ 0 < significand ∧ significand ≤ lowest64 then
    .ok (.int (-significand), rest)
  else toReal negative significand dropped rest

/-- A number after its sign. -/
def readNumber (negative : Bool) (cs : List Char) : Reading Number :=
  let ds := cs.takeWhile Char.isDigit
  let rest := cs.dropWhile Char.isDigit
  if ds.isEmpty then noDigit rest
  else if ds.head? = some '0' ∧ 1 < ds.length then refuse .badNumber cs.tail else
  let (significand, dropped) := takeDigits 0 ds
  match rest with
  | '.' :: rest => readFraction negative significand dropped rest
  | rest =>
    if startsExponent rest then readExponent negative significand dropped rest.tail
    else wholeNumber negative significand dropped rest

/-! ### Trees -/

mutual

/-- A tree, after blanks. The fuel bounds the calls, the depth the containers still allowed. -/
def readValue : (fuel depth : Nat) → List Char → Reading Json
  | 0, _, cs => refuse .noValue cs
  | fuel + 1, depth, cs =>
    match skipBlank cs with
    | [] => refuse .unfinishedValue []
    | c :: cs =>
      if c = 'n' then (readWord "ull".toList cs).map (Json.null, ·)
      else if c = 't' then (readWord "rue".toList cs).map (Json.bool true, ·)
      else if c = 'f' then (readWord "alse".toList cs).map (Json.bool false, ·)
      else if c = '-' then (readNumber true cs).map fun (n, rest) => (.num n, rest)
      else if c.isDigit then (readNumber false (c :: cs)).map fun (n, rest) => (.num n, rest)
      else if c = '"' then (readText cs).map fun (s, rest) => (.str s, rest)
      else if c = '[' then
        match depth with
        | 0 => refuse .tooDeep (c :: cs)
        | depth + 1 =>
          match skipBlank cs with
          | ']' :: rest => .ok (.arr [], rest)
          | [] => refuse .unfinishedList []
          | cs => (readItems fuel depth cs).map fun (items, rest) => (.arr items, rest)
      else if c = '\x7b' then
        match depth with
        | 0 => refuse .tooDeep (c :: cs)
        | depth + 1 =>
          match skipBlank cs with
          | '\x7d' :: rest => .ok (.obj [], rest)
          | [] => refuse .unfinishedObject []
          | cs => (readMembers fuel depth cs).map fun (members, rest) => (.obj members, rest)
      else refuse .noValue (c :: cs)

/-- One or more items, up to the closing bracket. -/
def readItems : (fuel depth : Nat) → List Char → Reading (List Json)
  | 0, _, cs => refuse .noValue cs
  | fuel + 1, depth, cs =>
    match readValue fuel depth cs with
    | .error stop => .error stop
    | .ok (item, rest) =>
      match skipBlank rest with
      | [] => refuse .unfinishedList []
      | ']' :: rest => .ok ([item], rest)
      | ',' :: rest =>
        match skipBlank rest with
        | [] => refuse .unfinishedValue []
        | ']' :: rest => refuse .trailingComma (']' :: rest)
        | rest => (readItems fuel depth rest).map fun (items, rest) => (item :: items, rest)
      | rest => refuse .noListEnd rest

/-- One or more members, up to the closing brace. -/
def readMembers : (fuel depth : Nat) → List Char → Reading (List (String × Json))
  | 0, _, cs => refuse .noKey cs
  | fuel + 1, depth, cs =>
    match cs with
    | '"' :: cs =>
      match readText cs with
      | .error stop => .error stop
      | .ok (key, rest) =>
        match skipBlank rest with
        | [] => refuse .unfinishedObject []
        | ':' :: rest =>
          match readValue fuel depth rest with
          | .error stop => .error stop
          | .ok (value, rest) =>
            match skipBlank rest with
            | [] => refuse .unfinishedObject []
            | '\x7d' :: rest => .ok ([(key, value)], rest)
            | ',' :: rest =>
              match skipBlank rest with
              | [] => refuse .unfinishedValue []
              | '\x7d' :: rest => refuse .trailingComma ('\x7d' :: rest)
              | rest =>
                (readMembers fuel depth rest).map fun (members, rest) =>
                  ((key, value) :: members, rest)
            | rest => refuse .noObjectEnd rest
        | rest => refuse .noColon rest
    | cs => refuse .noKey cs

end

/-- Fuel that no text of this length uses up: each call but the first follows a character read. -/
def enoughFuel (cs : List Char) : Nat := 2 * cs.length + 1

/-- Nothing but blanks is left. -/
def readEnd (cs : List Char) : Except (Stop Flaw) Unit :=
  if (skipBlank cs).isEmpty then .ok () else refuse .trailingText (skipBlank cs)

/-- The tree of a whole text, its members as written. -/
def parseAsWritten (depth : Nat) (cs : List Char) : Except (Stop Flaw) Json :=
  match readValue (enoughFuel cs) depth cs with
  | .error stop => .error stop
  | .ok (tree, rest) => (readEnd rest).map fun _ => tree

/-- The containers that a text may nest. -/
def maxDepth : Nat := 127

/-- Why a text is not JSON, and where that shows. -/
structure Fault where
  flaw : Flaw
  place : Place
  deriving DecidableEq, Repr

def Fault.message (fault : Fault) : String := fault.flaw.message ++ " at " ++ fault.place.text

def Fault.ofStop (text : List Char) (stop : Stop Flaw) : Fault := ⟨stop.cause, stop.place text⟩

/-- The tree of a text, its members in order; of two with one key the later one stays. -/
def parseWithin (depth : Nat) (text : String) : Except Fault Json :=
  match parseAsWritten depth text.toList with
  | .ok tree => .ok tree.canonical
  | .error stop => .error (.ofStop text.toList stop)

def parse (text : String) : Except Fault Json := parseWithin maxDepth text

end CloudFlags.Json
