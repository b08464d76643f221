import CloudFlags.Json.Parser

/-! Passing over a value in a text that nobody asked for. Only its outline is looked at: a number
may be too large, a surrogate may stand alone, and containers may nest to any depth. -/

namespace CloudFlags.Json

/-- What is left after a part that is passed over. -/
abbrev Skipping := Except (Stop Flaw) (List Char)

/-- Passes over a text after its opening quote, and stops in front of a control character. The fuel
bounds the characters. -/
def skipChars : (fuel : Nat) → List Char → Skipping
  | _, [] => refuse .unfinishedText []
  | 0, cs => refuse .unfinishedText cs
  | fuel + 1, c :: cs =>
    if c = '"' then .ok cs
    else if c = '\\' then
      match cs with
      | [] => refuse .unfinishedText []
      | e :: cs =>
        if e = 'u' then
          match readUnit cs with
          | .error stop => .error stop
          | .ok (_, rest) => skipChars fuel rest
        else if (escaped? e).isSome then skipChars fuel cs
        else refuse .badEscape (e :: cs)
    else if c.toNat < 0x20 then .error (.behind .control (c :: cs))
    else skipChars fuel cs

def skipText (cs : List Char) : Skipping := skipChars cs.length cs

/-- Passes over one or more digits. -/
def skipDigits (cs : List Char) : Skipping :=
  let rest := cs.dropWhile Char.isDigit
  if rest.length < cs.length then .ok rest else refuse .badNumber rest

/-- Passes over an exponent, if there is one. -/
def skipExponent (cs : List Char) : Skipping :=
  if startsExponent cs then
    match cs.tail with
    | '+' :: rest => skipDigits rest
    | '-' :: rest => skipDigits rest
    | rest => skipDigits rest
  else .ok cs

/-- Passes over a number after its sign. -/
def skipNumber (cs : List Char) : Skipping := do
  let rest ← skipDigits cs
  if cs.head? = some '0' ∧ rest.length + 1 < cs.length then refuse .badNumber cs.tail
  else
    match rest with
    | '.' :: rest => skipExponent (← skipDigits rest)
    | rest => skipExponent rest

mutual

/-- Passes over a value, after blanks. The fuel bounds the calls. -/
def skipValue : (fuel : Nat) → List Char → Skipping
  | 0, cs => refuse .noValue cs
  | fuel + 1, cs =>
    match skipBlank cs with
    | [] => refuse .unfinishedValue []
    | c :: cs =>
      if c = 'n' then readWord "ull".toList cs
      else if c = 't' then readWord "rue".toList cs
      else if c = 'f' then readWord "alse".toList cs
      else if c = '-' then skipNumber cs
      else if c.isDigit then skipNumber (c :: cs)
      else if c = '"' then skipText cs
      else if c = '[' then
        match skipBlank cs with
        | ']' :: rest => .ok rest
        | [] => refuse .unfinishedList []
        | cs => skipItems fuel cs
      else if c = '\x7b' then
        match skipBlank cs with
        | '\x7d' :: rest => .ok rest
        | [] => refuse .unfinishedObject []
        | cs => skipMembers fuel cs
      else refuse .noValue (c :: cs)

/-- Passes over one or more items, up to the closing bracket. -/
def skipItems : (fuel : Nat) → List Char → Skipping
  | 0, cs => refuse .noValue cs
  | fuel + 1, cs =>
    match skipValue fuel cs with
    | .error stop => .error stop
    | .ok rest =>
      match skipBlank rest with
      | [] => refuse .unfinishedList []
      | ']' :: rest => .ok rest
      | ',' :: rest => skipItems fuel rest
      | rest => refuse .noListEnd rest

/-- Passes over one or more members, up to the closing brace. -/
def skipMembers : (fuel : Nat) → List Char → Skipping
  | 0, cs => refuse .noKey cs
  | fuel + 1, cs =>
    match skipBlank cs with
    | [] => refuse .unfinishedObject []
    | '"' :: cs =>
      match skipText cs with
      | .error stop => .error stop
      | .ok rest =>
        match skipBlank rest with
        | [] => refuse .unfinishedObject []
        | ':' :: rest =>
          match skipValue fuel rest with
          | .error stop => .error stop
          | .ok rest =>
            match skipBlank rest with
            | [] => refuse .unfinishedObject []
            | '\x7d' :: rest => .ok rest
            | ',' :: rest => skipMembers fuel rest
            | rest => refuse .noObjectEnd rest
        | rest => refuse .noColon rest
    | cs => refuse .noKey cs

end

/-- What is left after one value. -/
def skipOne (cs : List Char) : Skipping := skipValue (enoughFuel cs) cs

end CloudFlags.Json
