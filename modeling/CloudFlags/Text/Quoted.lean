import CloudFlags.Text.Unprintable

/-! Quoted text, the form in which messages show a text they do not vouch for: between double
quotes, with a backslash before quotes and backslashes, a letter for the line breaks, the tab and
NUL, and the code point in braces for a character that does not print. -/

namespace CloudFlags.Text

/-- The digits of a code point, hexadecimal and without padding. -/
def hexDigits (n : Nat) : List Char := Nat.toDigits 16 n

/-- A character as quoted text shows it. -/
def escape (c : Char) : List Char :=
  match c with
  | '"' => ['\\', '"']
  | '\\' => ['\\', '\\']
  | '\n' => ['\\', 'n']
  | '\r' => ['\\', 'r']
  | '\t' => ['\\', 't']
  | '\x00' => ['\\', '0']
  | c => if isPrintable c then [c] else ['\\', 'u', '\x7b'] ++ hexDigits c.toNat ++ ['\x7d']

/-- The text between quotes. -/
def quoteList (cs : List Char) : List Char := '"' :: cs.flatMap escape ++ ['"']

def quote (s : String) : String := String.ofList (quoteList s.toList)

end CloudFlags.Text
