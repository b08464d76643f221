import CloudFlags.Json.Basic
import CloudFlags.Decimal.Shortest

/-! The text of a JSON tree: compact, members in the order of the tree, one spelling for each value.
Quotes, backslashes and the control characters below the space are escaped in texts, everything else
stands for itself. -/

namespace CloudFlags.Json

/-- Doubles are written positionally from 0.00001 on and below 10 ^ 16. -/
def doubleLayout : Decimal.Layout where
  positionalBelow := 16
  positionalFrom := -5
  plus := ['+']

/-- A character inside a quoted text. -/
def escape (c : Char) : List Char :=
  match c with
  | '"' => ['\\', '"']
  | '\\' => ['\\', '\\']
  | '\x08' => ['\\', 'b']
  | '\x0c' => ['\\', 'f']
  | '\n' => ['\\', 'n']
  | '\r' => ['\\', 'r']
  | '\t' => ['\\', 't']
  | c =>
    if c.toNat < 0x20 then
      ['\\', 'u', '0', '0', Nat.digitChar (c.toNat / 16), Nat.digitChar (c.toNat % 16)]
    else [c]

def renderText (s : String) : List Char := '"' :: s.toList.flatMap escape ++ ['"']

def renderInt (n : Int) : List Char :=
  if n < 0 then '-' :: Nat.toDigits 10 n.natAbs else Nat.toDigits 10 n.natAbs

def renderNumber : Number → List Char
  | .int n => renderInt n
  | .real x => x.text doubleLayout

mutual

/-- The characters of a tree's text. -/
def render : Json → List Char
  | .null => "null".toList
  | .bool true => "true".toList
  | .bool false => "false".toList
  | .num n => renderNumber n
  | .str s => renderText s
  | .arr [] => ['[', ']']
  | .arr (item :: rest) => '[' :: render item ++ renderItems rest
  | .obj [] => ['\x7b', '\x7d']
  | .obj ((key, value) :: rest) =>
    '\x7b' :: renderText key ++ ':' :: render value ++ renderMembers rest

/-- The items after the first, up to the closing bracket. -/
def renderItems : List Json → List Char
  | [] => [']']
  | item :: rest => ',' :: render item ++ renderItems rest

/-- The members after the first, up to the closing brace. -/
def renderMembers : List (String × Json) → List Char
  | [] => ['\x7d']
  | (key, value) :: rest =>
    ',' :: renderText key ++ ':' :: render value ++ renderMembers rest

end

def text (tree : Json) : String := String.ofList (render tree)

end CloudFlags.Json
