/-! Places in a text, by line and by the bytes of the line that come before, and where reading a
text stops. A character that cannot stand where it does is counted with its first byte. -/

namespace CloudFlags.Json

structure Place where
  line : Nat
  /-- Bytes of the line up to the place. -/
  column : Nat
  deriving DecidableEq, Repr

namespace Place

def start : Place := ⟨1, 0⟩

/-- The place so many bytes of a text further on, or its end. -/
def forward (place : Place) : (bytes : Nat) → List Char → Place
  | 0, _ => place
  | _, [] => place
  | bytes + 1, c :: cs =>
    if c = '\n' then forward ⟨place.line + 1, 0⟩ bytes cs
    else forward ⟨place.line, place.column + min (bytes + 1) c.utf8Size⟩ (bytes + 1 - c.utf8Size) cs

def text (place : Place) : String :=
  "line " ++ toString place.line ++ " column " ++ toString place.column

end Place

def byteCount (cs : List Char) : Nat := cs.foldl (fun n c => n + c.utf8Size) 0

/-- Why reading stops, what is left of the text, and how many bytes of that have been looked at. -/
structure Stop (κ : Type) where
  cause : κ
  left : List Char
  ahead : Nat
  deriving DecidableEq, Repr

namespace Stop

variable {κ ν : Type}

/-- Stops at the next character, or at the end of the text. -/
def here (cause : κ) (left : List Char) : Stop κ := ⟨cause, left, 1⟩

/-- Stops after what has been read. -/
def behind (cause : κ) (left : List Char) : Stop κ := ⟨cause, left, 0⟩

def map (f : κ → ν) (stop : Stop κ) : Stop ν := ⟨f stop.cause, stop.left, stop.ahead⟩

/-- Where in a text reading stopped. -/
def place (text : List Char) (stop : Stop κ) : Place :=
  Place.start.forward (byteCount text - byteCount stop.left + stop.ahead) text

end Stop

end CloudFlags.Json
