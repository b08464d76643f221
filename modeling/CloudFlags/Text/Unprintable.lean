import CloudFlags.Text.Blank
import CloudFlags.Text.Unprintable.Extending
import CloudFlags.Text.Unprintable.Glyphless

/-! The characters that quoted text shows by their code point: those without a glyph of their own,
and those that extend the character before them. -/

namespace CloudFlags.Text

/-- ASCII prints between the space and the tilde; the tables serve what comes after. -/
def isPrintable (c : Char) : Bool :=
  if c.toNat < 0x7F then 0x20 ≤ c.toNat
  else
    [glyphlessLow, glyphlessHigh, extendingLow, extendingHigh].all fun ranges =>
      !inRanges ranges c

/-- The printable ASCII characters are printable. -/
theorem isPrintable_of_ascii {n : Nat} (h : 0x20 ≤ n) (h' : n ≤ 0x7E) :
    isPrintable (Char.ofNat n) := by
  have : ∀ n : Fin 0x7F, 0x20 ≤ n.val → isPrintable (Char.ofNat n.val) := by decide +kernel
  exact this ⟨n, by omega⟩ h

end CloudFlags.Text
