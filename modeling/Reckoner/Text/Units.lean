/-!
# Sixteen-bit units

* `units16`: the sixteen-bit units of a character.
-/

namespace Reckoner.Text

/-- The sixteen-bit units of a character: the character itself, or a pair of surrogates
    above U+FFFF. -/
def units16 (c : Char) : List Nat :=
  if c.toNat < 0x10000 then [c.toNat]
  else
    let above := c.toNat - 0x10000
    [0xD800 + above / 0x400, 0xDC00 + above % 0x400]

end Reckoner.Text
