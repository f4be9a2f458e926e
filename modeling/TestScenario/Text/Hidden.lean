import TestScenario.Unicode.Category
import TestScenario.Unicode.Property

/-!
The characters that have no picture of their own: separators, controls, formats, unassigned and private code points,
characters that are ignored when displayed, and the marks that extend the character before them.
-/

namespace TestScenario.Text
open TestScenario.Unicode

/-- The characters without a picture of their own; the space has one. -/
def hidden : ScalarSet :=
  ScalarSet.unions [((Category.set ["Mn", "Me", "Mc"]).inter Property.graphemeExtend), Property.defaultIgnorableCodePoint,
    (Category.set ["Cc", "Cf", "Cs", "Co", "Cn", "Zl", "Zp", "Zs"]).diff (.single ' ')]

/-- Whether a character has no picture of its own. -/
def isHidden (c : Char) : Bool :=
  let n := c.toNat
  if n < 128 then n < 32 || n == 127 else hidden.contains c

end TestScenario.Text
