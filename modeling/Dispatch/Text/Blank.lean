import Dispatch.Text.Basic
import Dispatch.Text.Ranges

/-! Blank code points: the white space and separator characters of Unicode that are dropped from
the ends of a text, the four ASCII separators 1C to 1F among them.
-/

namespace Dispatch

def blankRanges : Ranges := [
  (0x9, 0xd), (0x1c, 0x20), (0x85, 0x85), (0xa0, 0xa0), (0x1680, 0x1680), (0x2000, 0x200a),
  (0x2028, 0x2029), (0x202f, 0x202f), (0x205f, 0x205f), (0x3000, 0x3000)]

def CodePoint.isBlank (c : CodePoint) : Bool :=
  blankRanges.holds c.val

/-- Drops blanks from both ends. -/
def Text.strip (t : Text) : Text :=
  t.stripWhere CodePoint.isBlank

end Dispatch
