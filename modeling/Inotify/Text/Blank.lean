/- # White space

The characters with the Unicode property `White_Space`.
-/

import Inotify.Text.CodePoints

namespace Inotify
namespace Blank

/-- The boundaries of the set of white-space characters. -/
def boundaries : List Nat := [
  0x9, 0xE, 0x20, 0x21, 0x85, 0x86, 0xA0, 0xA1, 0x1680, 0x1681, 0x2000, 0x200B, 0x2028, 0x202A,
  0x202F, 0x2030, 0x205F, 0x2060, 0x3000, 0x3001]

/-- Whether a character is white space. -/
def isBlank (c : Char) : Bool := CodePoints.holds boundaries c

/-- A run of characters without the white space at its ends. -/
def trim (cs : List Char) : List Char :=
  ((cs.dropWhile isBlank).reverse.dropWhile isBlank).reverse

end Blank
end Inotify
