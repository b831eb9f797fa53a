/- # Sets of code points

A set of characters that is a union of ranges is kept as the rising list of its *boundaries*: the
first code point inside, the first one outside again, and so on. A character is in the set when the
number of boundaries that it has reached is odd.
-/

namespace Inotify
namespace CodePoints

/-- Whether a character lies in the set with the given boundaries. -/
def holds (boundaries : List Nat) (c : Char) : Bool :=
  (boundaries.takeWhile (· ≤ c.toNat)).length % 2 == 1

end CodePoints
end Inotify
