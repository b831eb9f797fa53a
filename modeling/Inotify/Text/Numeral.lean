/- # Numerals

The numbers that appear in output: decimal, and hexadecimal in lower case. A 32-bit descriptor or
error number in hexadecimal is the numeral of its two's-complement word, so `-1` is `ffffffff`.
-/

namespace Inotify
namespace Numeral

/-- A natural number in decimal. -/
def decimal (n : Nat) : String := String.ofList (Nat.toDigits 10 n)

/-- An integer in decimal, with a minus sign if it is negative. -/
def signed (i : Int) : String :=
  if i < 0 then "-" ++ decimal i.natAbs else decimal i.natAbs

/-- A natural number in lower-case hexadecimal. -/
def hex (n : Nat) : String := String.ofList (Nat.toDigits 16 n)

/-- A 32-bit signed number in hexadecimal, by its two's-complement word. -/
def hexWord (n : Int32) : String := hex n.toUInt32.toNat

/-- A text brought to a width by characters in front of it; one that is wide enough is kept. -/
def pad (fill : Char) (width : Nat) (s : String) : String :=
  String.ofList (List.replicate (width - s.length) fill) ++ s

end Numeral
end Inotify
