/- # Reading unsigned numerals

A numeral of 64 bits is written in decimal digits, with a plus sign in front or without. The first
character at which it goes wrong decides what is wrong with it.
-/

import Inotify.Text.Numeral

namespace Inotify
namespace Unsigned

/-- Why a text is no numeral. -/
inductive Fault where
  /-- There is nothing. -/
  | empty
  /-- There is something else than digits. -/
  | badDigit
  /-- The number has more than 64 bits. -/
  | tooLarge
deriving DecidableEq, Repr

/-- The wording of a fault. -/
def Fault.message : Fault → String
  | empty => "cannot parse integer from empty string"
  | badDigit => "invalid digit found in string"
  | tooLarge => "number too large to fit in target type"

/-- Goes on reading digits behind a number. -/
def digits (n : Nat) : List Char → Except Fault Nat
  | [] => .ok n
  | c :: cs =>
    if c.isDigit then
      let n := 10 * n + (c.toNat - '0'.toNat)
      if n < UInt64.size then digits n cs else .error .tooLarge
    else .error .badDigit

/-- **The number that a text writes.** -/
def read (s : String) : Except Fault UInt64 :=
  match s.toList with
  | [] => .error .empty
  | ['+'] => .error .badDigit
  | '+' :: cs => (digits 0 cs).map .ofNat
  | cs => (digits 0 cs).map .ofNat

end Unsigned
end Inotify
