/- # Binary floating point in decimal

A number written in decimal is read as the nearest number `m * 2 ^ q` with `m < 2 ^ 53` and
`-1074 ≤ q ≤ 971`, the one with even `m` if two are equally near. It is written back with the fewest
decimal digits that are read as the same number, nearest to it if there is a choice and farther from
zero if two are equally near, in positional notation and with a point. All arithmetic is on natural
numbers and exact.

A fraction is given by its numerator and a positive denominator.
-/

import Inotify.Text.Numeral

namespace Inotify

/-- A number in binary floating point. -/
inductive Binary64 where
  /-- Not a number. -/
  | nan
  /-- Too large for the format. -/
  | infinite (negative : Bool)
  /-- The number `mantissa * 2 ^ exponent`. -/
  | finite (negative : Bool) (mantissa : Nat) (exponent : Int)
deriving DecidableEq, Repr

namespace Binary64

/-- The smallest exponent. -/
def minExponent : Int := -1074

/-- The largest exponent. -/
def maxExponent : Int := 971

/-- A quotient rounded to the nearest natural number, halves to the even one. -/
def roundHalfEven (num den : Nat) : Nat :=
  let floor := num / den
  let twice := 2 * (num % den)
  if twice < den ∨ (twice = den ∧ floor % 2 = 0) then floor else floor + 1

/-- The numerator and denominator of a fraction times a power of two. -/
def scale (num den : Nat) (e : Int) : Nat × Nat := (num <<< e.toNat, den <<< (-e).toNat)

/-- The exponent for a positive fraction: with it the mantissa has 53 binary digits, unless the
exponent is the smallest one. -/
def exponentOf (num den : Nat) : Int :=
  let guess : Int := num.log2 - den.log2
  let (n, d) := scale num den (-guess)
  let top := if d ≤ n then guess else guess - 1
  max (top - 52) minExponent

/-- **The nearest number to a fraction**, with a sign. -/
def nearest (negative : Bool) (num den : Nat) : Binary64 :=
  if num = 0 then .finite negative 0 minExponent
  else
    let q := exponentOf num den
    let (n, d) := scale num den (-q)
    let m := roundHalfEven n d
    let (m, q) := if m = 1 <<< 53 then (1 <<< 52, q + 1) else (m, q)
    if maxExponent < q then .infinite negative else .finite negative m q

/-- **The nearest number to a decimal** `digits * 10 ^ e`, with a sign. Beyond 400 decimal places on
either side of the point nothing but infinity and zero is near. -/
def ofDecimal (negative : Bool) (digits : Nat) (e : Int) : Binary64 :=
  let places : Int := (Nat.toDigits 10 digits).length + e
  if digits = 0 ∨ places < -400 then .finite negative 0 minExponent
  else if 400 < places then .infinite negative
  else nearest negative (digits * Nat.pow 10 e.toNat) (Nat.pow 10 (-e).toNat)

/-- How often a positive fraction below one has to be multiplied by ten to reach one. -/
def leadingZeros (num den : Nat) : Nat :=
  if 0 < num ∧ num < den then leadingZeros (num * 10) den + 1 else 0
termination_by den - num

/-- Where the decimal point of a positive fraction stands: the number of digits before it, or minus
the number of zeros right behind it. -/
def pointOf (num den : Nat) : Int :=
  if den ≤ num then (Nat.toDigits 10 (num / den)).length
  else 1 - (leadingZeros num den : Int)

/-- A positive number as `digits * 10 ^ e`, with a given number of digits, if some such decimal is
read as the number; the nearer one of the two around it, the upper one if both are equally near. The
number lies in the middle of an interval of which the ends count as well if the mantissa is even, and
which is half as wide below a power of two. -/
def shortenTo (m : Nat) (q : Int) (count : Nat) : Option (Nat × Int) :=
  let below := if m = 1 <<< 52 ∧ minExponent < q then 1 else 2
  let (unit, den) := scale 1 1 (q - 2)
  let low := (4 * m - below) * unit
  let value := 4 * m * unit
  let high := (4 * m + 2) * unit
  let e := pointOf value den - count
  let (grid, den) := (den * Nat.pow 10 e.toNat, Nat.pow 10 (-e).toNat)
  let near (d : Nat) : Bool :=
    let x := d * grid
    if m % 2 = 0 then low * den ≤ x && x ≤ high * den else low * den < x && x < high * den
  let floor := value * den / grid
  let up := grid ≤ 2 * (value * den % grid)
  match near floor, near (floor + 1) with
  | true, true => some (if up then floor + 1 else floor, e)
  | true, false => some (floor, e)
  | false, true => some (floor + 1, e)
  | false, false => none

/-- **The shortest decimal of a positive number.** Seventeen digits are always enough. -/
def shortest (m : Nat) (q : Int) : Nat × Int :=
  let (d, e) := ((List.range 17).findSome? fun k => shortenTo m q (k + 1)).getD (0, 0)
  if d % 10 = 0 then (d / 10, e + 1) else (d, e)

/-- The decimal `digits * 10 ^ e` in positional notation, with a point. -/
def positional (digits : Nat) (e : Int) : String :=
  let ds := Nat.toDigits 10 digits
  if 0 ≤ e then String.ofList (ds ++ List.replicate e.toNat '0') ++ ".0"
  else
    let places := (-e).toNat
    let padded := List.replicate (places + 1 - ds.length) '0' ++ ds
    let whole := padded.length - places
    String.ofList (padded.take whole) ++ "." ++ String.ofList (padded.drop whole)

/-- **The text of a number.** -/
def text : Binary64 → String
  | nan => "NaN"
  | infinite negative => if negative then "-inf" else "inf"
  | finite negative m q =>
    let sign := if negative then "-" else ""
    if m = 0 then sign ++ "0.0"
    else
      let (d, e) := shortest m q
      sign ++ positional d e

end Binary64
end Inotify
