/- # TOML numbers, truth values and moments

| value | written as |
| --- | --- |
| integer | decimal with a sign or without, no leading zeros; or `0x`, `0o`, `0b` without a sign |
| real | a decimal integer with a fraction, an exponent or both; `inf` and `nan`, with a sign or without |
| truth value | `true`, `false` |
| moment | a date, a time of day, or both; with both, a distance from universal time may follow |

An underscore may stand between two digits. An integer has 64 bits. A real that is too large is
refused if it is positive and minus infinity otherwise. Of a moment only the form is looked at, that
its parts are in their ranges, and that its day exists.
-/

import Inotify.Toml.Text

namespace Inotify
namespace Toml

/-- Reads digits and single underscores between them. -/
def digitRun (isDigit : Char → Bool) : List Char → List Char × List Char
  | '_' :: d :: rest =>
    if isDigit d then
      let (ds, rest) := digitRun isDigit rest
      (d :: ds, rest)
    else ([], '_' :: d :: rest)
  | c :: rest =>
    if isDigit c then
      let (ds, rest) := digitRun isDigit rest
      (c :: ds, rest)
    else ([], c :: rest)
  | [] => ([], [])

/-- At least one digit, with single underscores between digits. -/
def digits (isDigit : Char → Bool) : Reader (List Char)
  | c :: rest => if isDigit c then some (digitRun isDigit (c :: rest)) else none
  | [] => none

/-- The number that digits write in a base. -/
def numberOf (base : Nat) (ds : List Char) : Nat :=
  ds.foldl (fun n c => base * n + (hexValue? c).getD 0) 0

/-- A sign, which may be missing: whether it is a minus. -/
def sign : List Char → Bool × List Char
  | '-' :: rest => (true, rest)
  | '+' :: rest => (false, rest)
  | cs => (false, cs)

/-- A decimal integer: its sign and its digits. -/
def decimal : Reader (Bool × List Char) := fun cs =>
  let (negative, rest) := sign cs
  match rest with
  | '0' :: rest => some ((negative, ['0']), rest)
  | _ => (digits Char.isDigit rest).map fun (ds, rest) => ((negative, ds), rest)

/-- Whether an integer has 64 bits. -/
def fits (n : Int) : Bool := Int64.minValue.toInt ≤ n && n ≤ Int64.maxValue.toInt

/-- An integer with a given base behind its mark. -/
def based (base : Nat) (isDigit : Char → Bool) : Reader Int := fun cs => do
  let (ds, rest) ← digits isDigit cs
  let n : Int := numberOf base ds
  if fits n then some (n, rest) else none

/-- **An integer.** -/
def integer : Reader Int
  | '0' :: 'x' :: rest => based 16 (fun c => (hexValue? c).isSome) rest
  | '0' :: 'o' :: rest => based 8 (fun c => '0' ≤ c && c ≤ '7') rest
  | '0' :: 'b' :: rest => based 2 (fun c => c = '0' || c = '1') rest
  | cs => do
    let ((negative, ds), rest) ← decimal cs
    let n : Int := numberOf 10 ds
    let n := if negative then -n else n
    if fits n then some (n, rest) else none

/-- The fraction of a real: its digits. -/
def fraction : Reader (List Char)
  | '.' :: rest => digits Char.isDigit rest
  | _ => none

/-- The exponent of a real. -/
def exponent : Reader Int
  | c :: rest =>
    if c = 'e' ∨ c = 'E' then do
      let (negative, rest) := sign rest
      let (ds, rest) ← digits Char.isDigit rest
      let n : Int := numberOf 10 ds
      some (if negative then -n else n, rest)
    else none
  | [] => none

/-- A reader whose text may be missing. -/
def Reader.orElse {α : Type} (r : Reader α) (default : α) (cs : List Char) : α × List Char :=
  (r cs).getD (default, cs)

/-- The words `inf` and `nan`. -/
def namedReal : Reader Binary64 := fun cs =>
  let (negative, rest) := sign cs
  match rest with
  | 'i' :: 'n' :: 'f' :: rest => some (.infinite negative, rest)
  | 'n' :: 'a' :: 'n' :: rest => some (.nan, rest)
  | _ => none

/-- A real written with digits. -/
def writtenReal : Reader Binary64 := fun cs => do
  let ((negative, whole), rest) ← decimal cs
  let (part, rest) := Reader.orElse fraction [] rest
  let (e, rest) ←
    if part.isEmpty then exponent rest else some (Reader.orElse exponent 0 rest)
  let x := Binary64.ofDecimal negative (numberOf 10 (whole ++ part)) (e - part.length)
  if x = .infinite false then none else some (x, rest)

/-- **A real.** -/
def real : Reader Binary64 := fun cs => writtenReal cs <|> namedReal cs

/-- **A truth value.** -/
def boolean : Reader Bool := fun cs =>
  ((Reader.exactly "true".toList cs).map fun (_, rest) => (true, rest))
    <|> ((Reader.exactly "false".toList cs).map fun (_, rest) => (false, rest))

/-- A number of exactly so many digits, within bounds. -/
def fixed (count low high : Nat) : Reader Nat := fun cs =>
  let ds := cs.take count
  let n := numberOf 10 ds
  if ds.length = count ∧ ds.all Char.isDigit ∧ low ≤ n ∧ n ≤ high then some (n, cs.drop count)
  else none

/-- The number of days of a month. -/
def daysIn (year month : Nat) : Nat :=
  if month = 2 then (if year % 4 = 0 ∧ (year % 100 ≠ 0 ∨ year % 400 = 0) then 29 else 28)
  else if month = 4 ∨ month = 6 ∨ month = 9 ∨ month = 11 then 30
  else 31

/-- A date. -/
def date : Reader Unit := fun cs => do
  let (year, cs) ← fixed 4 0 9999 cs
  let (_, cs) ← Reader.exactly ['-'] cs
  let (month, cs) ← fixed 2 1 12 cs
  let (_, cs) ← Reader.exactly ['-'] cs
  let (_, cs) ← fixed 2 1 (daysIn year month) cs
  some ((), cs)

/-- Decimal places of a second. -/
def secondPlaces : Reader Unit
  | '.' :: c :: rest => if c.isDigit then some ((), rest.dropWhile Char.isDigit) else none
  | _ => none

/-- A time of day. -/
def time : Reader Unit := fun cs => do
  let (_, cs) ← fixed 2 0 23 cs
  let (_, cs) ← Reader.exactly [':'] cs
  let (_, cs) ← fixed 2 0 59 cs
  let (_, cs) ← Reader.exactly [':'] cs
  let (_, cs) ← fixed 2 0 60 cs
  some (Reader.orElse secondPlaces () cs)

/-- A distance from universal time. -/
def offset : Reader Unit
  | c :: rest =>
    if c = 'Z' ∨ c = 'z' then some ((), rest)
    else if c = '+' ∨ c = '-' then do
      let (_, cs) ← fixed 2 0 23 rest
      let (_, cs) ← Reader.exactly [':'] cs
      let (_, cs) ← fixed 2 0 59 cs
      some ((), cs)
    else none
  | [] => none

/-- A time behind a date, with its distance from universal time. -/
def timeOfDate : Reader Unit
  | c :: rest =>
    if c = 'T' ∨ c = 't' ∨ c = ' ' then do
      let (_, cs) ← time rest
      some (Reader.orElse offset () cs)
    else none
  | [] => none

/-- **A moment.** -/
def moment : Reader Unit := fun cs =>
  ((date cs).map fun (_, rest) => Reader.orElse timeOfDate () rest) <|> time cs

/-- **A value that is not made of other values.** -/
def scalar : Reader Value := fun cs =>
  ((anyString cs).map fun (s, rest) => (.text (String.ofList s), rest))
    <|> ((boolean cs).map fun (b, rest) => (.boolean b, rest))
    <|> ((moment cs).map fun (_, rest) => (.moment, rest))
    <|> ((real cs).map fun (x, rest) => (.real x, rest))
    <|> ((integer cs).map fun (n, rest) => (.integer n, rest))

end Toml
end Inotify
