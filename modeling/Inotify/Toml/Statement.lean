/- # TOML statements

A document is a sequence of lines, each with one statement at most:

| statement | written as |
| --- | --- |
| pair | a key, an equals sign, a value |
| header | a key in brackets |
| list header | a key in double brackets |

A comment runs from a number sign to the end of its line. A key is made of fewer than 80 names with
dots between them; a value is nested less than 80 deep.
-/

import Inotify.Toml.Members
import Inotify.Toml.Scalar

namespace Inotify
namespace Toml

/-- What a line of a document says. -/
inductive Statement where
  | pair (key : Key) (value : Value)
  | header (key : Key)
  | listHeader (key : Key)

/-- Takes one character off the front. -/
def oneChar (c : Char) : Reader Unit
  | d :: rest => if d = c then some ((), rest) else none
  | [] => none

/-- A comment, without its line end. -/
def comment : Reader Unit
  | '#' :: rest => some ((), rest.dropWhile isVisible)
  | _ => none

/-- **A comment takes something.** -/
theorem takes_comment : Reader.Takes comment := by
  intro cs rest u h
  unfold comment at h
  split at h
  · cases h
    exact Nat.lt_succ_of_le (List.dropWhile_sublist isVisible).length_le
  · cases h

/-- Takes units off the front for as long as there are any. -/
def skipAll (unit : Reader Unit) (h : unit.Takes) (cs : List Char) : List Char :=
  match _taken : unit cs with
  | some (_, rest) => skipAll unit h rest
  | none => cs
termination_by cs.length
decreasing_by exact h _ _ _ _taken

/-- A blank, a line end, or a comment with its line end. -/
def gap : Reader Unit := fun cs =>
  match cs with
  | ' ' :: rest => some ((), rest)
  | '\t' :: rest => some ((), rest)
  | _ =>
    match comment cs with
    | some (_, rest) => lineEnd rest
    | none => lineEnd cs

/-- **A gap takes something.** -/
theorem takes_gap : Reader.Takes gap := by
  intro cs rest u h
  unfold gap at h
  split at h
  · cases h
    simp
  · cases h
    simp
  · split at h
    · next hc =>
      have hend := takes_lineEnd _ _ _ h
      have hcomment := takes_comment _ _ _ hc
      omega
    · exact takes_lineEnd _ _ _ h

/-- Takes blanks, line ends and comments off the front. -/
def skipGaps (cs : List Char) : List Char := skipAll gap takes_gap cs

/-! ## Keys -/

/-- Whether a character may stand in a name without quotes. -/
def isBare (c : Char) : Bool := c.isAlphanum || c = '_' || c = '-'

/-- A name: without quotes, or a string on one line. -/
def name : Reader String
  | '"' :: rest => (basicString rest).map fun (s, rest) => (String.ofList s, rest)
  | '\'' :: rest => (literalString rest).map fun (s, rest) => (String.ofList s, rest)
  | cs =>
    let s := cs.takeWhile isBare
    if s.isEmpty then none else some (String.ofList s, cs.drop s.length)

/-- A name behind a dot, with blanks around both. -/
def dottedName : Reader String := fun cs => do
  let (_, cs) ← oneChar '.' (skipBlanks cs)
  let (s, cs) ← name (skipBlanks cs)
  some (s, skipBlanks cs)

/-- Succeeds where no dot follows. -/
def noDot : Reader Unit := fun cs =>
  match skipBlanks cs with
  | '.' :: _ => none
  | cs => some ((), cs)

/-- **A key**, with blanks around it and around its dots. -/
def key : Reader Key := fun cs => do
  let (first, cs) ← name (skipBlanks cs)
  let ((others, _), cs) ← Reader.upTo noDot dottedName.strict (Reader.takes_strict _) cs
  if others.length + 1 < 80 then
    match others.getLast? with
    | none => some ({ name := first }, cs)
    | some last => some ({ parents := first :: others.dropLast, name := last }, cs)
  else none

/-! ## Values -/

/-- Items with commas between them, up to a closing character. Anything that `skip` takes may stand
around them; a comma behind the last one is allowed if `trailing` says so. -/
def listing {α : Type} (skip : List Char → List Char) (trailing : Bool) (closing : Char)
    (item : Reader α) : Reader (List α) := fun cs =>
  let padded : Reader α := fun cs => (item (skip cs)).map fun (a, cs) => (a, skip cs)
  let finish : Reader Unit := fun cs =>
    match oneChar closing cs with
    | some r => some r
    | none =>
      if trailing then do
        let (_, cs) ← oneChar ',' cs
        oneChar closing (skip cs)
      else none
  let next : Reader α := fun cs => do
    let (_, cs) ← oneChar ',' cs
    padded cs
  match oneChar closing (skip cs) with
  | some (_, rest) => some ([], rest)
  | none => do
    let (a, cs) ← padded cs
    let ((as, _), cs) ← Reader.upTo finish next.strict (Reader.takes_strict _) cs
    some (a :: as, cs)

/-- A key, an equals sign and what a reader takes behind it. -/
def pair (value : Reader Value) : Reader (Key × Value) := fun cs => do
  let (k, cs) ← key cs
  let (_, cs) ← oneChar '=' cs
  let (v, cs) ← value (skipBlanks cs)
  some ((k, v), cs)

/-- **A value that is nested no deeper than a bound.** -/
def value : Nat → Reader Value
  | 0 => scalar
  | depth + 1 => fun cs =>
    match oneChar '[' cs with
    | some (_, rest) => do
      let (items, rest) ← listing skipGaps true ']' (value depth) rest
      some (.array items, rest)
    | none =>
      match oneChar '\x7b' cs with
      | some (_, rest) => do
        let (pairs, rest) ← listing skipBlanks false '\x7d' (pair (value depth)) rest
        let members ← Members.ofPairs pairs
        some (.table .inline members, rest)
      | none => scalar cs

/-! ## Lines -/

/-- How deep values may be nested. -/
def depthBound : Nat := 79

/-- A header: a key between brackets. -/
def header : Reader Statement := fun cs => do
  match Reader.exactly ['[', '['] cs with
  | some (_, cs) =>
    let (k, cs) ← key cs
    let (_, cs) ← Reader.exactly [']', ']'] cs
    some (.listHeader k, cs)
  | none =>
    let (_, cs) ← oneChar '[' cs
    let (k, cs) ← key cs
    let (_, cs) ← oneChar ']' cs
    some (.header k, cs)

/-- **A statement.** -/
def statement : Reader Statement := fun cs =>
  match cs with
  | '[' :: _ => header cs
  | _ => (pair (value depthBound) cs).map fun ((k, v), cs) => (.pair k v, cs)

/-- The end of a line: blanks and a comment, each if there is any, and a line end or the end of the
text. -/
def lineTail : Reader Unit := fun cs =>
  let cs := skipBlanks cs
  let cs := match comment cs with
    | some (_, rest) => rest
    | none => cs
  match cs with
  | [] => some ((), [])
  | _ => lineEnd cs

/-- A line, with a statement or without. -/
def line : Reader (Option Statement) := fun cs =>
  let cs := skipBlanks cs
  match lineTail cs with
  | some (_, rest) => some (none, rest)
  | none => do
    let (s, cs) ← statement cs
    let (_, cs) ← lineTail cs
    some (some s, cs)

/-- The end of a text. -/
def endOfText : Reader Unit
  | [] => some ((), [])
  | _ => none

/-- **The statements of a text.** A byte order mark in front of them is left out. -/
def statements (s : String) : Option (List Statement) :=
  let cs := match s.toList with
    | '\ufeff' :: rest => rest
    | cs => cs
  (Reader.upTo endOfText line.strict (Reader.takes_strict _) cs).map fun ((ls, _), _) => ls.filterMap id

end Toml
end Inotify
