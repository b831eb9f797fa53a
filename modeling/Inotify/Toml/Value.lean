/- # TOML values

The values of a TOML document. Tables keep their members in the order in which they are written. Each
table remembers how it came to be, which decides how it may be extended later on:

| origin | written as | extended by |
| --- | --- | --- |
| `inline` | `{ a = 1 }` | nothing |
| `header` | `[a]` | headers of tables in it |
| `implied` | a part of a longer header | its own header, headers of tables in it |
| `dotted` | a part of a dotted key | dotted keys, headers of tables in it |
-/

import Inotify.Binary64

namespace Inotify
namespace Toml

/-- How a table came to be. -/
inductive Origin where
  | inline
  | header
  | implied
  | dotted
deriving DecidableEq, Repr

/-- A TOML value. -/
inductive Value where
  | text (s : String)
  | integer (n : Int)
  | real (x : Binary64)
  | boolean (b : Bool)
  /-- A date, a time, or both. -/
  | moment
  | array (items : List Value)
  | table (origin : Origin) (members : List (String × Value))
  /-- The tables of `[[a]]` headers. -/
  | tables (items : List (List (String × Value)))

/-- The members of a table, in the order in which they are written. -/
abbrev Members := List (String × Value)

/-- A reader takes what it knows off the front of a text and leaves the rest; it may refuse. -/
abbrev Reader (α : Type) := List Char → Option (α × List Char)

namespace Reader

/-- Whether a reader takes something whenever it does not refuse. -/
def Takes {α : Type} (r : Reader α) : Prop :=
  ∀ (cs rest : List Char) (a : α), r cs = some (a, rest) → rest.length < cs.length

/-- A reader that refuses where it would take nothing. -/
def strict {α : Type} (r : Reader α) : Reader α := fun cs =>
  (r cs).filter fun (_, rest) => rest.length < cs.length

/-- **A strict reader takes something.** -/
theorem takes_strict {α : Type} (r : Reader α) : r.strict.Takes := by
  intro cs rest a h
  have := (Option.filter_eq_some_iff.mp h).2
  simpa using this

/-- **A strict reader reads what takes something.** -/
theorem strict_eq {α : Type} {r : Reader α} {cs rest : List Char} {a : α} (h : r cs = some (a, rest))
    (hless : rest.length < cs.length) : r.strict cs = some (a, rest) := by
  simp [strict, h, hless]

/-- **Reads units until a reader of the end succeeds**, and gives the units and what the end gave. -/
def upTo {α β : Type} (close : Reader β) (unit : Reader α) (h : unit.Takes) (cs : List Char) :
    Option ((List α × β) × List Char) :=
  match close cs with
  | some (b, rest) => some (([], b), rest)
  | none =>
    match _taken : unit cs with
    | none => none
    | some (a, rest) =>
      (Reader.upTo close unit h rest).map fun ((as, b), rest) => ((a :: as, b), rest)
termination_by cs.length
decreasing_by exact h _ _ _ _taken

/-- **At the end nothing more is read.** -/
theorem upTo_of_close {α β : Type} {close : Reader β} {unit : Reader α} (h : unit.Takes)
    {cs rest : List Char} {b : β} (hc : close cs = some (b, rest)) :
    Reader.upTo close unit h cs = some (([], b), rest) := by
  rw [Reader.upTo, hc]

/-- **Before the end a unit is read, and then the rest.** -/
theorem upTo_of_unit {α β : Type} {close : Reader β} {unit : Reader α} (h : unit.Takes)
    {cs rest : List Char} {a : α} (hc : close cs = none) (hu : unit cs = some (a, rest)) :
    Reader.upTo close unit h cs =
      (Reader.upTo close unit h rest).map fun ((as, b), rest) => ((a :: as, b), rest) := by
  rw [Reader.upTo, hc]
  dsimp only
  split
  · next hn => rw [hu] at hn; cases hn
  · next hs =>
    rw [hu] at hs
    cases hs
    rfl

end Reader

/-- Takes a given run of characters off the front. -/
def Reader.exactly (word : List Char) : Reader Unit := fun cs =>
  if word.isPrefixOf cs then some ((), cs.drop word.length) else none

/-- Takes blanks and tabs off the front. -/
def skipBlanks (cs : List Char) : List Char := cs.dropWhile fun c => c = ' ' || c = '\t'

/-- **Skipping blanks takes nothing back.** -/
theorem length_skipBlanks (cs : List Char) : (skipBlanks cs).length ≤ cs.length := by
  rw [skipBlanks]
  exact (List.dropWhile_sublist _).length_le

/-- A line end: a line feed, with or without a carriage return before it. -/
def lineEnd : Reader Unit
  | '\n' :: rest => some ((), rest)
  | '\r' :: '\n' :: rest => some ((), rest)
  | _ => none

/-- **A line end takes something.** -/
theorem takes_lineEnd : Reader.Takes lineEnd := by
  intro cs rest u h
  unfold lineEnd at h
  split at h
  · cases h
    simp
  · cases h
    simp only [List.length_cons]
    omega
  · cases h

/-- Whether a character may stand in a comment: any but the control characters other than the tab. -/
def isVisible (c : Char) : Bool := c = '\t' || (0x20 ≤ c.toNat && c.toNat ≠ 0x7f)

end Toml
end Inotify
