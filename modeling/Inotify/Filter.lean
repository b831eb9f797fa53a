/- # Log filters

A log filter is a list of directives, separated by commas; nothing between two commas is no directive.
A directive names a level, or a target with a level for it, or a span with fields:

    warn      watcher=trace      watcher[span{field=1}]=info

A directive is accepted by a machine that reads it character by character, the white space at its
ends left out:

| state | character | next state |
| --- | --- | --- |
| start | `[` | span |
| start | letter, digit, `-`, `:`, `_` | word |
| word | `=` | level |
| word | `[` | span |
| word | other | word |
| span | `]` | after span |
| span | `{` | field |
| span | other | span |
| field | `}` | after fields, unless the field is empty |
| field | other | field |
| after fields | `]` | after span |
| after span | `=` | level |
| level | any | level |

Anything else is refused. The directive is accepted in the states word and after span, and in the
state level if the level is empty or known. The text of the level is cut out of the directive with
its white space still on it, at the byte where it begins in the one without: white space in front
shifts the cut to the left, and white space behind belongs to the level.

The values of fields are not checked. A reader that gives them a meaning refuses a directive of which
a field value is no number, no truth value and no regular expression, as in `a[b{c=(}]=info`; here
this one is accepted, as what stands between the braces is looked at no further than for being empty.
-/

import Inotify.Text.Alphanumeric
import Inotify.Text.Blank
import Inotify.Text.Utf8

namespace Inotify
namespace Filter

/-- Where the machine stands inside a directive; positions count bytes. -/
inductive State where
  | start
  | word
  | span
  | field (origin : Nat)
  | afterFields
  | afterSpan
  | level (origin : Nat)
deriving DecidableEq, Repr

/-- Whether a word may begin with a character. -/
def beginsWord (c : Char) : Bool :=
  c == '-' || c == ':' || c == '_' || Alphanumeric.isAlphanumeric c

/-- **One step of the machine**, on the character that begins at byte `pos` of the directive. -/
def State.step (s : State) (pos : Nat) (c : Char) : Option State :=
  match s with
  | start => if c = '[' then some span else if beginsWord c then some word else none
  | word => if c = '=' then some (level (pos + 1)) else if c = '[' then some span else some word
  | span =>
    if c = ']' then some afterSpan else if c = '\x7b' then some (field (pos + 1)) else some span
  | field origin =>
    if c = '\x7d' then (if pos = origin then none else some afterFields) else some (field origin)
  | afterFields => if c = ']' then some afterSpan else none
  | afterSpan => if c = '=' then some (level (pos + 1)) else none
  | level origin => some (level origin)

/-- The state after a run of characters of which the first begins at byte `pos`. -/
def State.run (s : State) (pos : Nat) : List Char → Option State
  | [] => some s
  | c :: cs => do (← s.step pos c).run (pos + c.utf8Size) cs

/-- The number of a run of decimal digits; nothing if it is empty or holds anything else. -/
def number? (cs : List Char) : Option Nat :=
  if cs ≠ [] ∧ cs.all Char.isDigit then
    some (cs.foldl (fun n c => 10 * n + (c.toNat - '0'.toNat)) 0)
  else none

/-- The names of the levels. -/
def levelNames : List String := ["off", "error", "warn", "info", "debug", "trace"]

/-- **Whether a text is a level**: a number from 0 to 5, with or without a plus sign, or a name in
ASCII letters of either case. -/
def isLevel (s : String) : Bool :=
  let digits := match s.toList with
    | '+' :: rest => rest
    | cs => cs
  (number? digits).any (· ≤ 5) || levelNames.contains (s.map Char.toLower)

/-- The text of a level, cut out of a directive at a byte. -/
def cut (directive : List Char) (origin : Nat) : String :=
  Utf8.lossy ((Utf8.encode (String.ofList directive)).drop origin)

/-- **Whether a run of characters is a directive.** -/
def isDirective (directive : List Char) : Bool :=
  match State.start.run 0 (Blank.trim directive) with
  | some .word => true
  | some .afterSpan => true
  | some (.level origin) => let text := cut directive origin; text.isEmpty || isLevel text
  | _ => false

/-- The runs of characters between commas. -/
def pieces : List Char → List (List Char)
  | [] => [[]]
  | c :: cs =>
    match pieces cs with
    | [] => [[c]]
    | p :: ps => if c = ',' then [] :: p :: ps else (c :: p) :: ps

/-- **Whether a text is a log filter.** -/
def isValid (s : String) : Bool :=
  ((pieces s.toList).filter (· ≠ [])).all isDirective

end Filter
end Inotify
