/- # TOML tables

The members of a table stand in the order in which they are written, each name once. A key is a name
behind the names of the tables that lead to it. Three things can be done with a key:

| written as | effect |
| --- | --- |
| `a.b = 1` | `b` becomes a member of `a` |
| `[a.b]` | `b` becomes an empty table of `a`, or an implied table there becomes a written one |
| `[[a.b]]` | an empty table is added to the tables `b` of `a` |

The tables that lead to the name are made where they are missing. What a step may enter depends on who
takes it: a dotted key enters implied and dotted tables and must end in a dotted one; a header enters
all but inline ones. Of the tables of a `[[a]]` header a step enters the last.
-/

import Inotify.Toml.Value

namespace Inotify
namespace Toml

/-- A key: a name behind the names of the tables that lead to it. -/
structure Key where
  /-- The tables that lead to the name, outermost first. -/
  parents : List String := []
  /-- The name. -/
  name : String
deriving DecidableEq, Repr

/-- A table as a step finds it: its origin, its members, and the value with other members in it. -/
structure Entrance where
  /-- How the table came to be. -/
  origin : Origin
  /-- What it holds. -/
  members : Members
  /-- The value with the table changed. -/
  close : Members → Value

/-- The table that a value is, or the last of the tables that it is; nothing for other values and for
tables that must not be entered. -/
def Value.enter? (allowed : Origin → Bool) : Value → Option Entrance
  | .table origin members =>
    if allowed origin then some ⟨origin, members, .table origin⟩ else none
  | .tables items =>
    items.getLast?.map fun last => ⟨.header, last, fun m => .tables (items.dropLast ++ [m])⟩
  | _ => none

namespace Members

/-- The value of a name. -/
def find? (m : Members) (name : String) : Option Value := m.lookup name

/-- The members without a name. -/
def erase (m : Members) (name : String) : Members := m.filter (·.1 ≠ name)

/-- The members with another value for a name that is there. -/
def replace (m : Members) (name : String) (v : Value) : Members :=
  m.map fun (n, w) => if n = name then (n, v) else (n, w)

/-- **Changes the table at the end of a path.** A missing table is made, with origin `made`; a table
is entered if its origin is allowed. The change sees the origin of the table. -/
def change (allowed : Origin → Bool) (made : Origin) (f : Origin → Members → Option Members) :
    Origin → List String → Members → Option Members
  | origin, [], m => f origin m
  | _, name :: path, m =>
    match m.find? name with
    | none => do
      let inner ← change allowed made f made path []
      some (m ++ [(name, .table made inner)])
    | some v => do
      let e ← v.enter? allowed
      let inner ← change allowed made f e.origin path e.members
      some (m.replace name (e.close inner))

/-- **Gives a key its value.** -/
def assign (m : Members) (key : Key) (v : Value) : Option Members :=
  change (fun origin => origin = .implied || origin = .dotted) .dotted
    (fun origin inner =>
      if key.parents ≠ [] ∧ origin ≠ .dotted then none
      else if (inner.find? key.name).isSome then none
      else some (inner ++ [(key.name, v)]))
    .header key.parents m

/-- **Changes the table that the path of a header leads to.** -/
def within (m : Members) (path : List String) (f : Members → Option Members) : Option Members :=
  change (· ≠ .inline) .implied (fun _ => f) .header path m

/-- **Opens the table of a header.** It becomes the last of its parent's members and keeps what longer
headers have put into it. -/
def openTable (m : Members) (key : Key) : Option Members :=
  m.within key.parents fun inner =>
    match inner.find? key.name with
    | none => some (inner ++ [(key.name, .table .header [])])
    | some (.table .implied held) =>
      some (inner.erase key.name ++ [(key.name, .table .header held)])
    | some _ => none

/-- **Adds a table to those of a header in double brackets.** -/
def addTable (m : Members) (key : Key) : Option Members :=
  m.within key.parents fun inner =>
    match inner.find? key.name with
    | none => some (inner ++ [(key.name, .tables [[]])])
    | some (.tables items) => some (inner.replace key.name (.tables (items ++ [[]])))
    | some _ => none

/-- The members that a run of keys and values gives. -/
def ofPairs (pairs : List (Key × Value)) : Option Members :=
  pairs.foldlM (fun m (key, v) => assign m key v) []

end Members
end Toml
end Inotify
