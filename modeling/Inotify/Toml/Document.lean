/- # TOML documents

A document is built statement by statement. A header opens a table, and the pairs up to the next
header go into it; the pairs in front of the first header go into the document itself.
-/

import Inotify.Toml.Statement

namespace Inotify
namespace Toml

/-- A document as far as it has been read. -/
structure Draft where
  /-- The members of the document. -/
  root : Members := []
  /-- The table that pairs go into, by the names that lead to it. -/
  current : List String := []

namespace Draft

/-- **Takes in a statement**; refuses one that says again what has been said. -/
def add (d : Draft) : Statement → Option Draft
  | .pair k v => do some { d with root := ← d.root.within d.current (·.assign k v) }
  | .header k => do some { root := ← d.root.openTable k, current := k.parents ++ [k.name] }
  | .listHeader k => do some { root := ← d.root.addTable k, current := k.parents ++ [k.name] }

end Draft

/-- **The members of the document that a text writes**, if it writes one. -/
def parse? (s : String) : Option Members := do
  let d ← (← statements s).foldlM Draft.add {}
  some d.root

end Toml
end Inotify
