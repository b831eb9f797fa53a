/- # Paths

A path is a run of bytes cut into pieces at every slash. Its *components* are what the pieces mean:
empty pieces mean nothing, a `.` means something only as the first piece of a path that does not begin
at the root, and `..` is the parent. Two paths with the same components are the same path, so `.`,
`./` and `././/` are one.
-/

import Inotify.Failure

namespace Inotify
namespace Path

/-- The slash. -/
def slash : UInt8 := 0x2f

/-- The dot. -/
def dot : UInt8 := 0x2e

/-- **The pieces of a path**: the runs between its slashes, one more than there are slashes. -/
def pieces : Bytes → List Bytes
  | [] => [[]]
  | b :: bs =>
    match pieces bs with
    | [] => [[b]]
    | p :: ps => if b = slash then [] :: p :: ps else (b :: p) :: ps

/-- What a piece of a path means. -/
inductive Component where
  /-- The root directory. -/
  | root
  /-- The directory that the path starts from. -/
  | here
  /-- The parent directory. -/
  | parent
  /-- An entry of a directory. -/
  | entry (name : Bytes)
deriving DecidableEq, Repr

/-- What a piece means behind another one. -/
def Component.ofPiece? (piece : Bytes) : Option Component :=
  if piece = [] ∨ piece = [dot] then none
  else if piece = [dot, dot] then some .parent
  else some (.entry piece)

/-- **The components of a path.** -/
def components (path : Bytes) : List Component :=
  match pieces path with
  | [] => []
  | first :: rest =>
    let start :=
      if path.head? = some slash then [.root]
      else if first = [dot] then [.here]
      else (Component.ofPiece? first).toList
    start ++ rest.filterMap Component.ofPiece?

/-- Whether a path means the working directory and nothing more. -/
def isHere (path : Bytes) : Bool := components path == components [dot]

/-- The text of a path in messages. -/
def display (path : Bytes) : String := Utf8.lossy path

/-- The last component of a path, if it is the name of an entry. -/
def fileName? (path : Bytes) : Option Bytes :=
  match (components path).getLast? with
  | some (.entry name) => some name
  | _ => none

/-- The bytes of a run of components. -/
def ofComponents : List Component → Bytes
  | [] => []
  | .root :: rest => slash :: ofComponents rest
  | .here :: [] => [dot]
  | .here :: rest => dot :: slash :: ofComponents rest
  | .parent :: [] => [dot, dot]
  | .parent :: rest => dot :: dot :: slash :: ofComponents rest
  | .entry name :: [] => name
  | .entry name :: rest => name ++ slash :: ofComponents rest

/-- The directory that holds the last component of a path; `.` if the path has just one. -/
def directory (path : Bytes) : Bytes :=
  match (components path).dropLast with
  | [] => [dot]
  | parents => ofComponents parents

end Path

/-- **Settles what to watch, once.** A path that means the working directory is replaced by the
directory's own path, and fails if that cannot be had; any other path is taken as it is. -/
def settleTarget (path : Bytes) (workingDirectory : Except IoFault Bytes) : Except Failure Bytes :=
  if Path.isHere path then
    workingDirectory.mapError fun fault => .setup .workingDirectory fault.errno
  else .ok path

end Inotify
