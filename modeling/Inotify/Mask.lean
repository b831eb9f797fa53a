/- # Event kinds and masks

A mask is a 32-bit word in which sixteen bits have a declared meaning, the *kinds*. Bits without a
meaning are kept: a mask read from a record is shown and written back as it was.

The kinds have two orders. *Declaration* order is the order of the bits of the word; *printing*
order, in which an event line lists them, is alphabetical with the underscore before the letters, save
that `CLOSE_WRITE` comes before `CLOSE_NOWRITE`.
-/

import Inotify.Text.Numeral

namespace Inotify

/-- What can happen to a watched object, and three notices about the watch itself. -/
inductive Kind where
  /-- The file was read. -/
  | access
  /-- The file was written. -/
  | modify
  /-- Metadata changed. -/
  | attrib
  /-- A file opened for writing was closed. -/
  | closeWrite
  /-- A file not opened for writing was closed. -/
  | closeNoWrite
  /-- A file or directory was opened. -/
  | opened
  /-- An entry left the watched directory. -/
  | movedFrom
  /-- An entry came into the watched directory. -/
  | movedTo
  /-- An entry was created in the watched directory. -/
  | create
  /-- An entry was deleted from the watched directory. -/
  | delete
  /-- The watched object was deleted. -/
  | deleteSelf
  /-- The watched object was moved. -/
  | moveSelf
  /-- The file system that holds the watched object was unmounted. -/
  | unmount
  /-- The queue of events overflowed. -/
  | queueOverflow
  /-- The watch was removed. -/
  | ignored
  /-- The subject of the event is a directory. -/
  | isDirectory
deriving DecidableEq, Repr

namespace Kind

/-- The bit of a kind. -/
def bit : Kind → UInt32
  | access => 0x1
  | modify => 0x2
  | attrib => 0x4
  | closeWrite => 0x8
  | closeNoWrite => 0x10
  | opened => 0x20
  | movedFrom => 0x40
  | movedTo => 0x80
  | create => 0x100
  | delete => 0x200
  | deleteSelf => 0x400
  | moveSelf => 0x800
  | unmount => 0x2000
  | queueOverflow => 0x4000
  | ignored => 0x8000
  | isDirectory => 0x40000000

/-- The short name of a kind. -/
def label : Kind → String
  | access => "ACCESS"
  | modify => "MODIFY"
  | attrib => "ATTRIB"
  | closeWrite => "CLOSE_WRITE"
  | closeNoWrite => "CLOSE_NOWRITE"
  | opened => "OPEN"
  | movedFrom => "MOVED_FROM"
  | movedTo => "MOVED_TO"
  | create => "CREATE"
  | delete => "DELETE"
  | deleteSelf => "DELETE_SELF"
  | moveSelf => "MOVE_SELF"
  | unmount => "UNMOUNT"
  | queueOverflow => "Q_OVERFLOW"
  | ignored => "IGNORED"
  | isDirectory => "ISDIR"

/-- The name of a kind in an event line. -/
def name : Kind → String
  | access => "IN_ACCESS"
  | attrib => "IN_ATTRIB"
  | closeWrite => "IN_CLOSE_WRITE"
  | closeNoWrite => "IN_CLOSE_NOWRITE"
  | create => "IN_CREATE"
  | delete => "IN_DELETE"
  | deleteSelf => "IN_DELETE_SELF"
  | ignored => "IN_IGNORED"
  | isDirectory => "IN_ISDIR"
  | modify => "IN_MODIFY"
  | moveSelf => "IN_MOVE_SELF"
  | movedFrom => "IN_MOVED_FROM"
  | movedTo => "IN_MOVED_TO"
  | opened => "IN_OPEN"
  | queueOverflow => "IN_Q_OVERFLOW"
  | unmount => "IN_UNMOUNT"

/-- The kinds in declaration order, by rising bit. -/
def declared : List Kind :=
  [access, modify, attrib, closeWrite, closeNoWrite, opened, movedFrom, movedTo, create, delete,
   deleteSelf, moveSelf, unmount, queueOverflow, ignored, isDirectory]

/-- The kinds in printing order. -/
def printed : List Kind :=
  [access, attrib, closeWrite, closeNoWrite, create, delete, deleteSelf, ignored, isDirectory,
   modify, moveSelf, movedFrom, movedTo, opened, queueOverflow, unmount]

/-- **Every kind is declared.** -/
theorem mem_declared (k : Kind) : k ∈ declared := by cases k <;> decide

/-- **Every kind is printed.** -/
theorem mem_printed (k : Kind) : k ∈ printed := by cases k <;> decide

/-- **No kind is printed twice.** -/
theorem nodup_printed : printed.Nodup := by decide

end Kind

/-- The kinds of one event, as a word that may hold bits of no declared kind. -/
structure Mask where
  /-- The word itself. -/
  bits : UInt32
deriving DecidableEq, Repr

namespace Mask

/-- The mask of one kind. -/
def ofKind (k : Kind) : Mask := ⟨k.bit⟩

/-- The bits of all declared kinds. -/
def all : Mask := ⟨Kind.declared.foldl (fun bits k => bits ||| k.bit) 0⟩

/-- Every kind that a watch can subscribe to. -/
def subscribable : Mask := ⟨0xfff⟩

/-- Whether no bit is set. -/
def isEmpty (m : Mask) : Bool := m.bits == 0

/-- Whether every bit of `n` is set in `m`. -/
def contains (m n : Mask) : Bool := m.bits &&& n.bits == n.bits

/-- Whether some bit is set in both. -/
def intersects (m n : Mask) : Bool := m.bits &&& n.bits != 0

/-- Whether the bit of a kind is set. -/
def has (m : Mask) (k : Kind) : Bool := m.contains (ofKind k)

/-- Whether every declared kind is set. -/
def isAll (m : Mask) : Bool := m.contains all

/-- The bits of either mask. -/
def union (m n : Mask) : Mask := ⟨m.bits ||| n.bits⟩

/-- The bits of both masks. -/
def inter (m n : Mask) : Mask := ⟨m.bits &&& n.bits⟩

/-- The bits of `m` that are not in `n`. -/
def diff (m n : Mask) : Mask := ⟨m.bits &&& ~~~n.bits⟩

/-- The bits of exactly one of the masks. -/
def symmDiff (m n : Mask) : Mask := ⟨m.bits ^^^ n.bits⟩

/-- The declared bits of a mask. -/
def truncate (m : Mask) : Mask := m.inter all

/-- The declared bits that are not set. -/
def complement (m : Mask) : Mask := all.diff m

/-- The bits of a mask that no kind declares. -/
def undeclared (m : Mask) : Mask := m.diff all

/-- A word as a mask, if all its bits are declared. -/
def ofDeclaredBits? (bits : UInt32) : Option Mask :=
  if (Mask.mk bits).undeclared.isEmpty then some ⟨bits⟩ else none

/-- The kinds set in a mask, in declaration order. -/
def kinds (m : Mask) : List Kind := Kind.declared.filter m.has

/-- The names of the kinds set in a mask, in printing order. -/
def names (m : Mask) : List String := (Kind.printed.filter m.has).map Kind.name

/-- A mask taken apart: each of its kinds in declaration order, then its undeclared bits together,
if there are any. -/
def parts (m : Mask) : List Mask :=
  m.kinds.map ofKind ++ (if m.undeclared.isEmpty then [] else [m.undeclared])

/-- The diagnostic text of a mask: its kinds in declaration order, then its undeclared bits as one
hexadecimal number; the empty mask is written as zero. -/
def describe (m : Mask) : String :=
  let rest := if m.undeclared.isEmpty then [] else ["0x" ++ Numeral.hex m.undeclared.bits.toNat]
  let body := if m.isEmpty then "0x0" else " | ".intercalate (m.kinds.map Kind.label ++ rest)
  "EventMask(" ++ body ++ ")"

/-- **The declared bits are these.** -/
theorem bits_all : all.bits = 0x4000efff := by decide

/-- **The truncation of a mask holds declared bits only.** -/
theorem undeclared_truncate (m : Mask) : m.truncate.undeclared.isEmpty = true := by
  simp [truncate, undeclared, isEmpty, inter, diff, UInt32.and_assoc]

end Mask
end Inotify
