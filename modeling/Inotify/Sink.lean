/- # Output sinks

A sink takes bytes one after another and keeps its position: how many line ends it has taken, and how
many bytes since the last of them. Faults wait at positions. A fault strikes before the byte at its
position is taken, so what came before it has been accepted and nothing after it is. Of several
faults at one position the first waiting one strikes. A fault that strikes once is gone afterwards;
an interruption is always of this kind and the write that meets it is tried again, so it is never
seen.
-/

import Inotify.Errno
import Inotify.Text.Utf8

namespace Inotify

/-- The byte that ends a line. -/
def newline : UInt8 := 0x0a

/-- A fault waiting at a position of a sink. -/
structure SinkFault where
  /-- How many line ends come before the position. -/
  line : Nat
  /-- How many bytes of its line come before the position. -/
  column : Nat
  /-- What the write reports. -/
  fault : IoFault
  /-- Whether the fault is gone after it has struck. -/
  once : Bool
deriving DecidableEq, Repr

namespace SinkFault

/-- Whether a fault waits at a position. -/
def isAt (f : SinkFault) (line column : Nat) : Bool := f.line == line && f.column == column

/-- Whether a fault is an interruption, which is met by writing again. -/
def isInterruption (f : SinkFault) : Bool := f.fault == .system Errno.interrupted.code

/-- **What strikes at a position**, and the faults that wait afterwards. -/
def strike (line column : Nat) : List SinkFault → Option IoFault × List SinkFault
  | [] => (none, [])
  | f :: fs =>
    if f.isAt line column then
      if f.isInterruption then strike line column fs
      else (some f.fault, if f.once then fs else f :: fs)
    else
      let (hit, fs') := strike line column fs
      (hit, f :: fs')

end SinkFault

/-- A stream that takes bytes. -/
structure Sink where
  /-- How many line ends it has taken. -/
  line : Nat := 0
  /-- How many bytes it has taken since the last line end. -/
  column : Nat := 0
  /-- The faults that wait. -/
  faults : List SinkFault := []
  /-- The bytes it has taken. -/
  accepted : Array UInt8 := #[]
deriving DecidableEq, Repr

namespace Sink

/-- The bytes that a sink has taken, in order. -/
def output (s : Sink) : Bytes := s.accepted.toList

/-- Takes one byte. -/
def accept (s : Sink) (b : UInt8) : Sink :=
  { s with
    line := if b = newline then s.line + 1 else s.line
    column := if b = newline then 0 else s.column + 1
    accepted := s.accepted.push b }

/-- **An accepted byte comes last in the output.** -/
@[simp] theorem output_accept (s : Sink) (b : UInt8) : (s.accept b).output = s.output ++ [b] := by
  simp [output, accept]

/-- **Writes bytes until all are taken or a fault strikes.** -/
def writeAll : Sink → Bytes → Except IoFault Unit × Sink
  | s, [] => (.ok (), s)
  | s, b :: bs =>
    match SinkFault.strike s.line s.column s.faults with
    | (some fault, faults) => (.error fault, { s with faults })
    | (none, faults) => writeAll ({ s with faults }.accept b) bs

/-- **Writes pieces one after another** until all are taken or a fault strikes. -/
def writePieces : Sink → List Bytes → Except IoFault Unit × Sink
  | s, [] => (.ok (), s)
  | s, p :: ps =>
    match s.writeAll p with
    | (.ok (), s') => writePieces s' ps
    | (.error fault, s') => (.error fault, s')

/-- **Writing two runs of bytes in turn is writing them together.** -/
theorem writeAll_append (s : Sink) (xs ys : Bytes) :
    s.writeAll (xs ++ ys) =
      match s.writeAll xs with
      | (.ok (), s') => s'.writeAll ys
      | (.error fault, s') => (.error fault, s') := by
  induction xs generalizing s with
  | nil => rfl
  | cons x xs ih =>
    simp only [List.cons_append, writeAll]
    split
    · rfl
    · exact ih _

/-- **Writing pieces is writing what they make together.** -/
theorem writePieces_eq_writeAll (s : Sink) (ps : List Bytes) :
    s.writePieces ps = s.writeAll ps.flatten := by
  induction ps generalizing s with
  | nil => rfl
  | cons p ps ih =>
    rw [List.flatten_cons, writeAll_append, writePieces]
    split
    · rw [ih]
    · rfl

end Sink
end Inotify
