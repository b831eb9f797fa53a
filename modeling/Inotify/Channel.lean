/- # Notification channels

A channel is an open kernel handle: paths are attached to it, watches detached from it, records read
from it, and in the end it is closed. What it answers is fixed beforehand, one answer per call, so a
run over it can be told from its beginning. Past the last answer attaching succeeds with watch 1,
detaching and closing succeed, and a read is interrupted.

Every call is logged, in the order in which the calls are made.
-/

import Inotify.Failure

namespace Inotify

/-- A call that a run makes on the outside. -/
inductive Call where
  /-- Opening a channel. -/
  | openChannel
  /-- Attaching a path. -/
  | add (path : Bytes) (mask : Mask)
  /-- Installing the signal handlers. -/
  | installHandlers
  /-- Reading into a buffer of a size. -/
  | read (size : Nat)
  /-- Detaching a watch. -/
  | remove (watch : Watch)
  /-- Closing the channel. -/
  | close
deriving DecidableEq, Repr

/-- What a successful read delivers. -/
structure Delivery where
  /-- The bytes that arrive. -/
  data : Bytes
  /-- How many bytes the read claims to have stored. -/
  count : Nat
deriving DecidableEq, Repr

/-- The answer to one read. -/
structure ReadAnswer where
  /-- A signal that arrives while the read is under way. -/
  signal : Option Signal := none
  /-- What the read comes to. -/
  result : Except Errno Delivery

/-- The answer to every read past the last one. -/
def ReadAnswer.interrupted : ReadAnswer := { result := .error .interrupted }

/-- An open channel and the answers it will give. -/
structure Channel where
  /-- The number of its descriptor. -/
  descriptor : Int32 := 3
  /-- Answers to attaching. -/
  adds : List (Except Errno Watch) := []
  /-- Answers to detaching. -/
  removes : List (Except Errno Unit) := []
  /-- Answers to closing. -/
  closes : List (Except Errno Unit) := []
  /-- Answers to reading. -/
  reads : List ReadAnswer := []
  /-- The calls made so far, first call first. -/
  calls : List Call := []

namespace Channel

/-- The channel after a call. -/
def log (c : Channel) (call : Call) : Channel := { c with calls := c.calls ++ [call] }

/-- Attaches a path. -/
def add (c : Channel) (path : Bytes) (mask : Mask) : Except Errno Watch × Channel :=
  (c.adds.head?.getD (.ok ⟨1⟩), { c.log (.add path mask) with adds := c.adds.tail })

/-- Detaches a watch. -/
def remove (c : Channel) (watch : Watch) : Except Errno Unit × Channel :=
  (c.removes.head?.getD (.ok ()), { c.log (.remove watch) with removes := c.removes.tail })

/-- Closes the channel. -/
def close (c : Channel) : Except Errno Unit × Channel :=
  (c.closes.head?.getD (.ok ()), { c.log .close with closes := c.closes.tail })

/-- **Stores delivered bytes at the front of a buffer**, as many as fit, and leaves the rest of the
buffer as it was. -/
def fill (buffer data : Bytes) : Bytes := data.take buffer.length ++ buffer.drop data.length

/-- **Filling keeps the size of a buffer.** -/
@[simp] theorem length_fill (buffer data : Bytes) : (fill buffer data).length = buffer.length := by
  simp [fill]
  omega

/-- What a read leaves behind. -/
structure Reading where
  /-- The claimed count, or the error. -/
  result : Except Errno Nat
  /-- The buffer afterwards. -/
  buffer : Bytes
  /-- The signal that arrived meanwhile. -/
  signal : Option Signal

/-- Reads into a buffer. -/
def read (c : Channel) (buffer : Bytes) : Reading × Channel :=
  let answer := c.reads.head?.getD .interrupted
  let reading : Reading :=
    match answer.result with
    | .error e => ⟨.error e, buffer, answer.signal⟩
    | .ok d => ⟨.ok d.count, fill buffer d.data, answer.signal⟩
  (reading, { c.log (.read buffer.length) with reads := c.reads.tail })

/-- **A read that does not find the answers used up leaves one fewer.** -/
theorem length_reads_read_lt {c : Channel} {buffer : Bytes} {n : Nat}
    (h : (c.read buffer).1.result = .ok n) : (c.read buffer).2.reads.length < c.reads.length := by
  cases hr : c.reads with
  | nil => simp [read, hr, ReadAnswer.interrupted] at h
  | cons a as => simp [read, hr, log]

end Channel
end Inotify
