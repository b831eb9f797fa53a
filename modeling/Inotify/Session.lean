/- # Sessions

A session owns an open channel, the sink that lines go to, and the watch that was attached last. It
releases what it holds in the reverse order of acquisition, each thing once: the watch if there is
one, then the channel if it is still open. Each step of a release is announced by a line; a line that
cannot be written does not keep the step from being taken.
-/

import Inotify.Channel
import Inotify.Sink

namespace Inotify

/-- An open channel, the output, and what is attached. -/
structure Session where
  /-- The channel. -/
  channel : Channel
  /-- Where lines go. -/
  sink : Sink
  /-- The watch attached last and not yet detached. -/
  watch : Option Watch := none
  /-- Whether the channel has not been closed yet. -/
  isOpen : Bool := true

namespace Session

/-- **Attaches a path.** The session holds the new watch; after a failure it holds what it held. -/
def attach (s : Session) (path : Bytes) (mask : Mask) : Except Failure Watch × Session :=
  match s.channel.add path mask with
  | (.ok watch, channel) => (.ok watch, { s with channel, watch := some watch })
  | (.error e, channel) => (.error (.setup (.addWatch path) e), { s with channel })

/-- Reads into a buffer. -/
def read (s : Session) (buffer : Bytes) : Channel.Reading × Session :=
  let (reading, channel) := s.channel.read buffer
  (reading, { s with channel })

/-- **Writes one line of text**, given in pieces. -/
def print (s : Session) (pieces : List String) : Except Failure Unit × Session :=
  let (result, sink) := s.sink.writePieces (pieces.map Utf8.encode ++ [[newline]])
  (result.mapError .output, { s with sink })

/-- **Writes one line of bytes.** -/
def printBytes (s : Session) (line : Bytes) : Except Failure Unit × Session :=
  match s.sink.writeAll line with
  | (.ok (), sink) =>
    let (result, sink) := sink.writeAll [newline]
    (result.mapError .output, { s with sink })
  | (.error fault, sink) => (.error (.output fault), { s with sink })

/-- **Writing a line leaves the channel alone.** -/
@[simp] theorem channel_print (s : Session) (pieces : List String) :
    (s.print pieces).2.channel = s.channel := rfl

/-- **Writing a line of bytes leaves the channel alone.** -/
@[simp] theorem channel_printBytes (s : Session) (line : Bytes) :
    (s.printBytes line).2.channel = s.channel := by
  unfold printBytes
  split <;> rfl

/-- The first line of a run: who watches what, through which descriptors. A session without a watch
shows the number -1. -/
def announce (s : Session) (pid : Nat) (path : Bytes) : Except Failure Unit × Session :=
  s.print
    ["PID ", Numeral.decimal pid, " monitoring \"", Utf8.lossy path,
     "\" with inotify file descriptor 0x", Numeral.hexWord s.channel.descriptor,
     " and inotify watch descriptor 0x", (s.watch.getD ⟨-1⟩).hex, "."]

/-- Writes a line and goes on if that fails. -/
def mention (s : Session) (pieces : List String) : Session := (s.print pieces).2

/-- Detaches the watch, if there is one; gives the failure, if it fails. -/
def detach (s : Session) : List Failure × Session :=
  match s.watch with
  | none => ([], s)
  | some watch =>
    let s := s.mention ["Closing inotify watch descriptor 0x", watch.hex, "."]
    match s.channel.remove watch with
    | (.ok (), channel) => ([], { s with channel, watch := none })
    | (.error e, channel) =>
      ([.cleanup (.removeWatch watch) e], { s with channel, watch := none })

/-- Closes the channel, if it is open; gives the failure, if it fails. -/
def close (s : Session) : List Failure × Session :=
  if s.isOpen then
    let descriptor := s.channel.descriptor
    let s := s.mention ["Closing inotify file descriptor 0x", Numeral.hexWord descriptor, "."]
    match s.channel.close with
    | (.ok (), channel) => ([], { s with channel, isOpen := false })
    | (.error e, channel) => ([.cleanup (.close descriptor) e], { s with channel, isOpen := false })
  else ([], s)

/-- **Releases what the session holds**: the watch, then the channel. Gives the failures in the order
in which they happen; both steps are taken whatever happens. -/
def release (s : Session) : List Failure × Session :=
  let (failures, s) := s.detach
  let (failures', s) := s.close
  (failures ++ failures', s)

/-- The end of a session: what it still holds is released. -/
def drop (s : Session) : Session :=
  if s.isOpen ∨ s.watch.isSome then s.release.2 else s

end Session
end Inotify
