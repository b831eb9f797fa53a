/- # A whole run

A monitor watches one path. Its run acquires in four steps, each of which may fail: open a channel,
attach the path, install the signal handlers, print the first line. If all succeed the loop runs.
Whatever was acquired is released before the run ends, whichever step failed.
-/

import Inotify.Loop

namespace Inotify

/-- What can be chosen about a run. -/
structure Options where
  /-- The kinds to subscribe to. -/
  mask : Mask := .subscribable
  /-- The size of the read buffer, in records of the largest size. -/
  bufferRecords : UInt64 := 10
  /-- The format of event lines. -/
  format : Format := .text
deriving DecidableEq, Repr

namespace Options

/-- **The size of the read buffer in bytes**: room for one record at least. The product is one of
64-bit machine words. -/
def bufferSize (o : Options) : UInt64 := max o.bufferRecords 1 * UInt64.ofNat Record.maxSize

end Options

/-- A path to watch, and how. -/
structure Monitor where
  /-- The path. -/
  target : Bytes
  /-- The choices. -/
  options : Options := {}
deriving DecidableEq, Repr

namespace Monitor

/-- What a run meets outside. -/
structure Surroundings where
  /-- The channel that opening one gives. -/
  opening : Except Errno Channel
  /-- What installing the signal handlers comes to. -/
  installing : Except Failure Unit := .ok ()
  /-- Where lines go. -/
  sink : Sink := {}
  /-- The number of the process. -/
  pid : Nat
  /-- What the process remembers of signals. -/
  signals : SignalState := {}

/-- What a run leaves behind. -/
structure Outcome where
  /-- How the run ended. -/
  report : Report
  /-- The calls made, first call first. -/
  calls : List Call
  /-- The sink afterwards. -/
  sink : Sink
  /-- What the process remembers of signals. -/
  signals : SignalState

/-- The end of a run whose setup failed: what was acquired is released. -/
def abandon (failure : Failure) (session : Session) (signals : SignalState) : Outcome :=
  let (cleanup, session) := session.release
  let session := session.drop
  { report := { failure := some failure, cleanup }
    calls := session.channel.calls
    sink := session.sink
    signals }

/-- The end of a run whose setup succeeded: the loop runs. -/
def watch (m : Monitor) (session : Session) (signals : SignalState) : Outcome :=
  let loop :=
    Loop.start session m.options.bufferSize.toNat m.options.format .signalled signals
  let (report, loop) := loop.run
  let session := loop.session.drop
  { report, calls := session.channel.calls, sink := session.sink, signals := loop.signals }

/-- **A whole run**, from opening the channel to the end of the session. -/
def run (m : Monitor) (around : Surroundings) : Outcome :=
  match around.opening with
  | .error e =>
    { report := { failure := some (.setup .initialise e) }
      calls := [.openChannel]
      sink := around.sink
      signals := around.signals }
  | .ok channel =>
    let session : Session :=
      { channel := { channel with calls := [.openChannel] }, sink := around.sink }
    match session.attach m.target m.options.mask with
    | (.error failure, session) => abandon failure session around.signals
    | (.ok _, session) =>
      let session := { session with channel := session.channel.log .installHandlers }
      match around.installing with
      | .error failure => abandon failure session around.signals
      | .ok () =>
        let signals := around.signals.install
        match session.announce around.pid m.target with
        | (.error failure, session) => abandon failure session signals
        | (.ok (), session) => m.watch session signals

end Monitor
end Inotify
