/- # The watch loop

The loop repeats one step: ask whether to stop, read, say how much was read, print the events. It
ends for one of five causes, and the session is released whichever it is:

| cause | failure |
| --- | --- |
| the stop check says so, before a read | none |
| the read is interrupted | none |
| the read fails otherwise | `read` |
| what was read is not a sequence of records | `decode`, after the records before the fault |
| a line cannot be written | `output` |

Every step that does not end the loop uses up an answer of the channel, so the loop ends: past the
last answer a read is interrupted. The buffer is kept from read to read; a read that stores less than
it claims shows what earlier reads left there.
-/

import Inotify.Line
import Inotify.SignalState
import Inotify.Session

namespace Inotify

/-- What the loop asks before each read. -/
inductive StopCheck where
  /-- Answers fixed beforehand, by how many times the loop has asked. -/
  | schedule (answer : Nat → Bool)
  /-- Whether the process has seen a stop signal. -/
  | signalled

/-- Where a loop stands between runs. -/
inductive Phase where
  /-- It has not run yet. -/
  | initial
  /-- Its last run has ended. -/
  | stopped
deriving DecidableEq, Repr

/-- The word for a phase. -/
def Phase.describe : Phase → String
  | initial => "Init"
  | stopped => "Stopped"

/-- A loop over a session. -/
structure Loop where
  /-- The session. -/
  session : Session
  /-- The read buffer. -/
  buffer : Bytes
  /-- The format of event lines. -/
  format : Format
  /-- What is asked before each read. -/
  stopCheck : StopCheck
  /-- How often it has been asked. -/
  asked : Nat := 0
  /-- What the process remembers of signals. -/
  signals : SignalState
  /-- Where the loop stands. -/
  phase : Phase := .initial

/-- What one step of a loop comes to. -/
inductive Loop.Step where
  /-- The loop goes on. -/
  | continues (l : Loop)
  /-- The loop ends, with the failure that ended it if there was one. -/
  | stops (failure : Option Failure) (l : Loop)

namespace Session

/-- **Prints the events of one read**, up to the first fault. Gives the failure, if there is one. -/
def printEvents (format : Format) : List (Except DecodeFault Record) → Session →
    Option Failure × Session
  | [], s => (none, s)
  | .error fault :: _, s => (some (.decode fault), s)
  | .ok r :: items, s =>
    match s.printBytes (format.render r) with
    | (.ok (), s) => printEvents format items s
    | (.error failure, s) => (some failure, s)

/-- **Printing events leaves the channel alone.** -/
@[simp] theorem channel_printEvents (format : Format) (items : List (Except DecodeFault Record))
    (s : Session) : (s.printEvents format items).2.channel = s.channel := by
  induction items generalizing s with
  | nil => rfl
  | cons item items ih =>
    cases item with
    | error fault => rfl
    | ok r =>
      have hc := channel_printBytes s (format.render r)
      unfold printEvents
      split
      · next heq => rw [ih]; rw [heq] at hc; exact hc
      · next heq => rw [heq] at hc; exact hc

end Session

namespace Loop

/-- A loop that has not run, with a fresh buffer of a size. -/
def start (session : Session) (capacity : Nat) (format : Format) (stopCheck : StopCheck)
    (signals : SignalState) : Loop :=
  { session, buffer := List.replicate capacity 0, format, stopCheck, signals }

/-- Asks whether to stop. -/
def ask (l : Loop) : Bool × Loop :=
  let answer := match l.stopCheck with
    | .schedule answer => answer l.asked
    | .signalled => l.signals.sawStop
  (answer, { l with asked := l.asked + 1 })

/-- Reads into the buffer; a signal may arrive meanwhile. -/
def read (l : Loop) : Except Errno Nat × Loop :=
  let (reading, session) := l.session.read l.buffer
  (reading.result,
   { l with session, buffer := reading.buffer, signals := l.signals.deliver? reading.signal })

/-- Says how much was read and prints the events in the buffer. -/
def print (l : Loop) (count : Nat) : Step :=
  match l.session.print
      ["Read ", Numeral.decimal count, " bytes from inotify file descriptor 0x",
       Numeral.hexWord l.session.channel.descriptor, "."] with
  | (.error failure, session) => .stops (some failure) { l with session }
  | (.ok (), session) =>
    match session.printEvents l.format (events l.buffer count) with
    | (some failure, session) => .stops (some failure) { l with session }
    | (none, session) => .continues { l with session }

/-- **One step**: ask, read, print. -/
def step (l : Loop) : Step :=
  match l.ask with
  | (true, l) => .stops none l
  | (false, l) =>
    match l.read with
    | (.ok count, l) => l.print count
    | (.error e, l) => .stops (if e = .interrupted then none else some (.read e)) l

/-- **Printing leaves the channel alone.** -/
theorem channel_of_print {l l' : Loop} {count : Nat} (h : l.print count = .continues l') :
    l'.session.channel = l.session.channel := by
  unfold print at h
  split at h
  · simp at h
  · next session heq =>
    have hs : session.channel = l.session.channel := by
      rw [← Session.channel_print l.session, heq]
    split at h
    · simp at h
    · next session' heq' =>
      obtain rfl := Step.continues.inj h
      rw [← hs, ← Session.channel_printEvents l.format (events l.buffer count) session, heq']

/-- **A loop that goes on has used up an answer of its channel.** -/
theorem length_reads_of_step {l l' : Loop} (h : l.step = .continues l') :
    l'.session.channel.reads.length < l.session.channel.reads.length := by
  unfold step at h
  split at h
  · simp at h
  · next l₁ hask =>
    have h₁ : l₁.session = l.session := by
      simp only [ask, Prod.mk.injEq] at hask
      rw [← hask.2]
    split at h
    · next count l₂ hread =>
      rw [channel_of_print h]
      simp only [read, Session.read, Prod.mk.injEq] at hread
      obtain ⟨hcount, rfl⟩ := hread
      rw [← h₁]
      exact Channel.length_reads_read_lt hcount
    · simp at h

/-- **Repeats the step until it ends the loop.** -/
def iterate (l : Loop) : Option Failure × Loop :=
  match h : l.step with
  | .stops failure l' => (failure, l')
  | .continues l' =>
    have := length_reads_of_step h
    iterate l'
termination_by l.session.channel.reads.length

/-- **Runs the loop to its end and releases the session.** -/
def run (l : Loop) : Report × Loop :=
  let (failure, l) := l.iterate
  let (cleanup, session) := l.session.release
  ({ failure, cleanup }, { l with session, phase := .stopped })

end Loop
end Inotify
