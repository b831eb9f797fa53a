/- # Stop signals

A process notes the last stop signal that its handlers saw and never forgets it: neither a later run
nor installing the handlers again clears the note. A handler also writes a fixed message to the
standard output.
-/

import Inotify.Channel

namespace Inotify

/-- What a process remembers of signals. -/
structure SignalState where
  /-- Whether the stop handlers are installed. -/
  handling : Bool := false
  /-- The last stop signal seen. -/
  received : Option Signal := none
  /-- What the handlers have written. -/
  written : Bytes := []
deriving DecidableEq, Repr

namespace SignalState

/-- What a handler writes. -/
def stopMessage : String := "\nReceived signal.\n"

/-- Installs the stop handlers. -/
def install (p : SignalState) : SignalState := { p with handling := true }

/-- **A stop signal arrives**: the handler notes it and writes its message. Without a handler the
signal ends the process, so there is nothing left to describe and the process stays as it is. -/
def deliver (p : SignalState) (signal : Signal) : SignalState :=
  if p.handling then
    { p with received := some signal, written := p.written ++ Utf8.encode stopMessage }
  else p

/-- A signal arrives, or none does. -/
def deliver? (p : SignalState) : Option Signal → SignalState
  | none => p
  | some signal => p.deliver signal

/-- Whether a stop signal has been seen. -/
def sawStop (p : SignalState) : Bool := p.received.isSome

/-- **A signal leaves the handlers as they are.** -/
@[simp] theorem handling_deliver (p : SignalState) (signal : Signal) :
    (p.deliver signal).handling = p.handling := by
  unfold deliver
  split <;> rfl

/-- **A signal is seen if the handlers are installed**, and no signal is forgotten. -/
@[simp] theorem sawStop_deliver (p : SignalState) (signal : Signal) :
    (p.deliver signal).sawStop = (p.sawStop || p.handling) := by
  unfold deliver
  split
  · next h => rw [h, Bool.or_true]; rfl
  · next h => rw [Bool.eq_false_iff.2 h, Bool.or_false]

/-- **So does the absence of one.** -/
@[simp] theorem handling_deliver? (p : SignalState) (signal : Option Signal) :
    (p.deliver? signal).handling = p.handling := by
  cases signal with
  | none => rfl
  | some signal => exact p.handling_deliver signal

/-- **A process that has seen a stop signal has seen it after the next one, too.** -/
theorem sawStop_deliver? {p : SignalState} (h : p.sawStop = true) (signal : Option Signal) :
    (p.deliver? signal).sawStop = true := by
  cases signal with
  | none => exact h
  | some signal => rw [deliver?, sawStop_deliver, h, Bool.true_or]

/-- **One of several signals is seen if there is one and the handlers are installed.** -/
theorem sawStop_foldl_deliver (p : SignalState) (signals : List Signal) :
    (signals.foldl deliver p).sawStop = (p.sawStop || (p.handling && !signals.isEmpty)) := by
  induction signals generalizing p with
  | nil => simp
  | cons signal signals ih =>
    rw [List.foldl_cons, ih, sawStop_deliver, handling_deliver]
    cases p.handling <;> simp

end SignalState
end Inotify
