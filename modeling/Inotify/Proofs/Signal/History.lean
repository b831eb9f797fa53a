/- # What a process remembers of signals

A process notes every stop signal that its handlers see, and nothing takes the note back: installing the
handlers again does not, and neither does the end of a run. So over a whole history (`Occurrence`), however
often the handlers are installed in it, a stop signal has been seen exactly if one arrived after they were
installed some time, be it the first (`SignalState.sawStop_liveAll`).

A run of a loop adds to this history the signals that arrive during the reads it makes
(`Loop.signals_iterate`). A run of a monitor that starts when a signal has been seen installs the handlers
and stops before its first read, as if the signal had been sent to it (`Monitor.SetUp.reads_iff`).
-/

import Inotify.Proofs.Loop.Cutoff
import Inotify.Proofs.Monitor.Bracket

namespace Inotify

namespace SignalState

/-- What a process notes about signals. -/
inductive Event where
  /-- The stop handlers are installed. -/
  | install
  /-- A stop signal arrives. -/
  | arrive (signal : Signal)
deriving DecidableEq, Repr

/-- **A stop signal arrives behind an installing of the handlers**, the first or any other. -/
def Heeded (events : List Event) : Prop :=
  ∃ front back signal, events = front ++ .install :: back ∧ .arrive signal ∈ back

/-- The process after an event. -/
def note (p : SignalState) : Event → SignalState
  | .install => p.install
  | .arrive signal => p.deliver signal

/-- The process after events one after another. -/
def noteAll (p : SignalState) (events : List Event) : SignalState := events.foldl note p

/-- **What is noted in turn is noted together.** -/
theorem noteAll_append (p : SignalState) (events more : List Event) :
    p.noteAll (events ++ more) = (p.noteAll events).noteAll more := List.foldl_append

/-- **Where nothing happens nothing is heeded.** -/
theorem not_heeded_nil : ¬Heeded [] := by
  rintro ⟨front, back, -, heq, -⟩
  exact List.append_ne_nil_of_right_ne_nil front (List.cons_ne_nil _ back) heq.symm

/-- **Once the handlers are installed every signal is heeded.** -/
theorem heeded_install_cons (events : List Event) :
    Heeded (.install :: events) ↔ ∃ signal, .arrive signal ∈ events := by
  constructor
  · rintro ⟨front, back, signal, heq, hsignal⟩
    cases front with
    | nil =>
      obtain rfl := (List.cons.inj heq).2
      exact ⟨signal, hsignal⟩
    | cons event front =>
      obtain rfl := (List.cons.inj heq).2
      exact ⟨signal, List.mem_append_right front (List.mem_cons_of_mem _ hsignal)⟩
  · rintro ⟨signal, hsignal⟩
    exact ⟨[], events, signal, rfl, hsignal⟩

/-- **What is heeded arrives.** -/
theorem exists_arrive_of_heeded {events : List Event} :
    Heeded events → ∃ signal, .arrive signal ∈ events := by
  rintro ⟨front, back, signal, rfl, hsignal⟩
  exact ⟨signal, List.mem_append_right front (List.mem_cons_of_mem _ hsignal)⟩

/-- **A signal that arrives before anything else has no part in what is heeded.** -/
theorem heeded_arrive_cons (signal : Signal) (events : List Event) :
    Heeded (.arrive signal :: events) ↔ Heeded events := by
  constructor
  · rintro ⟨front, back, heeded, heq, hheeded⟩
    cases front with
    | nil => cases (List.cons.inj heq).1
    | cons event front => exact ⟨front, back, heeded, (List.cons.inj heq).2, hheeded⟩
  · rintro ⟨front, back, heeded, rfl, hheeded⟩
    exact ⟨.arrive signal :: front, back, heeded, rfl, hheeded⟩

/-- **When a stop signal has been seen**: it had been seen before, or the handlers were installed and one
arrived, or they were installed in the course of events and one arrived behind that. -/
theorem sawStop_noteAll (p : SignalState) (events : List Event) :
    (p.noteAll events).sawStop = true ↔
      p.sawStop = true ∨ (p.handling = true ∧ ∃ signal, .arrive signal ∈ events) ∨ Heeded events := by
  -- For every process at once, since the first event changes what the others find.
  induction events generalizing p with
  | nil => simp [noteAll, not_heeded_nil]
  | cons event events ih =>
    show ((p.note event).noteAll events).sawStop = true ↔ _
    rw [ih]
    cases event with
    | install =>
      have hseen : (p.note .install).sawStop = p.sawStop := rfl
      have hhandling : (p.note .install).handling = true := rfl
      have harrives : (∃ signal, Event.arrive signal ∈ Event.install :: events) ↔
          ∃ signal, .arrive signal ∈ events := by simp
      rw [hseen, hhandling, heeded_install_cons, harrives, and_iff_right rfl,
        or_iff_left_of_imp exists_arrive_of_heeded, or_iff_right_of_imp And.right]
    | arrive signal =>
      have hseen : (p.note (.arrive signal)).sawStop = (p.sawStop || p.handling) :=
        p.sawStop_deliver signal
      have hhandling : (p.note (.arrive signal)).handling = p.handling := p.handling_deliver signal
      have harrives : ∃ other, Event.arrive other ∈ Event.arrive signal :: events :=
        ⟨signal, List.mem_cons_self⟩
      rw [hseen, hhandling, heeded_arrive_cons, Bool.or_eq_true, and_iff_left harrives, or_assoc,
        ← or_assoc (a := p.handling = true), or_iff_left_of_imp And.left]

/-- **What is heeded, seen from one installing of the handlers**: it was heeded before, or arrives
later. -/
theorem heeded_append_install (front back : List Event) :
    Heeded (front ++ .install :: back) ↔ Heeded front ∨ ∃ signal, .arrive signal ∈ back := by
  induction front with
  | nil => rw [List.nil_append, heeded_install_cons, or_iff_right not_heeded_nil]
  | cons event front ih =>
    rw [List.cons_append]
    cases event with
    | install =>
      have hmem : ∀ signal, Event.arrive signal ∈ front ++ .install :: back ↔
          .arrive signal ∈ front ∨ .arrive signal ∈ back := by simp
      rw [heeded_install_cons, heeded_install_cons, exists_congr hmem, exists_or]
    | arrive signal => rw [heeded_arrive_cons, heeded_arrive_cons, ih]

end SignalState

namespace Loop

/-- What the process notes of an answer to a read. -/
def arrival? (answer : ReadAnswer) : Option SignalState.Event := answer.signal.map .arrive

/-- The answers that the rounds of a loop use up. -/
def answersUsed (l : Loop) : List ReadAnswer :=
  l.session.channel.reads.take
    (l.session.channel.reads.length - l.iterate.2.session.channel.reads.length)

/-- **The signals that arrive during the reads of a loop.** -/
def arrivals (l : Loop) : List SignalState.Event := l.answersUsed.filterMap arrival?

/-- **After some reads the process has noted the signals that came with them.** -/
theorem signalsAfter_eq_noteAll (l : Loop) (n : Nat) :
    l.signalsAfter n = l.signals.noteAll ((l.session.channel.reads.take n).filterMap arrival?) := by
  induction n with
  | zero => rfl
  | succ n ih =>
    rw [signalsAfter, ih, List.take_add_one, List.filterMap_append, SignalState.noteAll_append, answerAt]
    cases l.session.channel.reads[n]? with
    | none => rfl
    | some answer =>
      show SignalState.deliver? _ answer.signal = _
      cases hsignal : answer.signal with
      | none => simp [arrival?, hsignal, SignalState.noteAll, SignalState.deliver?]
      | some signal =>
        simp [arrival?, hsignal, SignalState.noteAll, SignalState.deliver?, SignalState.note]

/-- **The rounds of a loop leave noted the signals that arrive during its reads.** -/
theorem signals_iterate (l : Loop) : l.iterate.2.signals = l.signals.noteAll l.arrivals := by
  obtain ⟨_, _, _, _, _, k, made, _, _, hiterate, -⟩ := l.exists_front
  -- The answers that are left are those behind the ones that were used up, so these can be told.
  have hused : l.answersUsed = l.session.channel.reads.take made := by
    have hleft : l.iterate.2.session.channel.reads = l.session.channel.reads.drop made := by
      rw [hiterate]
      rfl
    rw [answersUsed, hleft, List.take_eq_take_iff, List.length_drop]
    omega
  rw [arrivals, hused, hiterate, ← signalsAfter_eq_noteAll]
  rfl

end Loop

/-- What happens in the life of a process. -/
inductive Occurrence where
  /-- The handlers are installed, or a stop signal arrives. -/
  | event (event : SignalState.Event)
  /-- A loop is run to its end. -/
  | run (l : Loop)

namespace SignalState

/-- **The process after an occurrence.** A loop is run in the process as it is then. -/
def live (p : SignalState) : Occurrence → SignalState
  | .event event => p.note event
  | .run l => { l with signals := p : Loop }.run.2.signals

/-- The events in an occurrence. -/
def eventsOf (p : SignalState) : Occurrence → List Event
  | .event event => [event]
  | .run l => { l with signals := p : Loop }.arrivals

/-- The process after a history. -/
def liveAll (p : SignalState) (history : List Occurrence) : SignalState := history.foldl live p

/-- The events in a history. -/
def eventsIn (p : SignalState) : List Occurrence → List Event
  | [] => []
  | occurrence :: history => p.eventsOf occurrence ++ (p.live occurrence).eventsIn history

/-- **An occurrence leaves noted the events in it.** -/
theorem live_eq_noteAll (p : SignalState) (occurrence : Occurrence) :
    p.live occurrence = p.noteAll (p.eventsOf occurrence) := by
  cases occurrence with
  | event event => rfl
  | run l => exact Loop.signals_iterate _

/-- **A history leaves noted the events in it.** -/
theorem liveAll_eq_noteAll (p : SignalState) (history : List Occurrence) :
    p.liveAll history = p.noteAll (p.eventsIn history) := by
  induction history generalizing p with
  | nil => rfl
  | cons occurrence history ih =>
    rw [eventsIn, noteAll_append, ← live_eq_noteAll, ← ih]
    rfl

end SignalState

namespace Monitor

variable {m : Monitor} {around : Surroundings} {channel : Channel} {watch : Watch}

/-- **To the process, a run whose setup succeeds is an installing of the handlers and the run of a
loop.** -/
theorem SetUp.signals_eq (h : m.SetUp around channel watch) :
    (m.run around).signals =
      around.signals.liveAll [.event .install, .run (m.begun around channel watch)] := by
  rw [h.run_eq]
  rfl

/-- **A run that finds a stop signal seen ends cleanly.** -/
theorem SetUp.failure_of_seen (h : m.SetUp around channel watch)
    (hseen : around.signals.sawStop = true) : (m.run around).report.failure = none := by
  have htold := Loop.iterate_of_told ((m.ask_begun around channel watch).trans hseen)
  rw [h.run_eq, htold]
  rfl

end Monitor

namespace SignalState

/-- A process in which nothing has happened yet. -/
def fresh : SignalState := {}

/-- **What a process remembers of its whole history.** It has seen a stop signal exactly if one was
heeded. So, seen from any installing of the handlers, the last one too, it has if one was heeded before
that or arrived since. A monitor that runs then and sets up reads exactly if none was heeded; if one was,
the run ends without a failure. -/
theorem sawStop_liveAll (history : List Occurrence) :
    ((fresh.liveAll history).sawStop = true ↔ Heeded (fresh.eventsIn history)) ∧
      (∀ front back, fresh.eventsIn history = front ++ .install :: back →
        ((fresh.liveAll history).sawStop = true ↔ Heeded front ∨ ∃ signal, .arrive signal ∈ back)) ∧
      ∀ (m : Monitor) around channel watch, around.signals = fresh.liveAll history →
        m.SetUp around channel watch →
        ((∃ size, .read size ∈ (m.run around).calls) ↔ ¬Heeded (fresh.eventsIn history)) ∧
        (Heeded (fresh.eventsIn history) → (m.run around).report.failure = none) := by
  have hseen : (fresh.liveAll history).sawStop = true ↔ Heeded (fresh.eventsIn history) := by
    rw [liveAll_eq_noteAll, sawStop_noteAll]
    simp [fresh, sawStop]
  refine ⟨hseen, fun front back hevents => ?_, fun m around channel watch hsignals hsetUp => ⟨?_, ?_⟩⟩
  · rw [hseen, hevents, heeded_append_install]
  · rw [hsetUp.reads_iff, hsignals, ← hseen, Bool.not_eq_true]
  · intro hheeded
    exact hsetUp.failure_of_seen (hsignals ▸ hseen.2 hheeded)

/-- A history in which the handlers are installed and a loop is stopped by a signal. -/
def stoppedHistory : List Occurrence :=
  [.event .install,
    .run (Loop.start
      (Session.fresh { reads := [{ signal := some .interrupt, result := .error .interrupted }] } {})
      16 .text .signalled {})]

/-- What a run meets after that history. -/
def afterStop : Monitor.Surroundings :=
  { opening := .ok {}, pid := 1, signals := fresh.liveAll stoppedHistory }

/-- The hypotheses of `sawStop_liveAll` are satisfiable: a run after the history of a stopped loop sets
up, and does not read. -/
theorem sawStop_liveAll_stopped :
    fresh.eventsIn stoppedHistory = [] ++ .install :: [.arrive .interrupt] ∧
      afterStop.signals = fresh.liveAll stoppedHistory ∧
      (⟨[0x2f], {}⟩ : Monitor).SetUp afterStop {} ⟨1⟩ ∧
      (fresh.liveAll stoppedHistory).sawStop = true ∧
      (¬∃ size, .read size ∈ ((⟨[0x2f], {}⟩ : Monitor).run afterStop).calls) ∧
      ((⟨[0x2f], {}⟩ : Monitor).run afterStop).report.failure = none := by
  have hevents : fresh.eventsIn stoppedHistory = [] ++ .install :: [.arrive .interrupt] := by
    decide +kernel
  have hsetUp : (⟨[0x2f], {}⟩ : Monitor).SetUp afterStop {} ⟨1⟩ :=
    { opening := rfl
      attaching := rfl
      installing := rfl
      banner := Sink.unfailing_of_interruptions (by decide) _ }
  obtain ⟨hseen, hsince, hrun⟩ := sawStop_liveAll stoppedHistory
  have hlive := (hsince _ _ hevents).2 (.inr ⟨.interrupt, List.mem_singleton_self _⟩)
  obtain ⟨hreads, hfailure⟩ := hrun _ afterStop {} ⟨1⟩ rfl hsetUp
  exact ⟨hevents, rfl, hsetUp, hlive, fun hread => hreads.1 hread (hseen.1 hlive),
    hfailure (hseen.1 hlive)⟩

/-- **A stop request outlasts a new installing of the handlers.** A loop is stopped by a signal and the
handlers are installed again. No signal has arrived since, and yet one counts as seen, and the run that
installed the handlers for the second time stops before its first read. -/
theorem stop_outlasts_install :
    fresh.eventsIn (stoppedHistory ++ [.event .install]) =
        [.install, .arrive .interrupt] ++ .install :: [] ∧
      (fresh.liveAll (stoppedHistory ++ [.event .install])).sawStop = true ∧
      ((⟨[0x2f], {}⟩ : Monitor).run afterStop).calls =
        [.openChannel, .add [0x2f] .subscribable, .installHandlers, .remove ⟨1⟩, .close] := by
  decide +kernel

end SignalState
end Inotify
