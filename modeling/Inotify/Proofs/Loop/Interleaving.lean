/- # Signals between the steps of a round

A round asks whether to stop and then reads. These are two steps, and a stop signal can arrive between
them. So a round is taken apart here: the loop goes from stage to stage (`Moment.go`), and at each stage a
signal may arrive (`Moment.struck`). It interrupts a read that is under way; at any other stage it is
noted, and nobody looks at the note before the next question. Left alone, the stages come to the rounds
of the loop (`play_step`, `play_iterate`).

A read is started late if a stop signal has been seen by then. That is so exactly if the signal arrived
between the question before the read and the read itself, and no read is started after a late one
(`late_iff`).
-/

import Mathlib.Data.List.Induction
import Inotify.Proofs.Loop.Frame

namespace Inotify
namespace Loop

/-- **A loop that asks for stop signals is told what the process has seen.** -/
theorem ask_signalled {l : Loop} (h : l.stopCheck = .signalled) : l.ask.1 = l.signals.sawStop := by
  rw [ask, h]

/-- How far a round has got. -/
inductive Stage where
  /-- The loop is about to ask whether to stop. -/
  | asking
  /-- It was not told to stop and is about to read. -/
  | cleared
  /-- The read is under way. -/
  | reading
  /-- The read has come back. -/
  | answered (result : Except Errno Nat)
  /-- The loop has ended. -/
  | ended (failure : Option Failure)

/-- A loop in the middle of a round. -/
structure Moment where
  /-- How far the round has got. -/
  stage : Stage
  /-- The loop as it is then. -/
  loop : Loop

/-- What happens next. -/
inductive Act where
  /-- The loop takes its next step. -/
  | go
  /-- A stop signal arrives. -/
  | signal (signal : Signal)

namespace Moment

/-- **The next step of the loop.** -/
def go (m : Moment) : Moment :=
  match m.stage with
  | .asking => ⟨if m.loop.ask.1 then .ended none else .cleared, m.loop.ask.2⟩
  | .cleared => ⟨.reading, m.loop⟩
  | .reading => ⟨.answered m.loop.read.1, m.loop.read.2⟩
  | .answered (.ok count) =>
    match m.loop.print count with
    | .continues l => ⟨.asking, l⟩
    | .stops failure l => ⟨.ended failure, l⟩
  | .answered (.error e) => ⟨.ended (if e = .interrupted then none else some (.read e)), m.loop⟩
  | .ended _ => m

end Moment

/-- The loop with a read under way that a signal will interrupt. The answer that was to come is kept for
the next read. -/
def facing (l : Loop) (signal : Signal) : Loop :=
  { l with session.channel.reads :=
      { signal := some signal, result := .error .interrupted } :: l.session.channel.reads }

namespace Moment

/-- **A stop signal arrives**: it interrupts a read that is under way, and else it is noted only. -/
def struck (m : Moment) (signal : Signal) : Moment :=
  match m.stage with
  | .reading => ⟨.answered (m.loop.facing signal).read.1, (m.loop.facing signal).read.2⟩
  | stage => ⟨stage, { m.loop with signals := m.loop.signals.deliver signal }⟩

/-- One act. -/
def act (m : Moment) : Act → Moment
  | .go => m.go
  | .signal signal => m.struck signal

/-- Acts one after another, the steps of the loop and the signals in any order. -/
def play (m : Moment) (acts : List Act) : Moment := acts.foldl act m

/-- **What is played in turn is played together.** -/
theorem play_append (m : Moment) (acts more : List Act) :
    m.play (acts ++ more) = (m.play acts).play more := List.foldl_append

/-- **A late read**: the next step starts a read although a stop signal has been seen. -/
structure Late (m : Moment) : Prop where
  /-- The next step starts a read. -/
  stage : m.stage = .cleared
  /-- A stop signal has been seen. -/
  seen : m.loop.signals.sawStop = true

/-- **A signal that meets a read under way ends the loop** without a failure. The answer that was to come
is still to come. -/
theorem play_interrupted (l : Loop) (signal : Signal) :
    (⟨.reading, l⟩ : Moment).play [.signal signal, .go] =
      ⟨.ended none, { l with
        session.channel := l.session.channel.log (.read l.buffer.length)
        signals := l.signals.deliver signal }⟩ := rfl

end Moment

/-- The loop before its first step. -/
def poised (l : Loop) : Moment := ⟨.asking, l⟩

/-- Where a round leaves a loop. -/
def Step.moment : Step → Moment
  | continues l => ⟨.asking, l⟩
  | stops failure l => ⟨.ended failure, l⟩

/-- **Left alone, the loop takes a round in four steps**: it asks, starts the read, gets the answer and
prints. -/
theorem play_step (l : Loop) : l.poised.play [.go, .go, .go, .go] = l.step.moment := by
  have hgo : l.poised.go = ⟨if l.ask.1 then .ended none else .cleared, l.ask.2⟩ := rfl
  show l.poised.go.go.go.go = _
  rw [hgo, step]
  obtain ⟨told, l⟩ := l.ask
  cases told with
  -- The loop has ended with the first step, and the others find nothing to do.
  | true => rfl
  | false =>
    show (⟨.answered l.read.1, l.read.2⟩ : Moment).go = _
    dsimp only
    obtain ⟨result, l⟩ := l.read
    cases result with
    | error e => rfl
    | ok count =>
      dsimp only [Moment.go]
      cases l.print count <;> rfl

/-- **Left alone, the loop ends as its rounds do.** -/
theorem play_iterate (l : Loop) :
    ∃ n, l.poised.play (List.replicate n .go) = ⟨.ended l.iterate.1, l.iterate.2⟩ := by
  induction l using iterate.induct with
  | case1 l failure l' h =>
    have hround := l.play_step
    rw [h] at hround
    refine ⟨4, ?_⟩
    rw [iterate_of_stops h]
    exact hround
  | case2 l l' h _ ih =>
    obtain ⟨n, hn⟩ := ih
    have hround := l.play_step
    rw [h] at hround
    refine ⟨4 + n, ?_⟩
    rw [iterate_of_continues h, ← hn, ← List.replicate_append_replicate, Moment.play_append]
    exact congrArg (Moment.play · (List.replicate n .go)) hround

namespace Moment

/-- **What an act changes about the signals**: one may be noted. What the loop asks stays. -/
theorem act_frame (m : Moment) (act : Act) :
    ∃ arrival, (m.act act).loop.stopCheck = m.loop.stopCheck ∧
      (m.act act).loop.signals = m.loop.signals.deliver? arrival := by
  obtain ⟨stage, l⟩ := m
  cases act with
  | signal signal => cases stage <;> exact ⟨some signal, rfl, rfl⟩
  | go =>
    cases stage with
    | reading => exact ⟨_, rfl, rfl⟩
    | asking | cleared | ended failure => exact ⟨none, rfl, rfl⟩
    | answered result =>
      refine ⟨none, ?_⟩
      cases result with
      | error e => exact ⟨rfl, rfl⟩
      | ok count =>
        -- Printing changes the session only, whether the loop goes on or not.
        have hprint := l.print_frame count
        show (Moment.go ⟨.answered (.ok count), l⟩).loop.stopCheck = _ ∧ _
        dsimp only [act, go]
        cases heq : l.print count with
        | continues l' | stops failure l' =>
          rw [heq] at hprint
          obtain rfl : l' = _ := hprint
          exact ⟨rfl, rfl⟩

/-- **What acts leave alone**: what the loop asks, whether the handlers are installed, and a stop signal
that has been seen. -/
structure Since (m m' : Moment) : Prop where
  /-- The loop asks the same. -/
  stopCheck : m'.loop.stopCheck = m.loop.stopCheck
  /-- The handlers are as they were. -/
  handling : m'.loop.signals.handling = m.loop.signals.handling
  /-- No signal is forgotten. -/
  seen : m.loop.signals.sawStop = true → m'.loop.signals.sawStop = true

/-- **Acts leave all this alone.** -/
theorem since_play (m : Moment) (acts : List Act) : m.Since (m.play acts) := by
  induction acts generalizing m with
  | nil => exact ⟨rfl, rfl, id⟩
  | cons act acts ih =>
    obtain ⟨arrival, hcheck, hsignals⟩ := m.act_frame act
    have hrest := ih (m.act act)
    exact {
      stopCheck := hrest.stopCheck.trans hcheck
      handling := by
        rw [play, List.foldl_cons, ← play, hrest.handling, hsignals, SignalState.handling_deliver?]
      seen := fun hseen => hrest.seen (hsignals ▸ SignalState.sawStop_deliver? hseen arrival) }

/-- **The loop is about to read only if it has just been let read.** -/
theorem asking_of_go_cleared {m : Moment} (h : m.go.stage = .cleared) :
    m.stage = .asking ∧ m.loop.ask.1 = false := by
  obtain ⟨stage, l⟩ := m
  cases stage with
  | asking =>
    refine ⟨rfl, Bool.eq_false_iff.2 fun htold => ?_⟩
    dsimp only [go] at h
    rw [if_pos htold] at h
    cases h
  | cleared | reading | ended failure => cases h
  | answered result =>
    cases result with
    | error e => cases h
    | ok count =>
      dsimp only [go] at h
      cases heq : l.print count with
      | continues l' | stops failure l' =>
        rw [heq] at h
        cases h

/-- **A signal does not bring a loop to its read.** -/
theorem cleared_of_struck {m : Moment} {signal : Signal} (h : (m.struck signal).stage = .cleared) :
    m.stage = .cleared := by
  obtain ⟨stage, l⟩ := m
  cases stage with
  | cleared => rfl
  | asking | reading | answered result | ended failure => cases h

/-- **How a loop comes to be about to read**: it was let read, and then only signals arrived. -/
theorem exists_front_of_cleared {m : Moment} {acts : List Act} (hm : m.stage ≠ .cleared)
    (h : (m.play acts).stage = .cleared) :
    ∃ (front : List Act) (signals : List Signal), acts = front ++ .go :: signals.map .signal ∧
      (m.play front).stage = .asking ∧ (m.play front).loop.ask.1 = false := by
  -- From the last act backwards: the loop is where that act has brought or left it.
  induction acts using List.reverseRecOn with
  | nil => exact absurd h hm
  | append_singleton acts act ih =>
    rw [play_append] at h
    cases act with
    | go => exact ⟨acts, [], rfl, asking_of_go_cleared h⟩
    | signal signal =>
      obtain ⟨front, signals, rfl, hfront⟩ := ih (cleared_of_struck h)
      exact ⟨front, signals ++ [signal], by simp, hfront⟩

/-- **Between the question and the read signals are noted and nothing else happens.** -/
theorem play_cleared (l : Loop) (signals : List Signal) :
    (⟨.cleared, l⟩ : Moment).play (signals.map .signal) =
      ⟨.cleared, { l with signals := signals.foldl SignalState.deliver l.signals }⟩ := by
  induction signals generalizing l with
  | nil => rfl
  | cons signal signals ih => exact ih { l with signals := l.signals.deliver signal }

/-- **From the question to the read.** -/
theorem play_let_read {m : Moment} {front : List Act} (hstage : (m.play front).stage = .asking)
    (hask : (m.play front).loop.ask.1 = false) (signals : List Signal) :
    m.play (front ++ .go :: signals.map .signal) =
      ⟨.cleared, { (m.play front).loop.ask.2 with
        signals := signals.foldl SignalState.deliver (m.play front).loop.signals }⟩ := by
  have hgo : (m.play front).go = ⟨.cleared, (m.play front).loop.ask.2⟩ := by
    rw [go, hstage]
    dsimp only
    rw [hask, if_neg Bool.false_ne_true]
  rw [play_append]
  show (m.play front).go.play (signals.map .signal) = _
  rw [hgo]
  exact play_cleared _ signals

/-- **A loop that would be told to stop does not come to read.** -/
theorem not_cleared_of_seen {l : Loop} (hcheck : l.stopCheck = .signalled)
    (hseen : l.signals.sawStop = true) {stage : Stage} (hstage : stage ≠ .cleared)
    (acts : List Act) : ((⟨stage, l⟩ : Moment).play acts).stage ≠ .cleared := by
  intro hcleared
  -- It would have been let read, but the question is answered by the signal that has been seen.
  obtain ⟨front, -, -, -, hask⟩ := exists_front_of_cleared hstage hcleared
  have hfront := since_play ⟨stage, l⟩ front
  rw [ask_signalled (hfront.stopCheck.trans hcheck), hfront.seen hseen] at hask
  exact Bool.false_ne_true hask.symm

end Moment

/-- **When a read is started late.** The loop was about to ask when no stop signal had been seen; it
asked, and then signals arrived, which the handlers noted, before the read. After a late read no other
read is started. -/
theorem late_iff {l : Loop} (h : l.stopCheck = .signalled) (acts : List Act) :
    ((l.poised.play acts).Late ↔ ∃ (front : List Act) (signals : List Signal),
      acts = front ++ .go :: signals.map .signal ∧ signals ≠ [] ∧ l.signals.handling = true ∧
      (l.poised.play front).stage = .asking ∧
      (l.poised.play front).loop.signals.sawStop = false) ∧
    ((l.poised.play acts).Late → ∀ more, (l.poised.play (acts ++ .go :: more)).stage ≠ .cleared) := by
  have hcheck : ∀ front, (l.poised.play front).loop.stopCheck = .signalled := fun front =>
    (l.poised.since_play front).stopCheck.trans h
  have hhandling : ∀ front, (l.poised.play front).loop.signals.handling = l.signals.handling :=
    fun front => (l.poised.since_play front).handling
  refine ⟨⟨fun hlate => ?_, ?_⟩, fun hlate more => ?_⟩
  · obtain ⟨front, signals, rfl, hstage, hask⟩ :=
      Moment.exists_front_of_cleared (by nofun) hlate.stage
    have hunseen := (ask_signalled (hcheck front)).symm.trans hask
    have hseen := hlate.seen
    rw [Moment.play_let_read hstage hask, SignalState.sawStop_foldl_deliver, hunseen, hhandling,
      Bool.false_or, Bool.and_eq_true, Bool.not_eq_true', List.isEmpty_eq_false_iff] at hseen
    exact ⟨front, signals, rfl, hseen.2, hseen.1, hstage, hunseen⟩
  · rintro ⟨front, signals, rfl, hsome, hinstalled, hstage, hunseen⟩
    have hask := (ask_signalled (hcheck front)).trans hunseen
    rw [Moment.play_let_read hstage hask]
    refine ⟨rfl, ?_⟩
    rw [SignalState.sawStop_foldl_deliver, hunseen, hhandling, hinstalled, Bool.false_or,
      Bool.true_and, Bool.not_eq_true', List.isEmpty_eq_false_iff]
    exact hsome
  · have hgo : (l.poised.play acts).go = ⟨.reading, (l.poised.play acts).loop⟩ := by
      rw [Moment.go, hlate.stage]
    rw [Moment.play_append]
    show ((l.poised.play acts).go.play more).stage ≠ _
    rw [hgo]
    exact Moment.not_cleared_of_seen (hcheck acts) hlate.seen (by nofun) more

/-- A loop over a channel without answers, in a process with handlers. -/
def heedfulLoop : Loop := start { channel := {}, sink := {} } 16 .text .signalled { handling := true }

/-- The hypothesis of `late_iff` is satisfiable, and there are late reads. -/
theorem late_iff_heedful :
    heedfulLoop.stopCheck = .signalled ∧
      (heedfulLoop.poised.play [.go, .signal .terminate]).Late ∧
      (heedfulLoop.poised.play ([.go, .signal .terminate] ++ .go :: [.go, .go])).stage ≠ .cleared := by
  have hcheck : heedfulLoop.stopCheck = .signalled := rfl
  obtain ⟨hwhen, hlast⟩ := late_iff hcheck [.go, .signal .terminate]
  have hlate := hwhen.2 ⟨[], [.terminate], rfl, List.cons_ne_nil _ _, rfl, rfl, rfl⟩
  exact ⟨hcheck, hlate, hlast hlate [.go, .go]⟩

/-- **A read is started although a stop signal has been seen**: the signal arrives when the loop has been
let read and has not begun to. -/
theorem read_started_late :
    (heedfulLoop.poised.play [.go, .signal .interrupt]).Late ∧
      (heedfulLoop.poised.play [.go, .signal .interrupt, .go]).stage = .reading :=
  ⟨⟨rfl, rfl⟩, rfl⟩

end Loop
end Inotify
