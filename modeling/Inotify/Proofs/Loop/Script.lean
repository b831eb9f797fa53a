/- # What a script makes a loop do

What a loop will meet is fixed beforehand: the answers of its channel and those of its stop check. So
the state after any number of rounds can be written down without running the loop (`reached`): the
buffer is the deliveries so far laid over each other (`bufferAfter`), the sink has taken what is printed
about each read (`printedAt`), the process remembers the signals so far (`signalsAfter`).

A round either passes or ends the loop (`passes_or_ends`), and each kind is one step from one such
state to the next (`step_of_passes`, `step_of_ends`). Past the last answer a read is interrupted, so
some round is the first that does not pass; induction over those before it leads from the beginning of
the loop to that round (`iterate_of_rounds`), and the release follows.

Each of these steps asks of the sink only that it takes what has been printed so far (`Heard`), so they
hold up to the first fault of a sink that fails, too.
-/

import Inotify.Proofs.Loop.Frame
import Inotify.Proofs.Record.Reading
import Mathlib.Data.Nat.Find

namespace Inotify
namespace Loop

variable (l : Loop)

/-- The answer to the read that comes after `n` others. -/
def answerAt (n : Nat) : ReadAnswer := l.session.channel.reads[n]?.getD .interrupted

/-- The buffer after `n` reads: each delivery lies over what was there before. -/
def bufferAfter : Nat → Bytes
  | 0 => l.buffer
  | n + 1 =>
    match (l.answerAt n).result with
    | .error _ => bufferAfter n
    | .ok d => Channel.fill (bufferAfter n) d.data

/-- What the process remembers of signals after `n` reads. -/
def signalsAfter : Nat → SignalState
  | 0 => l.signals
  | n + 1 => (signalsAfter n).deliver? (l.answerAt n).signal

/-- What the stop check says when it is asked after `n` reads. -/
def stopsAfter (n : Nat) : Bool :=
  match l.stopCheck with
  | .schedule answer => answer (l.asked + n)
  | .signalled => (l.signalsAfter n).sawStop

/-- What the buffer holds once read `n` has claimed `count` bytes of it. -/
def itemsAt (n count : Nat) : List (Except DecodeFault Record) := events (l.bufferAfter (n + 1)) count

/-- What is printed about read `n`: the line about it, then the events before the first fault. -/
def printedAt (n : Nat) : Bytes :=
  match (l.answerAt n).result with
  | .error _ => []
  | .ok d => l.session.readLine d.count ++ l.format.lines (leading (l.itemsAt n d.count))

/-- What is printed about the first `n` reads. -/
def told (n : Nat) : Bytes := (List.range n).flatMap l.printedAt

/-- **The sink takes what is printed about the first `n` reads**, all of it. -/
def Heard (n : Nat) : Prop := (l.session.sink.writeAll (l.told n)).1 = .ok ()

/-- **Round `n` goes on**: the check lets it read, and what it reads is records and nothing else. -/
def Passes (n : Nat) : Prop :=
  l.stopsAfter n = false ∧
    ∃ d, (l.answerAt n).result = .ok d ∧ firstFault (l.itemsAt n d.count) = none

/-- **Round `n` ends the loop** after so many reads, with this failure. -/
inductive Ends (n : Nat) : Nat → Option Failure → Prop where
  /-- The check says so: nothing more is read. -/
  | told : l.stopsAfter n = true → Ends n n none
  /-- The read is interrupted. -/
  | interrupted : l.stopsAfter n = false → (l.answerAt n).result = .error .interrupted →
      Ends n (n + 1) none
  /-- The read fails otherwise. -/
  | failed {e : Errno} : l.stopsAfter n = false → (l.answerAt n).result = .error e →
      e ≠ .interrupted → Ends n (n + 1) (some (.read e))
  /-- What was read is not all records. -/
  | undecodable {d : Delivery} {fault : DecodeFault} : l.stopsAfter n = false →
      (l.answerAt n).result = .ok d → firstFault (l.itemsAt n d.count) = some fault →
      Ends n (n + 1) (some (.decode fault))

/-- The loop once it has asked `k` times, read `n` times and printed about all these reads. -/
def reached (k n : Nat) : Loop :=
  { l with
    session :=
      { l.session.written ((List.range n).flatMap l.printedAt) with
        channel := l.session.channel.afterReads l.buffer.length n }
    buffer := l.bufferAfter n
    asked := l.asked + k
    signals := l.signalsAfter n }

/-- The loop once it has read `n + 1` times and printed about `n` reads. -/
def unprinted (k n : Nat) : Loop :=
  { l.reached k (n + 1) with
    session := { (l.reached k (n + 1)).session with sink := (l.reached k n).session.sink } }

variable {l}

/-- **The buffer keeps its size.** -/
theorem length_bufferAfter (n : Nat) : (l.bufferAfter n).length = l.buffer.length := by
  induction n with
  | zero => rfl
  | succ n ih =>
    rw [bufferAfter]
    split
    · exact ih
    · rw [Channel.length_fill, ih]

/-- **What is printed about a read that succeeds.** -/
theorem printedAt_of_ok {n : Nat} {d : Delivery} (hd : (l.answerAt n).result = .ok d) :
    l.printedAt n =
      l.session.readLine d.count ++ l.format.lines (leading (l.itemsAt n d.count)) := by
  rw [printedAt, hd]

/-- **A loop begins where it is.** -/
theorem reached_zero : l.reached 0 0 = l := by
  rw [reached, Channel.afterReads_zero]
  rfl

/-- **Each read adds what is printed about it.** -/
theorem told_succ (n : Nat) : l.told (n + 1) = l.told n ++ l.printedAt n := by
  rw [told, List.range_succ, List.flatMap_append, List.flatMap_singleton]
  rfl

/-- **The write of what is taken succeeds.** -/
theorem Heard.ok {n : Nat} (h : l.Heard n) : (l.session.sink.writeAll (l.told n)).1 = .ok () := h

/-- **What is taken about more reads is taken about fewer.** -/
theorem Heard.mono {m n : Nat} (h : l.Heard n) (hmn : m ≤ n) : l.Heard m := by
  induction hmn with
  | refl => exact h
  | step _ ih =>
    rw [Heard, told_succ] at h
    exact ih (Sink.writeAll_ok_of_append h)

/-- **What is printed about a read comes behind what was printed before.** -/
theorem writeAll_printedAt {n : Nat} (h : l.Heard n) (k : Nat) :
    (l.reached k n).session.sink.writeAll (l.printedAt n) =
      l.session.sink.writeAll (l.told (n + 1)) := by
  rw [told_succ, Sink.writeAll_append_of_ok _ h]
  rfl

/-- **Asking**, after `n` rounds. -/
theorem ask_reached (n : Nat) : (l.reached n n).ask = (l.stopsAfter n, l.reached (n + 1) n) := rfl

/-- **Reading**, after `n` rounds. -/
theorem read_reached (k n : Nat) :
    (l.reached k n).read = ((l.answerAt n).result.map Delivery.count, l.unprinted k n) := by
  have hreading : ((l.reached k n).session.channel.read (l.reached k n).buffer).1 =
      { result := (l.answerAt n).result.map Delivery.count
        buffer := l.bufferAfter (n + 1)
        signal := (l.answerAt n).signal } := by
    rw [bufferAfter, answerAt, ← List.head?_drop]
    simp only [Channel.read, reached, Channel.afterReads]
    rcases ((l.session.channel.reads.drop n).head?.getD .interrupted).result with e | d <;> rfl
  have hchannel : ((l.reached k n).session.channel.read (l.reached k n).buffer).2 =
      l.session.channel.afterReads l.buffer.length (n + 1) := by
    rw [(Channel.read_eq _ _).1]
    show (l.session.channel.afterReads _ n).afterReads (l.bufferAfter n).length 1 = _
    rw [length_bufferAfter, Channel.afterReads_afterReads]
  have hread : (l.reached k n).session.channel.read (l.reached k n).buffer = (_, _) :=
    Prod.ext hreading hchannel
  rw [read, Session.read, hread]
  rfl

/-- **Printing about a read brings the printing up to the reading.** -/
theorem written_unprinted {n : Nat} (h : l.Heard n) (k : Nat) :
    { l.unprinted k n with session := (l.unprinted k n).session.written (l.printedAt n) } =
      l.reached k (n + 1) := by
  have hsink : ((l.reached k n).session.sink.writeAll (l.printedAt n)).2 =
      (l.reached k (n + 1)).session.sink := congrArg Prod.snd (writeAll_printedAt h k)
  rw [Session.written]
  show { l.unprinted k n with
    session :=
      { (l.unprinted k n).session with
        sink := ((l.reached k n).session.sink.writeAll (l.printedAt n)).2 } } = _
  rw [hsink]
  rfl

/-- **After printing the loop goes on**, unless the sink fails or a fault is among the events. -/
theorem print_unprinted {k n : Nat} {d : Delivery} (h : l.Heard n)
    (hd : (l.answerAt n).result = .ok d) :
    (l.unprinted k n).print d.count =
      match (l.session.sink.writeAll (l.told (n + 1))).1 with
      | .error fault => .stops (some (.output fault)) (l.reached k (n + 1))
      | .ok () =>
        match firstFault (l.itemsAt n d.count) with
        | none => .continues (l.reached k (n + 1))
        | some fault => .stops (some (.decode fault)) (l.reached k (n + 1)) := by
  have haccount : (l.unprinted k n).account d.count = l.printedAt n := by
    rw [printedAt_of_ok hd]
    rfl
  have hwrite : (l.unprinted k n).session.sink.writeAll (l.printedAt n) =
      l.session.sink.writeAll (l.told (n + 1)) := writeAll_printedAt h k
  rw [print_eq, haccount, written_unprinted h, hwrite]
  rfl

/-- **One round**, after `n` that went on: asking, reading, printing. -/
theorem step_reached {n : Nat} (h : l.Heard n) :
    (l.reached n n).step =
      if l.stopsAfter n then .stops none (l.reached (n + 1) n)
      else match (l.answerAt n).result with
        | .error e =>
          .stops (if e = Errno.interrupted then none else some (.read e))
            (l.reached (n + 1) (n + 1))
        | .ok d =>
          match (l.session.sink.writeAll (l.told (n + 1))).1 with
          | .error fault => .stops (some (.output fault)) (l.reached (n + 1) (n + 1))
          | .ok () =>
            match firstFault (l.itemsAt n d.count) with
            | none => .continues (l.reached (n + 1) (n + 1))
            | some fault => .stops (some (.decode fault)) (l.reached (n + 1) (n + 1)) := by
  rw [step, ask_reached]
  cases hstop : l.stopsAfter n with
  | true => rfl
  | false =>
    dsimp only
    rw [if_neg Bool.false_ne_true, read_reached]
    cases hresult : (l.answerAt n).result with
    | error e =>
      have hprinted : l.printedAt n = [] := by rw [printedAt, hresult]
      have hfinal := written_unprinted h (n + 1)
      rw [hprinted] at hfinal
      exact congrArg (Step.stops _) hfinal
    | ok d => exact print_unprinted h hresult

/-- **A round that passes goes on**, if the sink takes what it prints. -/
theorem continues_of_passes {n : Nat} (h : l.Heard (n + 1)) (hn : l.Passes n) :
    (l.reached n n).step = .continues (l.reached (n + 1) (n + 1)) := by
  obtain ⟨hstop, d, hresult, hfault⟩ := hn
  rw [step_reached (h.mono (Nat.le_succ n)), if_neg (Bool.eq_false_iff.1 hstop), hresult]
  dsimp only
  rw [h.ok]
  dsimp only
  rw [hfault]

/-- **A round that ends the loop ends it** with its failure and after its reads, if the sink takes what
it prints. -/
theorem stops_of_ends {n reads : Nat} {failure : Option Failure} (h : l.Heard reads)
    (hn : l.Ends n reads failure) :
    (l.reached n n).step = .stops failure (l.reached (n + 1) reads) := by
  cases hn with
  | told hstop => rw [step_reached h, if_pos hstop]
  | interrupted hstop hresult =>
    rw [step_reached (h.mono (Nat.le_succ n)), if_neg (Bool.eq_false_iff.1 hstop), hresult]
    rfl
  | @failed e hstop hresult hne =>
    rw [step_reached (h.mono (Nat.le_succ n)), if_neg (Bool.eq_false_iff.1 hstop), hresult]
    show Step.stops (if e = Errno.interrupted then none else some (.read e)) _ = _
    rw [if_neg hne]
  | @undecodable d fault hstop hresult hfault =>
    rw [step_reached (h.mono (Nat.le_succ n)), if_neg (Bool.eq_false_iff.1 hstop), hresult]
    dsimp only
    rw [h.ok]
    dsimp only
    rw [hfault]

/-- **On an unfailing sink a round that passes goes on.** -/
theorem step_of_passes (h : l.session.sink.Unfailing) {n : Nat} (hn : l.Passes n) :
    (l.reached n n).step = .continues (l.reached (n + 1) (n + 1)) :=
  continues_of_passes (h _) hn

/-- **On an unfailing sink a round that ends the loop ends it.** -/
theorem step_of_ends (h : l.session.sink.Unfailing) {n reads : Nat} {failure : Option Failure}
    (hn : l.Ends n reads failure) :
    (l.reached n n).step = .stops failure (l.reached (n + 1) reads) :=
  stops_of_ends (h _) hn

/-- **A round that is told to stop ends cleanly**, without a read of its own. -/
theorem Ends.of_stops {n reads : Nat} {failure : Option Failure} (hends : l.Ends n reads failure)
    (hstop : l.stopsAfter n = true) : reads = n ∧ failure = none := by
  cases hends with
  | told _ => exact ⟨rfl, rfl⟩
  | interrupted hgo _ => exact absurd (hgo.symm.trans hstop) Bool.false_ne_true
  | failed hgo _ _ => exact absurd (hgo.symm.trans hstop) Bool.false_ne_true
  | undecodable hgo _ _ => exact absurd (hgo.symm.trans hstop) Bool.false_ne_true

/-- **Every round passes or ends the loop.** -/
theorem passes_or_ends (l : Loop) (n : Nat) :
    l.Passes n ∨ ∃ reads failure, l.Ends n reads failure := by
  cases hstop : l.stopsAfter n with
  | true => exact Or.inr ⟨_, _, .told hstop⟩
  | false =>
    cases hresult : (l.answerAt n).result with
    | error e =>
      by_cases he : e = .interrupted
      · exact Or.inr ⟨_, _, .interrupted hstop (he ▸ hresult)⟩
      · exact Or.inr ⟨_, _, .failed hstop hresult he⟩
    | ok d =>
      cases hfault : firstFault (l.itemsAt n d.count) with
      | none => exact Or.inl ⟨hstop, d, hresult, hfault⟩
      | some fault => exact Or.inr ⟨_, _, .undecodable hstop hresult hfault⟩

/-- **Past the last answer no round passes**: a read is interrupted there. -/
theorem not_passes_length (l : Loop) : ¬l.Passes l.session.channel.reads.length := by
  rintro ⟨-, d, hresult, -⟩
  rw [answerAt, List.getElem?_eq_none (Nat.le_refl _)] at hresult
  cases hresult

/-- **Some round is the first that does not pass**, and it ends the loop. -/
theorem exists_ends (l : Loop) :
    ∃ n reads failure, (∀ i < n, l.Passes i) ∧ l.Ends n reads failure ∧
      n ≤ l.session.channel.reads.length := by
  classical
  have hex : ∃ n, ¬l.Passes n := ⟨_, l.not_passes_length⟩
  obtain ⟨reads, failure, hends⟩ := (l.passes_or_ends (Nat.find hex)).resolve_left (Nat.find_spec hex)
  exact ⟨Nat.find hex, reads, failure, fun i hi => not_not.1 (Nat.find_min hex hi), hends,
    Nat.find_min' hex l.not_passes_length⟩

/-- **Rounds that go on lead to where they lead.** -/
theorem iterate_of_rounds {n : Nat}
    (h : ∀ i < n, (l.reached i i).step = .continues (l.reached (i + 1) (i + 1))) :
    l.iterate = (l.reached n n).iterate := by
  induction n with
  | zero => rw [reached_zero]
  | succ n ih =>
    rw [ih fun i hi => h i (Nat.lt_succ_of_lt hi), iterate_of_continues (h n (Nat.lt_succ_self n))]

/-- **Each round that passes has made a read.** -/
theorem Ends.le {n reads : Nat} {failure : Option Failure} (hends : l.Ends n reads failure) :
    n ≤ reads := by
  cases hends <;> omega

/-- **The rounds that pass and the one that ends the loop are all**, if the sink takes what they
print. -/
theorem iterate_of_ends {n reads : Nat} {failure : Option Failure} (h : l.Heard reads)
    (hpass : ∀ i < n, l.Passes i) (hends : l.Ends n reads failure) :
    l.iterate = (failure, l.reached (n + 1) reads) := by
  rw [iterate_of_rounds fun i hi => continues_of_passes (h.mono (hi.trans_le hends.le)) (hpass i hi),
    iterate_of_stops (stops_of_ends h hends)]

/-- **The whole run**: the rounds, then the release of the session. -/
theorem run_of_ends (h : l.session.sink.Unfailing) {n reads : Nat} {failure : Option Failure}
    (hpass : ∀ i < n, l.Passes i) (hends : l.Ends n reads failure) :
    l.run =
      ({ failure, cleanup := (l.reached (n + 1) reads).session.release.1 },
        { l.reached (n + 1) reads with
          session := (l.reached (n + 1) reads).session.release.2
          phase := .stopped }) := by
  rw [run_eq, iterate_of_ends (h _) hpass hends]

/-- **A read of nothing prints its line only**, and is no fault. -/
theorem itemsAt_zero (l : Loop) (n : Nat) : l.itemsAt n 0 = [] :=
  Cursor.items_of_done (Or.inr (Nat.le_refl 0))

/-- **A read that claims more than the buffer has shows no record**, and is a fault. -/
theorem itemsAt_overclaimed {n count : Nat} (h : l.buffer.length < count) :
    l.itemsAt n count = [.error (.overclaimed count l.buffer.length)] := by
  have hsize := length_bufferAfter (l := l) (n + 1)
  rw [itemsAt, events_overclaimed (hsize.symm ▸ h), hsize]

/-- **Handlers stay installed** while a loop runs. -/
theorem handling_signalsAfter (l : Loop) (n : Nat) :
    (l.signalsAfter n).handling = l.signals.handling := by
  induction n with
  | zero => rfl
  | succ n ih => rw [signalsAfter, SignalState.handling_deliver?, ih]

/-- **A stop signal that arrives during a read is seen by the next question.** -/
theorem stopsAfter_of_signal (hcheck : l.stopCheck = .signalled) (h : l.signals.handling = true)
    {n : Nat} (hsignal : (l.answerAt n).signal.isSome) : l.stopsAfter (n + 1) = true := by
  obtain ⟨signal, hsome⟩ := Option.isSome_iff_exists.1 hsignal
  rw [stopsAfter, hcheck]
  show (l.signalsAfter (n + 1)).sawStop = true
  rw [signalsAfter, hsome, SignalState.deliver?, SignalState.sawStop_deliver, handling_signalsAfter, h,
    Bool.or_true]

/-- **How a run goes** in which `n` rounds pass, the next one ends the loop with `failure`, and `reads`
reads are made in all. -/
structure Transcript (l : Loop) (n reads : Nat) (failure : Option Failure) : Prop where
  /-- The first `n` rounds pass. -/
  passes : ∀ i < n, l.Passes i
  /-- The next one ends the loop. -/
  ends : l.Ends n reads failure
  /-- A round that passes asks once, reads once and prints about this read before the next begins. -/
  rounds : ∀ i < n, (l.reached i i).step = .continues (l.reached (i + 1) (i + 1))
  /-- The round that ends the loop asks once, and prints about its read if it makes one. -/
  last : (l.reached n n).step = .stops failure (l.reached (n + 1) reads)
  /-- Each of them uses up an answer. -/
  bounded : n ≤ l.session.channel.reads.length
  /-- The run ends with this failure, and with what could not be released. -/
  report : l.run.1 = { failure, cleanup := l.session.releaseFailures }
  /-- The check is asked once a round, in the last round too. -/
  asked : l.run.2.asked = l.asked + n + 1
  /-- Reads are all that is called, up to the release. -/
  calls : l.run.2.session.channel.calls =
    l.session.channel.calls ++ List.replicate reads (.read l.buffer.length) ++ l.session.releaseCalls
  /-- What is printed is about these reads, up to the notices of the release. -/
  output : l.run.2.session.sink.output =
    l.session.sink.output ++ (List.range reads).flatMap l.printedAt ++ l.session.releaseLines.flatten
  /-- The buffer holds what these reads left there. -/
  buffer : l.run.2.buffer = l.bufferAfter reads
  /-- The process remembers the signals of these reads. -/
  signals : l.run.2.signals = l.signalsAfter reads
  /-- Nothing is held any more, and the loop has stopped. -/
  released : l.run.2.session.watch = none ∧ l.run.2.session.isOpen = false ∧ l.run.2.phase = .stopped
  /-- A read of nothing prints its line and is no fault. -/
  empty : ∀ i d, (l.answerAt i).result = .ok d → d.count = 0 →
    l.printedAt i = l.session.readLine 0 ∧ firstFault (l.itemsAt i d.count) = none
  /-- A read that claims more than the buffer has prints its line and is a fault. -/
  overclaimed : ∀ i d, (l.answerAt i).result = .ok d → l.buffer.length < d.count →
    l.printedAt i = l.session.readLine d.count ∧
      firstFault (l.itemsAt i d.count) = some (.overclaimed d.count l.buffer.length)
  /-- A stop signal during a read that passes is heeded once everything about that read is printed:
  no other read is made. -/
  raised : l.stopCheck = .signalled → l.signals.handling = true →
    ∀ i < n, (l.answerAt i).signal.isSome → n = i + 1 ∧ reads = i + 1 ∧ failure = none

/-- **Every run goes as its script says**, on a sink that never fails. -/
theorem run_transcript (h : l.session.sink.Unfailing) :
    ∃ n reads failure, l.Transcript n reads failure := by
  obtain ⟨n, reads, failure, hpass, hends, hbound⟩ := l.exists_ends
  have hrun := run_of_ends h hpass hends
  obtain ⟨hfailures, hcalls, hsink, hwatch, hopen⟩ :=
    (l.reached (n + 1) reads).session.release_spec
  have hprinted : (l.reached (n + 1) reads).session.sink.output =
      l.session.sink.output ++ (List.range reads).flatMap l.printedAt := Sink.output_writeAll (h _)
  have hunfailing : (l.reached (n + 1) reads).session.sink.Unfailing := h.writeAll _
  refine ⟨n, reads, failure, ?_⟩
  exact {
    passes := hpass
    ends := hends
    rounds := fun i hi => step_of_passes h (hpass i hi)
    last := step_of_ends h hends
    bounded := hbound
    report := by
      rw [hrun, hfailures]
      rfl
    asked := by
      rw [hrun]
      rfl
    calls := by
      rw [hrun]
      exact hcalls
    output := by
      rw [hrun]
      show (l.reached (n + 1) reads).session.release.2.sink.output = _
      rw [hsink, Sink.output_offer hunfailing, hprinted]
      rfl
    buffer := by rw [hrun]; rfl
    signals := by rw [hrun]; rfl
    released := by
      rw [hrun]
      exact ⟨hwatch, hopen, rfl⟩
    empty := fun i d hd hzero => by
      rw [printedAt_of_ok hd, hzero, itemsAt_zero]
      exact ⟨List.append_nil _, rfl⟩
    overclaimed := fun i d hd hover => by
      rw [printedAt_of_ok hd, itemsAt_overclaimed hover]
      exact ⟨List.append_nil _, rfl⟩
    raised := fun hcheck hhandling i hi hsignal => by
      have hstop := stopsAfter_of_signal hcheck hhandling hsignal
      have hlast : n = i + 1 := by
        by_contra hne
        have hnext := (hpass (i + 1) (by omega)).1
        exact Bool.false_ne_true (hnext.symm.trans hstop)
      subst hlast
      obtain ⟨rfl, rfl⟩ := hends.of_stops hstop
      exact ⟨rfl, rfl, rfl⟩ }

/-- A loop whose sink is interrupted once and whose script delivers a record, then nothing, then claims
more than the buffer has. -/
def overclaimedLoop : Loop :=
  start
    { channel :=
        { reads :=
            [{ result := .ok ⟨Record.encode ⟨⟨1⟩, ⟨0x100⟩, 0, some [0x61]⟩ .bare, 17⟩ },
             { result := .ok ⟨[], 0⟩ }, { result := .ok ⟨[], 41⟩ }] }
      sink := { faults := [⟨0, 3, .system 4, true⟩] }
      watch := some ⟨1⟩ }
    40 .text (.schedule fun _ => false) {}

/-- The hypothesis of `run_transcript` is satisfiable: the run over this script passes two rounds, makes
three reads and ends with the claim of the last. -/
theorem run_transcript_overclaimed :
    overclaimedLoop.session.sink.Unfailing ∧
      (∃ n reads failure, overclaimedLoop.Transcript n reads failure) ∧
      overclaimedLoop.run.1 = { failure := some (.decode (.overclaimed 41 40)) } ∧
      overclaimedLoop.run.2.asked = 3 :=
  have hsink : overclaimedLoop.session.sink.Unfailing := Sink.unfailing_of_interruptions (by decide)
  ⟨hsink, run_transcript hsink, by decide +kernel, by decide +kernel⟩

end Loop
end Inotify
