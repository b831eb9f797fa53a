/- # What a session owns

A session can be used in any order: attached several times, released several times, written to and
read from in between. What it owns is told by the history of its replies alone:

| question | answer |
| --- | --- |
| which watch is held | the last one attached since the last release (`heldAfter`) |
| is the channel open | exactly if there was no release (`everReleased`) |

Each use keeps this true (`Owns.answer`), so it is true after any uses (`Owns.serve`). As a release
makes the calls for what is held and no other use detaches or closes anything, the channel is closed
once, by the first release or else by the end of the session, and a watch is detached once, by the next
of them. The sink has no part in it (`serve_onto`).
-/

import Inotify.Proofs.Session.Release

namespace Inotify

/-- What can be asked of a session. -/
inductive Use where
  /-- Attaching a path. -/
  | attach (path : Bytes) (mask : Mask)
  /-- Writing the first line of a run. -/
  | announce (pid : Nat) (path : Bytes)
  /-- Writing a line of text. -/
  | print (pieces : List String)
  /-- Writing a line of bytes. -/
  | printBytes (line : Bytes)
  /-- Reading into a buffer. -/
  | read (buffer : Bytes)
  /-- Releasing what is held. -/
  | release
deriving DecidableEq, Repr

/-- What comes of a use. -/
inductive Reply where
  /-- A path is attached, or is not. -/
  | attached (result : Except Failure Watch)
  /-- A line is written, or is not. -/
  | wrote (result : Except Failure Unit)
  /-- Something is read, or is not. -/
  | read (reading : Channel.Reading)
  /-- What was held is released, but for these failures. -/
  | released (failures : List Failure)

namespace Reply

/-- The watch that a reply gives. -/
def watch? : Reply → Option Watch
  | attached (.ok watch) => some watch
  | _ => none

/-- Whether a reply is that of a release. -/
def isRelease : Reply → Bool
  | released _ => true
  | _ => false

end Reply

/-- **The watch attached last since the last release**: going back in the history to the last release,
the first one that is met. -/
def heldAfter (history : List Reply) : Option Watch :=
  (history.reverse.takeWhile fun reply => !reply.isRelease).findSome? Reply.watch?

/-- Whether there was a release. -/
def everReleased (history : List Reply) : Bool := history.any Reply.isRelease

/-- **After a release no watch is held.** -/
theorem heldAfter_released {history : List Reply} {reply : Reply} (h : reply.isRelease = true) :
    heldAfter (history ++ [reply]) = none := by
  rw [heldAfter, List.reverse_append, List.reverse_singleton, List.singleton_append,
    List.takeWhile_cons, h]
  rfl

/-- **A reply that gives a watch settles which one is held**, any other keeps the one that was. -/
theorem heldAfter_kept {history : List Reply} {reply : Reply} (h : reply.isRelease = false) :
    heldAfter (history ++ [reply]) = reply.watch?.or (heldAfter history) := by
  rw [heldAfter, List.reverse_append, List.reverse_singleton, List.singleton_append,
    List.takeWhile_cons, h]
  show (reply :: _).findSome? Reply.watch? = _
  rw [List.findSome?_cons, heldAfter]
  cases reply.watch? <;> rfl

/-- **Each reply may be that of a release.** -/
theorem everReleased_append (history : List Reply) (reply : Reply) :
    everReleased (history ++ [reply]) = (everReleased history || reply.isRelease) := by
  rw [everReleased, everReleased, List.any_append, List.any_cons, List.any_nil, Bool.or_false]

namespace Session

/-- **Attaching a path holds its watch**, if the channel gives one. -/
theorem attach_of_ok {s : Session} {path : Bytes} {mask : Mask} {watch : Watch}
    (h : (s.channel.add path mask).1 = .ok watch) :
    s.attach path mask =
      (.ok watch, { s with channel := (s.channel.add path mask).2, watch := some watch }) := by
  have hadd : s.channel.add path mask = (.ok watch, (s.channel.add path mask).2) := by rw [← h]
  rw [attach, hadd]

/-- **Attaching a path holds nothing new**, if the channel gives no watch. -/
theorem attach_of_error {s : Session} {path : Bytes} {mask : Mask} {e : Errno}
    (h : (s.channel.add path mask).1 = .error e) :
    s.attach path mask =
      (.error (.setup (.addWatch path) e), { s with channel := (s.channel.add path mask).2 }) := by
  have hadd : s.channel.add path mask = (.error e, (s.channel.add path mask).2) := by rw [← h]
  rw [attach, hadd]

/-- **What a session does with a use**: what comes of it, and the session afterwards. -/
def answer (s : Session) : Use → Reply × Session
  | .attach path mask => (.attached (s.attach path mask).1, (s.attach path mask).2)
  | .announce pid path => (.wrote (s.announce pid path).1, (s.announce pid path).2)
  | .print pieces => (.wrote (s.print pieces).1, (s.print pieces).2)
  | .printBytes line => (.wrote (s.printBytes line).1, (s.printBytes line).2)
  | .read buffer => (.read (s.read buffer).1, (s.read buffer).2)
  | .release => (.released s.release.1, s.release.2)

/-- **Uses one after another**: the history of the replies, and the session afterwards. -/
def serve (s : Session) : List Use → List Reply × Session
  | [] => ([], s)
  | use :: uses =>
    ((s.answer use).1 :: ((s.answer use).2.serve uses).1, ((s.answer use).2.serve uses).2)

/-- The calls of a use. -/
def callsFor (s : Session) : Use → List Call
  | .attach path mask => [.add path mask]
  | .read buffer => [.read buffer.length]
  | .release => s.releaseCalls
  | _ => []

/-- **A use makes its calls and no others.** -/
theorem calls_answer (s : Session) (use : Use) :
    (s.answer use).2.channel.calls = s.channel.calls ++ s.callsFor use := by
  cases use with
  | attach path mask =>
    show (s.attach path mask).2.channel.calls = _
    cases hadd : (s.channel.add path mask).1 with
    | ok watch =>
      rw [attach_of_ok hadd]
      rfl
    | error e =>
      rw [attach_of_error hadd]
      rfl
  | announce pid path => exact (List.append_nil _).symm
  | print pieces => exact (List.append_nil _).symm
  | printBytes line =>
    show (s.printBytes line).2.channel.calls = _
    rw [channel_printBytes]
    exact (List.append_nil _).symm
  | read buffer => rfl
  | release => exact s.release_spec.2.1

/-- **What a session owns after a history** of replies, if it began with the calls `before`. -/
structure Owns (before : List Call) (s : Session) (history : List Reply) : Prop where
  /-- The watch that is held. -/
  watch : s.watch = heldAfter history
  /-- The channel is open until the first release. -/
  isOpen : s.isOpen = !everReleased history
  /-- It has been closed as often as that. -/
  closed : ∃ made, s.channel.calls = before ++ made ∧
    made.count .close = if everReleased history then 1 else 0

variable {before : List Call} {s : Session} {history : List Reply}

/-- **A release closes the channel if it is the first.** -/
theorem Owns.count_releaseCalls (h : Owns before s history) :
    s.releaseCalls.count .close = if everReleased history then 0 else 1 := by
  have hdetaches : (s.watch.toList.map Call.remove).count .close = 0 := by
    cases s.watch <;> rfl
  rw [releaseCalls, List.count_append, hdetaches, h.isOpen]
  cases everReleased history <;> rfl

/-- **A use that releases nothing detaches nothing and closes nothing.** -/
theorem callsFor_of_ne {use : Use} (h : use ≠ .release) :
    (∀ watch, .remove watch ∉ s.callsFor use) ∧ .close ∉ s.callsFor use := by
  cases use with
  | release => exact absurd rfl h
  | attach path mask | read buffer | announce pid path | print pieces | printBytes line =>
    simp [callsFor]

/-- **Only a release is answered as one.** -/
theorem isRelease_answer (s : Session) (use : Use) :
    (s.answer use).1.isRelease = true ↔ use = .release := by
  cases use <;> simp [answer, Reply.isRelease]

/-- **A use that releases nothing holds the watch that it is given**, and else what was held. -/
theorem watch_answer {use : Use} (h : use ≠ .release) :
    (s.answer use).2.watch = (s.answer use).1.watch?.or s.watch ∧
      (s.answer use).2.isOpen = s.isOpen := by
  cases use with
  | release => exact absurd rfl h
  | attach path mask =>
    show (s.attach path mask).2.watch = (Reply.attached (s.attach path mask).1).watch?.or s.watch ∧
      (s.attach path mask).2.isOpen = s.isOpen
    cases hadd : (s.channel.add path mask).1 with
    | ok watch =>
      rw [attach_of_ok hadd]
      exact ⟨rfl, rfl⟩
    | error e =>
      rw [attach_of_error hadd]
      exact ⟨rfl, rfl⟩
  | printBytes line =>
    show (s.printBytes line).2.watch = s.watch ∧ (s.printBytes line).2.isOpen = s.isOpen
    rw [printBytes_eq]
    exact ⟨rfl, rfl⟩
  | announce pid path | print pieces | read buffer => exact ⟨rfl, rfl⟩

/-- **Every use leaves owned what its reply says.** -/
theorem Owns.answer (h : Owns before s history) (use : Use) :
    Owns before (s.answer use).2 (history ++ [(s.answer use).1]) := by
  obtain ⟨made, hmade, hcount⟩ := h.closed
  have hcalls : (s.answer use).2.channel.calls = before ++ (made ++ s.callsFor use) := by
    rw [calls_answer, hmade, List.append_assoc]
  by_cases hrelease : use = .release
  · subst hrelease
    obtain ⟨-, -, -, hwatch, hopen⟩ := s.release_spec
    have hreply : (s.answer .release).1.isRelease = true := rfl
    refine ⟨hwatch.trans (heldAfter_released hreply).symm, ?_, made ++ s.releaseCalls, hcalls, ?_⟩
    · rw [everReleased_append, hreply, Bool.or_true]
      exact hopen
    · rw [everReleased_append, hreply, Bool.or_true, List.count_append, hcount,
        h.count_releaseCalls]
      cases everReleased history <;> rfl
  · obtain ⟨hwatch, hopen⟩ := watch_answer (s := s) hrelease
    have hreply : (s.answer use).1.isRelease = false :=
      Bool.eq_false_iff.2 (mt (isRelease_answer s use).1 hrelease)
    refine ⟨?_, ?_, made ++ s.callsFor use, hcalls, ?_⟩
    · rw [hwatch, heldAfter_kept hreply, h.watch]
    · rw [everReleased_append, hreply, Bool.or_false, hopen, h.isOpen]
    · have hnone : (s.callsFor use).count .close = 0 :=
        List.count_eq_zero.2 (callsFor_of_ne hrelease).2
      rw [everReleased_append, hreply, Bool.or_false, List.count_append, hcount, hnone, Nat.add_zero]

/-- **All uses together leave owned what their replies say.** -/
theorem Owns.serve (h : Owns before s history) (uses : List Use) :
    Owns before (s.serve uses).2 (history ++ (s.serve uses).1) := by
  induction uses generalizing s history with
  | nil =>
    show Owns before s (history ++ [])
    rw [List.append_nil]
    exact h
  | cons use uses ih =>
    have hnext := ih (h.answer use)
    rw [List.append_assoc] at hnext
    exact hnext

/-- The session with another sink to write to. -/
def onto (s : Session) (sink : Sink) : Session := { s with sink }

/-- **Detaching does the same over any other sink**, but for what is written. -/
theorem detach_onto (s : Session) (sink : Sink) :
    ∃ after, (s.onto sink).detach = (s.detach.1, s.detach.2.onto after) := by
  cases hwatch : s.watch with
  | none =>
    rw [detach_none hwatch, detach_none (s := s.onto sink) hwatch]
    exact ⟨sink, rfl⟩
  | some watch =>
    rw [detach_some hwatch, detach_some (s := s.onto sink) hwatch]
    exact ⟨_, rfl⟩

/-- **Closing does the same over any other sink**, but for what is written. -/
theorem close_onto (s : Session) (sink : Sink) :
    ∃ after, (s.onto sink).close = (s.close.1, s.close.2.onto after) := by
  cases hopen : s.isOpen with
  | false =>
    rw [close_closed hopen, close_closed (s := s.onto sink) hopen]
    exact ⟨sink, rfl⟩
  | true =>
    rw [close_open hopen, close_open (s := s.onto sink) hopen]
    exact ⟨_, rfl⟩

/-- **A release does the same over any other sink**, but for what is written. -/
theorem release_onto (s : Session) (sink : Sink) :
    ∃ after, (s.onto sink).release = (s.release.1, s.release.2.onto after) := by
  obtain ⟨between, hdetach⟩ := s.detach_onto sink
  obtain ⟨after, hclose⟩ := s.detach.2.close_onto between
  exact ⟨after, by rw [release_eq, release_eq, hdetach, hclose]⟩

/-- **A use does the same over any other sink**, but for what is written. -/
theorem answer_onto (s : Session) (sink : Sink) (use : Use) :
    ∃ after, ((s.onto sink).answer use).2 = (s.answer use).2.onto after := by
  cases use with
  | attach path mask =>
    show ∃ after, ((s.onto sink).attach path mask).2 = (s.attach path mask).2.onto after
    cases hadd : (s.channel.add path mask).1 with
    | ok watch =>
      rw [attach_of_ok hadd, attach_of_ok (s := s.onto sink) hadd]
      exact ⟨sink, rfl⟩
    | error e =>
      rw [attach_of_error hadd, attach_of_error (s := s.onto sink) hadd]
      exact ⟨sink, rfl⟩
  | printBytes line =>
    show ∃ after, ((s.onto sink).printBytes line).2 = (s.printBytes line).2.onto after
    rw [printBytes_eq, printBytes_eq]
    exact ⟨_, rfl⟩
  | release =>
    obtain ⟨after, hafter⟩ := s.release_onto sink
    exact ⟨after, congrArg Prod.snd hafter⟩
  | announce pid path | print pieces | read buffer => exact ⟨_, rfl⟩

/-- **All uses do the same over any other sink**, but for what is written. -/
theorem serve_onto (s : Session) (sink : Sink) (uses : List Use) :
    ∃ after, ((s.onto sink).serve uses).2 = (s.serve uses).2.onto after := by
  induction uses generalizing s sink with
  | nil => exact ⟨sink, rfl⟩
  | cons use uses ih =>
    obtain ⟨after, hafter⟩ := s.answer_onto sink use
    show ∃ last, (((s.onto sink).answer use).2.serve uses).2 = ((s.answer use).2.serve uses).2.onto last
    rw [hafter]
    exact ih (s.answer use).2 after

/-- A session that takes over an open channel. -/
def fresh (channel : Channel) (sink : Sink) : Session := { channel, sink }

/-- **What a session has to account for** after a history of replies, if it began over `channel` and
`uses` were made of it. -/
structure Accounts (channel : Channel) (uses : List Use) (s : Session) (history : List Reply) :
    Prop where
  /-- It holds the watch attached last since the last release. -/
  watch : s.watch = heldAfter history
  /-- It is open until the first release. -/
  isOpen : s.isOpen = !everReleased history
  /-- The next release detaches that watch, if there is one, and then closes the channel, if it is the
  first release. -/
  releases : s.release.2.channel.calls =
    s.channel.calls ++ ((heldAfter history).toList.map Call.remove ++
      if everReleased history then [] else [.close])
  /-- It reports the failures of these calls, in their order. -/
  reports : s.release.1 =
    (heldAfter history).toList.flatMap
        (fun watch => cleanupFailure (.removeWatch watch) (s.channel.remove watch).1) ++
      if everReleased history then []
      else cleanupFailure (.close s.channel.descriptor) s.channel.close.1
  /-- The end of the session makes the calls that a release would make. -/
  drops : s.drop.channel.calls = s.release.2.channel.calls
  /-- From the beginning to the end of the session the channel is closed once. -/
  closes : ∃ made, s.drop.channel.calls = channel.calls ++ made ∧ made.count .close = 1
  /-- If there was a release, and no watch was attached since, neither a release nor the end of the
  session does anything. -/
  idle : everReleased history = true → heldAfter history = none → s.release = ([], s) ∧ s.drop = s
  /-- Nothing but a release detaches or closes anything. -/
  others : ∀ use ≠ Use.release, ∃ made, (s.answer use).2.channel.calls = s.channel.calls ++ made ∧
    (∀ watch, .remove watch ∉ made) ∧ .close ∉ made
  /-- A path that cannot be attached changes nothing about what is held. -/
  refused : ∀ path mask failure, (s.attach path mask).1 = .error failure →
    (s.attach path mask).2.watch = s.watch ∧ (s.attach path mask).2.isOpen = s.isOpen
  /-- Over any other sink the same uses lead to the same calls and the same failures. -/
  anySink : ∀ sink, ((fresh channel sink).serve uses).2.release.1 = s.release.1 ∧
    ((fresh channel sink).serve uses).2.release.2.channel.calls = s.release.2.channel.calls

/-- **Every session accounts for what it owns**, whatever is made of it, over whatever channel and
sink. As the uses are any, a release or an end of the session anywhere in a longer sequence is meant. -/
theorem accounts_serve (channel : Channel) (sink : Sink) (uses : List Use) :
    Accounts channel uses ((fresh channel sink).serve uses).2
      ((fresh channel sink).serve uses).1 := by
  have hfresh : Owns channel.calls (fresh channel sink) [] :=
    ⟨rfl, rfl, [], (List.append_nil _).symm, rfl⟩
  have howns := hfresh.serve uses
  rw [List.nil_append] at howns
  have honto : ∀ other, ∃ after, ((fresh channel other).serve uses).2 =
      ((fresh channel sink).serve uses).2.onto after := fun other =>
    (fresh channel sink).serve_onto other uses
  generalize (fresh channel sink).serve uses = served at howns honto ⊢
  obtain ⟨history, s⟩ := served
  have hcalls : s.releaseCalls = (heldAfter history).toList.map Call.remove ++
      if everReleased history then [] else [.close] := by
    rw [releaseCalls, howns.watch, howns.isOpen]
    cases everReleased history <;> rfl
  obtain ⟨hreports, hreleases, -, -, -⟩ := s.release_spec
  exact {
    watch := howns.watch
    isOpen := howns.isOpen
    releases := hcalls ▸ hreleases
    reports := by
      rw [hreports, releaseFailures, howns.watch, howns.isOpen]
      cases everReleased history <;> rfl
    drops := by rw [calls_drop, hreleases]
    closes := by
      obtain ⟨made, hmade, hcount⟩ := howns.closed
      refine ⟨made ++ s.releaseCalls, by rw [calls_drop, hmade, List.append_assoc], ?_⟩
      rw [List.count_append, hcount, howns.count_releaseCalls]
      cases everReleased history <;> rfl
    idle := fun hreleased hnone => by
      have hwatch : s.watch = none := howns.watch.trans hnone
      have hopen : s.isOpen = false := by rw [howns.isOpen, hreleased, Bool.not_true]
      exact ⟨release_idle hwatch hopen, drop_idle hwatch hopen⟩
    others := fun use hne => ⟨_, s.calls_answer use, callsFor_of_ne hne⟩
    refused := fun path mask failure hfails => by
      cases hadd : (s.channel.add path mask).1 with
      | ok watch =>
        rw [attach_of_ok hadd] at hfails
        cases hfails
      | error e =>
        rw [attach_of_error hadd]
        exact ⟨rfl, rfl⟩
    anySink := fun other => by
      obtain ⟨after, hafter⟩ := honto other
      obtain ⟨last, hlast⟩ := s.release_onto after
      rw [hafter, hlast]
      exact ⟨rfl, rfl⟩ }

end Session
end Inotify
