/- # What is called after the close

The first release closes the channel, and nothing refuses a use that comes after it: a path is attached to
the closed channel, a read is made of it, and a loop that has stopped can be run again. So which calls come
behind the close is a matter of what is done, and of what the stop checks say (`usedAfterClose_iff`): they
come from an attaching, a reading or a run that is let read, after the first release or run. A watch that is
detached behind the close was attached there, so it adds nothing.

Each deed makes calls that give nothing back, and then those of a release if it releases
(`exists_does`, `Does.calls`). From this follows what one deed adds to the calls behind the close
(`Closing.undergo`), and by induction what all of them add (`Closing.undergoAll`).
-/

import Inotify.Proofs.Loop.Frame
import Inotify.Proofs.Session.Ownership

namespace Inotify

/-- Whether a call needs the channel to be open. -/
def Call.needsOpen : Call → Bool
  | add _ _ => true
  | remove _ => true
  | read _ => true
  | openChannel | installHandlers | close => false

/-- **Whether a call that needs the channel to be open comes behind its close.** -/
def usedAfterClose (calls : List Call) : Bool := (calls.dropWhile (· ≠ .close)).any Call.needsOpen

/-- **Before the close nothing comes behind it.** -/
theorem usedAfterClose_append_of_open {made : List Call} (h : .close ∉ made) (more : List Call) :
    usedAfterClose (made ++ more) = usedAfterClose more := by
  have hall : ∀ call ∈ made, decide (call ≠ .close) = true := fun call hcall =>
    decide_eq_true fun heq => h (heq ▸ hcall)
  rw [usedAfterClose, List.dropWhile_append_of_pos hall, usedAfterClose]

/-- **After the close everything comes behind it.** -/
theorem usedAfterClose_append_of_closed {made : List Call} (h : .close ∈ made) (more : List Call) :
    usedAfterClose (made ++ more) = (usedAfterClose made || more.any Call.needsOpen) := by
  obtain ⟨front, back, rfl, hfront⟩ := List.eq_append_cons_of_mem h
  rw [List.append_assoc, usedAfterClose_append_of_open hfront, usedAfterClose_append_of_open hfront]
  exact List.any_append

/-- What is done with a session and with loops over it. -/
inductive Deed where
  /-- The session is used. -/
  | use (use : Use)
  /-- A new loop is put over the session. -/
  | renew (capacity : Nat) (format : Format) (check : StopCheck)
  /-- The loop is run, for the first time or once more. -/
  | run
  /-- A stop signal arrives. -/
  | arrive (signal : Signal)

/-- Whether a deed releases the session. -/
def Deed.releases : Deed → Bool
  | use .release => true
  | run => true
  | _ => false

namespace Loop

/-- **A deed done** with a loop and its session. -/
def undergo (l : Loop) : Deed → Loop
  | .use use => { l with session := (l.session.answer use).2 }
  | .renew capacity format check => start l.session capacity format check l.signals
  | .run => l.run.2
  | .arrive signal => { l with signals := l.signals.deliver signal }

/-- Deeds done one after another. -/
def undergoAll (l : Loop) (deeds : List Deed) : Loop := deeds.foldl undergo l

/-- **Whether a deed makes calls of its own that need an open channel**: a run does if it is let read. -/
def asks (l : Loop) : Deed → Bool
  | .use (.attach _ _) => true
  | .use (.read _) => true
  | .run => !l.ask.1
  | _ => false

/-- **What a deed does**: it makes the calls `work`, and then those of a release if it is one. -/
structure Does (l : Loop) (deed : Deed) (work : List Call) : Prop where
  /-- The calls afterwards. -/
  calls : (l.undergo deed).session.channel.calls =
    l.session.channel.calls ++ (work ++ if deed.releases then l.session.releaseCalls else [])
  /-- The channel is closed by a release only. -/
  keeps : .close ∉ work
  /-- The deed needs an open channel exactly if it asks for something. -/
  needs : work.any Call.needsOpen = l.asks deed
  /-- The channel is open afterwards if it was and was not released. -/
  isOpen : (l.undergo deed).session.isOpen = (l.session.isOpen && !deed.releases)
  /-- After a release no watch is held. -/
  released : deed.releases = true → (l.undergo deed).session.watch = none
  /-- Else the watch that was held is, unless another was asked for. -/
  watch : deed.releases = false →
    l.asks deed = true ∨ (l.undergo deed).session.watch = l.session.watch

/-- **A run reads**, if it is let read, and then releases. -/
theorem does_run (l : Loop) : ∃ work, l.Does .run work := by
  obtain ⟨k, hkept, hk⟩ := l.iterate_reads
  obtain ⟨-, hcalls, -, hwatch, hopen⟩ := l.iterate.2.session.release_spec
  have hheld : l.iterate.2.session.releaseCalls = l.session.releaseCalls := by
    rw [Session.releaseCalls, hkept.watch, hkept.isOpen, Session.releaseCalls]
  refine ⟨List.replicate k (.read l.buffer.length), ?_⟩
  exact {
    calls := by
      show l.iterate.2.session.release.2.channel.calls = _
      rw [hcalls, hheld, hkept.channel, ← List.append_assoc]
      rfl
    keeps := fun hmem => Call.noConfusion (List.eq_of_mem_replicate hmem)
    needs := by
      show _ = !l.ask.1
      cases hask : l.ask.1 with
      | true =>
        rw [hk.2 hask]
        rfl
      | false =>
        obtain ⟨j, rfl⟩ := Nat.exists_eq_succ_of_ne_zero fun hzero =>
          Bool.false_ne_true (hask.symm.trans (hk.1 hzero))
        rfl
    isOpen := hopen.trans (Bool.and_false _).symm
    released := fun _ => hwatch
    watch := fun hnot => absurd hnot.symm Bool.false_ne_true }

/-- **A release makes its calls and no others.** -/
theorem does_release (l : Loop) : l.Does (.use .release) [] := by
  obtain ⟨-, hcalls, -, hwatch, hopen⟩ := l.session.release_spec
  exact {
    calls := hcalls
    keeps := List.not_mem_nil
    needs := rfl
    isOpen := hopen.trans (Bool.and_false _).symm
    released := fun _ => hwatch
    watch := fun hnot => absurd hnot.symm Bool.false_ne_true }

/-- **A use that is no release is no deed that releases.** -/
theorem releases_use {use : Use} (h : use ≠ .release) : Deed.releases (.use use) = false := by
  cases use with
  | release => exact absurd rfl h
  | attach path mask | announce pid path | print pieces | printBytes line | read buffer => rfl

/-- **Any other use makes the calls for it.** -/
theorem does_use (l : Loop) {use : Use} (h : use ≠ .release) :
    l.Does (.use use) (l.session.callsFor use) := by
  obtain ⟨hwatch, hopen⟩ := Session.watch_answer (s := l.session) h
  exact {
    calls := by
      rw [releases_use h, if_neg Bool.false_ne_true, List.append_nil]
      exact l.session.calls_answer use
    keeps := (Session.callsFor_of_ne h).2
    needs := by
      cases use with
      | release => exact absurd rfl h
      | attach path mask | announce pid path | print pieces | printBytes line | read buffer => rfl
    isOpen := by
      rw [releases_use h, Bool.not_false, Bool.and_true]
      exact hopen
    released := fun hreleases => absurd ((releases_use h).symm.trans hreleases) Bool.false_ne_true
    watch := fun _ => by
      cases use with
      | attach path mask => exact .inl rfl
      | release => exact absurd rfl h
      | announce pid path | print pieces | printBytes line | read buffer => exact .inr hwatch }

/-- **Every deed does something of this kind.** -/
theorem exists_does (l : Loop) (deed : Deed) : ∃ work, l.Does deed work := by
  cases deed with
  | run => exact l.does_run
  | use use =>
    by_cases h : use = .release
    · subst h
      exact ⟨[], l.does_release⟩
    · exact ⟨_, l.does_use h⟩
  | renew capacity format check | arrive signal =>
    refine ⟨[], (List.append_nil _).symm, List.not_mem_nil, rfl, (Bool.and_true _).symm, ?_,
      fun _ => .inr rfl⟩
    exact fun hreleases => absurd hreleases Bool.false_ne_true

/-- **What has come of the close** in a session that began with the calls `before`: `late` tells whether
something was called behind it. -/
structure Closing (before : List Call) (l : Loop) (late : Bool) : Prop where
  /-- The calls so far, the close among them exactly if the channel is not open. -/
  calls : ∃ made, l.session.channel.calls = before ++ made ∧
    (.close ∈ made ↔ l.session.isOpen = false) ∧ usedAfterClose made = late
  /-- A watch that is held over a closed channel was attached behind the close. -/
  watch : l.session.isOpen = false → l.session.watch.isSome = true → late = true

variable {before : List Call} {l : Loop} {late : Bool}

/-- **Before the close nothing is late.** -/
theorem Closing.late_of_open {made : List Call} (hclose : .close ∈ made ↔ l.session.isOpen = false)
    (hlate : usedAfterClose made = late) (hopen : l.session.isOpen = true) :
    .close ∉ made ∧ late = false := by
  have hnot : .close ∉ made := fun hmem => Bool.false_ne_true ((hclose.1 hmem).symm.trans hopen)
  have hnone := usedAfterClose_append_of_open hnot []
  rw [List.append_nil, hlate] at hnone
  exact ⟨hnot, hnone⟩

/-- **A release closes an open channel**, and no other. -/
theorem close_mem_releaseCalls (s : Session) : .close ∈ s.releaseCalls ↔ s.isOpen = true := by
  rw [Session.releaseCalls]
  cases s.watch <;> cases s.isOpen <;> simp

/-- **In the calls of a release nothing comes behind the close.** -/
theorem usedAfterClose_releaseCalls (s : Session) : usedAfterClose s.releaseCalls = false := by
  rw [Session.releaseCalls]
  cases s.watch <;> cases s.isOpen <;> rfl

/-- **A release needs the channel open for the watch that is held.** Over a closed channel that watch is
late already. -/
theorem Closing.late_of_releaseCalls (h : Closing before l late) (hopen : l.session.isOpen = false)
    (hneeds : l.session.releaseCalls.any Call.needsOpen = true) : late = true := by
  rw [Session.releaseCalls, hopen, if_neg Bool.false_ne_true, List.append_nil] at hneeds
  cases hwatch : l.session.watch with
  | none =>
    rw [hwatch] at hneeds
    exact absurd hneeds Bool.false_ne_true
  | some watch => exact h.watch hopen (by rw [hwatch]; rfl)

/-- **Work over a closed channel comes behind the close**, and a release after it adds nothing to that. -/
theorem Closing.used_append (h : Closing before l late) {made work : List Call}
    (hclose : .close ∈ made ↔ l.session.isOpen = false) (hlate : usedAfterClose made = late)
    (hwork : .close ∉ work) (releases : Bool) :
    usedAfterClose (made ++ (work ++ if releases then l.session.releaseCalls else [])) =
      (late || (!l.session.isOpen && work.any Call.needsOpen)) := by
  cases hopen : l.session.isOpen with
  | true =>
    obtain ⟨hnot, rfl⟩ := Closing.late_of_open hclose hlate hopen
    rw [usedAfterClose_append_of_open hnot, usedAfterClose_append_of_open hwork]
    cases releases with
    | true => exact usedAfterClose_releaseCalls l.session
    | false => rfl
  | false =>
    rw [usedAfterClose_append_of_closed (hclose.2 hopen), hlate, List.any_append, Bool.not_false,
      Bool.true_and]
    cases late with
    | true => rw [Bool.true_or, Bool.true_or]
    | false =>
      cases releases with
      | true =>
        have hnone := mt (h.late_of_releaseCalls hopen) Bool.false_ne_true
        rw [if_pos rfl, Bool.eq_false_iff.2 hnone, Bool.or_false]
      | false => rw [if_neg Bool.false_ne_true, List.any_nil, Bool.or_false]

/-- **What one deed adds**: over a closed channel, what it asks for is late. -/
theorem Closing.undergo (h : Closing before l late) (deed : Deed) :
    Closing before (l.undergo deed) (late || (!l.session.isOpen && l.asks deed)) := by
  obtain ⟨made, hmade, hclose, hlate⟩ := h.calls
  obtain ⟨work, hdoes⟩ := l.exists_does deed
  have hused := h.used_append hclose hlate hdoes.keeps deed.releases
  rw [hdoes.needs] at hused
  refine ⟨⟨_, by rw [hdoes.calls, hmade, List.append_assoc], ?_, hused⟩, fun hopen hsome => ?_⟩
  · rw [List.mem_append, List.mem_append, or_iff_right hdoes.keeps, hdoes.isOpen]
    cases hreleases : deed.releases with
    | true =>
      rw [if_pos rfl, close_mem_releaseCalls, hclose]
      cases l.session.isOpen <;> simp
    | false =>
      rw [if_neg Bool.false_ne_true, Bool.not_false, Bool.and_true, ← hclose]
      exact or_iff_left List.not_mem_nil
  · cases hreleases : deed.releases with
    | true =>
      rw [hdoes.released hreleases] at hsome
      exact absurd hsome Bool.false_ne_true
    | false =>
      have hwas : l.session.isOpen = false := by
        rw [hdoes.isOpen, hreleases, Bool.not_false, Bool.and_true] at hopen
        exact hopen
      rcases hdoes.watch hreleases with hasks | hsame
      · rw [hwas, hasks, Bool.not_false, Bool.and_true, Bool.or_true]
      · rw [h.watch hwas (hsame ▸ hsome), Bool.true_or]

/-- **Whether something is asked for after the close**, when these deeds are done. -/
def asksLate (l : Loop) : List Deed → Bool
  | [] => false
  | deed :: deeds => (!l.session.isOpen && l.asks deed) || (l.undergo deed).asksLate deeds

/-- **What all deeds add.** -/
theorem Closing.undergoAll (h : Closing before l late) (deeds : List Deed) :
    Closing before (l.undergoAll deeds) (late || l.asksLate deeds) := by
  induction deeds generalizing l late with
  | nil =>
    rw [asksLate, Bool.or_false]
    exact h
  | cons deed deeds ih =>
    rw [asksLate, ← Bool.or_assoc]
    exact ih (h.undergo deed)

/-- **What is asked for late** is a deed that finds the channel closed. -/
theorem asksLate_iff (l : Loop) (deeds : List Deed) :
    l.asksLate deeds = true ↔ ∃ front deed back, deeds = front ++ deed :: back ∧
      (l.undergoAll front).session.isOpen = false ∧ (l.undergoAll front).asks deed = true := by
  induction deeds generalizing l with
  | nil =>
    refine iff_of_false Bool.false_ne_true ?_
    rintro ⟨front, deed, back, heq, -⟩
    exact List.append_ne_nil_of_right_ne_nil front (List.cons_ne_nil deed back) heq.symm
  | cons deed deeds ih =>
    rw [asksLate, Bool.or_eq_true, Bool.and_eq_true, Bool.not_eq_true', ih]
    constructor
    · rintro (⟨hopen, hasks⟩ | ⟨front, late, back, rfl, hfound⟩)
      · exact ⟨[], deed, deeds, rfl, hopen, hasks⟩
      · exact ⟨deed :: front, late, back, rfl, hfound⟩
    · rintro ⟨front, late, back, heq, hfound⟩
      cases front with
      | nil =>
        obtain ⟨rfl, -⟩ := List.cons.inj heq
        exact .inl hfound
      | cons first front =>
        obtain ⟨rfl, rfl⟩ := List.cons.inj heq
        exact .inr ⟨front, late, back, rfl, hfound⟩

/-- **The channel is open until the first deed that releases.** -/
theorem isOpen_undergoAll (l : Loop) (deeds : List Deed) :
    (l.undergoAll deeds).session.isOpen = (l.session.isOpen && !deeds.any Deed.releases) := by
  induction deeds generalizing l with
  | nil => exact (Bool.and_true _).symm
  | cons deed deeds ih =>
    obtain ⟨work, hdoes⟩ := l.exists_does deed
    show ((l.undergo deed).undergoAll deeds).session.isOpen = _
    rw [ih, hdoes.isOpen, List.any_cons, Bool.not_or, Bool.and_assoc]

/-- The loop over a session that has just begun. -/
def anew (l : Loop) (channel : Channel) (sink : Sink) : Loop :=
  { l with session := Session.fresh channel sink }

/-- **What is called behind the close**: from the beginning to the end of a session, some call that needs
an open channel comes behind its close exactly if, after a deed that releases, a path is attached, the
channel is read, or a loop is run that is not told to stop at once. -/
theorem usedAfterClose_iff (l : Loop) (channel : Channel) (sink : Sink) (deeds : List Deed) :
    ∃ made, ((l.anew channel sink).undergoAll deeds).session.drop.channel.calls =
        channel.calls ++ made ∧
      (usedAfterClose made = true ↔ ∃ front deed back, deeds = front ++ deed :: back ∧
        (∃ earlier ∈ front, Deed.releases earlier = true) ∧
        ((l.anew channel sink).undergoAll front).asks deed = true) := by
  have hbegun : Closing channel.calls (l.anew channel sink) false :=
    ⟨⟨[], (List.append_nil _).symm, by simp [anew, Session.fresh], rfl⟩,
      fun hopen => absurd hopen.symm Bool.false_ne_true⟩
  have hend := hbegun.undergoAll deeds
  obtain ⟨made, hmade, hclose, hlate⟩ := hend.calls
  have hused := hend.used_append hclose hlate List.not_mem_nil true
  rw [if_pos rfl, List.nil_append, List.any_nil, Bool.and_false, Bool.or_false, Bool.false_or] at hused
  refine ⟨made ++ ((l.anew channel sink).undergoAll deeds).session.releaseCalls, ?_, ?_⟩
  · rw [Session.calls_drop, hmade, List.append_assoc]
  · have hfresh : (l.anew channel sink).session.isOpen = true := rfl
    rw [hused, asksLate_iff]
    refine exists_congr fun front => exists_congr fun deed => exists_congr fun back => ?_
    rw [isOpen_undergoAll, hfresh, Bool.true_and, Bool.not_eq_false', List.any_eq_true]

/-- A loop over a session that has just begun, over a channel without answers. -/
def idleLoop : Loop := start (Session.fresh {} {}) 16 .text .signalled {}

/-- **A loop that has stopped reads again** when it is run once more, although it has closed its channel:
the second of two runs reads behind the close. -/
theorem stopped_loop_reads :
    (idleLoop.undergo .run).phase = .stopped ∧
      (idleLoop.undergoAll [.run, .run]).session.drop.channel.calls = [.read 16, .close, .read 16] ∧
      usedAfterClose [.read 16, .close, .read 16] = true := by
  decide +kernel

end Loop
end Inotify
