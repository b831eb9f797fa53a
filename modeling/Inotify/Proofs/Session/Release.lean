/- # What a release does

A session holds at most a watch and an open channel. What a release does is settled by these two and
by what the channel will answer, whatever the sink does with the notices: it detaches the watch, then
closes the channel (`releaseCalls`), reports the failures of just these calls in their order
(`releaseFailures`), and holds nothing afterwards (`release_spec`). So the end of a released session
does nothing (`drop_release`).
-/

import Inotify.Proofs.Session.Writing

namespace Inotify

/-- The failure of a step of a release, if its call fails. -/
def cleanupFailure (operation : Operation) : Except Errno Unit → List Failure
  | .ok () => []
  | .error e => [.cleanup operation e]

namespace Session

/-- The line that announces the detaching of a watch. -/
def detachLine (watch : Watch) : Bytes :=
  lineOf ["Closing inotify watch descriptor 0x", watch.hex, "."]

/-- The line that announces the closing of a channel. -/
def closeLine (descriptor : Int32) : Bytes :=
  lineOf ["Closing inotify file descriptor 0x", Numeral.hexWord descriptor, "."]

/-- The calls that release what a session holds. -/
def releaseCalls (s : Session) : List Call :=
  s.watch.toList.map .remove ++ if s.isOpen then [.close] else []

/-- The lines that announce them. -/
def releaseLines (s : Session) : List Bytes :=
  s.watch.toList.map detachLine ++ if s.isOpen then [closeLine s.channel.descriptor] else []

/-- The failures of these calls, as the channel will answer them. -/
def releaseFailures (s : Session) : List Failure :=
  s.watch.toList.flatMap (fun watch =>
      cleanupFailure (.removeWatch watch) (s.channel.remove watch).1)
    ++ if s.isOpen then cleanupFailure (.close s.channel.descriptor) s.channel.close.1 else []

/-- The session after detaching a watch. -/
def detached (s : Session) (watch : Watch) : Session :=
  { s.written (detachLine watch) with channel := (s.channel.remove watch).2, watch := none }

/-- The session after closing its channel. -/
def closed (s : Session) : Session :=
  { s.written (closeLine s.channel.descriptor) with channel := s.channel.close.2, isOpen := false }

/-- **Without a watch there is nothing to detach.** -/
theorem detach_none {s : Session} (h : s.watch = none) : s.detach = ([], s) := by
  simp only [detach, h]

/-- **Detaching calls for the watch that is held**, and reports the failure of that call. -/
theorem detach_some {s : Session} {watch : Watch} (h : s.watch = some watch) :
    s.detach =
      (cleanupFailure (.removeWatch watch) (s.channel.remove watch).1, s.detached watch) := by
  have hchannel : (s.written (detachLine watch)).channel = s.channel := rfl
  simp only [detach, h, mention_eq]
  rw [← detachLine, hchannel, detached]
  rcases s.channel.remove watch with ⟨⟨⟩ | ⟨⟩, channel⟩ <;> rfl

/-- **A closed session has nothing to close.** -/
theorem close_closed {s : Session} (h : s.isOpen = false) : s.close = ([], s) := by
  simp only [close, h, Bool.false_eq_true, if_false]

/-- **Closing calls for the channel**, and reports the failure of that call. -/
theorem close_open {s : Session} (h : s.isOpen = true) :
    s.close = (cleanupFailure (.close s.channel.descriptor) s.channel.close.1, s.closed) := by
  have hchannel : (s.written (closeLine s.channel.descriptor)).channel = s.channel := rfl
  simp only [close, h, if_true, mention_eq]
  rw [← closeLine, hchannel, closed]
  rcases s.channel.close with ⟨⟨⟩ | ⟨⟩, channel⟩ <;> rfl

/-- **A release is a detaching and then a closing.** -/
theorem release_eq (s : Session) :
    s.release = (s.detach.1 ++ s.detach.2.close.1, s.detach.2.close.2) := rfl

/-- **A release makes the calls for what is held**, in reverse order of acquisition, and leaves nothing
held. What it writes goes to the sink line by line, a line that fails keeping no other from being
tried; what it reports are the failures of its calls. -/
theorem release_spec (s : Session) :
    s.release.1 = s.releaseFailures ∧
      s.release.2.channel.calls = s.channel.calls ++ s.releaseCalls ∧
      s.release.2.sink = s.sink.offer s.releaseLines ∧
      s.release.2.watch = none ∧ s.release.2.isOpen = false := by
  rw [release_eq, releaseFailures, releaseCalls, releaseLines]
  cases hwatch : s.watch with
  | none =>
    rw [detach_none hwatch]
    cases hopen : s.isOpen with
    | false =>
      rw [close_closed hopen]
      exact ⟨rfl, (List.append_nil _).symm, rfl, hwatch, hopen⟩
    | true =>
      rw [close_open hopen]
      exact ⟨rfl, rfl, rfl, hwatch, rfl⟩
  | some watch =>
    rw [detach_some hwatch, Option.toList_some, List.flatMap_singleton]
    cases hopen : s.isOpen with
    | false =>
      have hdetached : (s.detached watch).isOpen = false := hopen
      rw [close_closed hdetached]
      exact ⟨rfl, rfl, rfl, rfl, hdetached⟩
    | true =>
      have hdetached : (s.detached watch).isOpen = true := hopen
      rw [close_open hdetached]
      exact ⟨rfl, List.append_assoc _ _ _, rfl, rfl, rfl⟩

/-- **A session that holds nothing has nothing to release**, and stays as it is. -/
theorem release_idle {s : Session} (hwatch : s.watch = none) (hopen : s.isOpen = false) :
    s.release = ([], s) := by
  rw [release_eq, detach_none hwatch, close_closed hopen]
  rfl

/-- **A session that holds nothing ends without doing anything.** -/
theorem drop_idle {s : Session} (hwatch : s.watch = none) (hopen : s.isOpen = false) :
    s.drop = s := by
  rw [drop, hwatch, hopen]
  rfl

/-- **A released session ends without doing anything more.** -/
theorem drop_release (s : Session) : s.release.2.drop = s.release.2 := by
  obtain ⟨-, -, -, hwatch, hopen⟩ := s.release_spec
  exact drop_idle hwatch hopen

/-- **The end of a session makes the calls for what is held.** -/
theorem calls_drop (s : Session) : s.drop.channel.calls = s.channel.calls ++ s.releaseCalls := by
  by_cases hheld : s.isOpen ∨ s.watch.isSome
  · rw [drop, if_pos hheld]
    exact s.release_spec.2.1
  · obtain ⟨hopen, hwatch⟩ := not_or.1 hheld
    have hclosed : s.isOpen = false := Bool.eq_false_iff.2 hopen
    have hnone : s.watch = none := Option.not_isSome_iff_eq_none.1 hwatch
    rw [drop_idle hnone hclosed, releaseCalls, hnone, hclosed]
    exact (List.append_nil _).symm

end Session
end Inotify
