/- # What a loop leaves alone

Whatever a loop meets, reading is the only call it makes: after some number of rounds its channel is
the one it began with, that many answers further on and with that many reads logged
(`Channel.afterReads`), and the session holds what it held. This is true of each round
(`Loop.step_kept`) and so of all of them (`Loop.iterate_kept`), for every sink.
-/

import Inotify.Proofs.Session.Release

namespace Inotify

namespace Channel

/-- The channel after `k` reads into a buffer of a size. -/
def afterReads (c : Channel) (size k : Nat) : Channel :=
  { c with calls := c.calls ++ List.replicate k (.read size), reads := c.reads.drop k }

/-- **Without a read nothing changes.** -/
@[simp] theorem afterReads_zero (c : Channel) (size : Nat) : c.afterReads size 0 = c := by
  simp [afterReads]

/-- **Reads add up.** -/
theorem afterReads_afterReads (c : Channel) (size j k : Nat) :
    (c.afterReads size j).afterReads size k = c.afterReads size (j + k) := by
  simp only [afterReads, List.drop_drop, List.append_assoc, List.replicate_append_replicate]

/-- **A read is one read**, into a buffer that keeps its size. -/
theorem read_eq (c : Channel) (buffer : Bytes) :
    (c.read buffer).2 = c.afterReads buffer.length 1 ∧
      (c.read buffer).1.buffer.length = buffer.length := by
  constructor
  · simp [read, log, afterReads, List.drop_one]
  · simp only [read]
    split
    · rfl
    · exact length_fill _ _

end Channel

namespace Loop

/-- The loop after a step. -/
def Step.loop : Step → Loop
  | continues l => l
  | stops _ l => l

/-- **After `k` reads**, with everything held that was held. -/
structure Kept (l l' : Loop) (k : Nat) : Prop where
  /-- The channel has answered `k` reads. -/
  channel : l'.session.channel = l.session.channel.afterReads l.buffer.length k
  /-- The watch is still held. -/
  watch : l'.session.watch = l.session.watch
  /-- The channel is as open as it was. -/
  isOpen : l'.session.isOpen = l.session.isOpen
  /-- The buffer has the size it had. -/
  size : l'.buffer.length = l.buffer.length

/-- **Rounds after rounds are rounds.** -/
theorem Kept.trans {l l' l'' : Loop} {j k : Nat} (h : l.Kept l' j) (h' : l'.Kept l'' k) :
    l.Kept l'' (j + k) where
  channel := by rw [h'.channel, h.channel, h.size, Channel.afterReads_afterReads]
  watch := h'.watch.trans h.watch
  isOpen := h'.isOpen.trans h.isOpen
  size := h'.size.trans h.size

/-- What is to be printed about a read that claims `count` bytes of the buffer: the line about it, then
the events before the first fault. -/
def account (l : Loop) (count : Nat) : Bytes :=
  l.session.readLine count ++ l.format.lines (leading (events l.buffer count))

/-- **Printing about a read is one write.** If the write fails, that ends the loop; else a fault among
the events does. -/
theorem print_eq (l : Loop) (count : Nat) :
    l.print count =
      match (l.session.sink.writeAll (l.account count)).1 with
      | .error fault =>
        .stops (some (.output fault)) { l with session := l.session.written (l.account count) }
      | .ok () =>
        match firstFault (events l.buffer count) with
        | none => .continues { l with session := l.session.written (l.account count) }
        | some fault =>
          .stops (some (.decode fault))
            { l with session := l.session.written (l.account count) } := by
  rw [print, Session.print_eq, ← Session.readLine, account]
  cases hline : (l.session.sink.writeAll (l.session.readLine count)).1 with
  | error fault =>
    rw [Session.written, Session.written, Sink.writeAll_append_of_error _ hline, hline]
    rfl
  | ok _ =>
    have hevents := Session.printEvents_eq (l.session.written (l.session.readLine count)) l.format
      (events l.buffer count)
    rw [Session.written_append _ hline, Sink.writeAll_append_of_ok _ hline]
    dsimp only [Except.mapError]
    cases hlines : ((l.session.sink.writeAll (l.session.readLine count)).2.writeAll
        (l.format.lines (leading (events l.buffer count)))).1 with
    | error fault => rw [hevents, Session.written, hlines]
    | ok _ =>
      rw [hevents, Session.written, hlines]
      cases firstFault (events l.buffer count) <;> rfl

/-- **Printing changes the sink only.** -/
theorem print_frame (l : Loop) (count : Nat) :
    (l.print count).loop = { l with session := l.session.written (l.account count) } := by
  rw [print_eq]
  split
  · rfl
  · split <;> rfl

/-- **A round keeps what the session holds**: it reads once, unless it is told to stop. -/
theorem step_kept (l : Loop) : l.Kept l.step.loop (if l.ask.1 then 0 else 1) := by
  obtain ⟨hchannel, hsize⟩ := l.session.channel.read_eq l.buffer
  -- Asking leaves the session alone, so the loop that reads has the session of `l`.
  have hread : l.Kept l.ask.2.read.2 1 := ⟨hchannel, rfl, rfl, hsize⟩
  rw [step]
  split
  · next heq =>
    obtain rfl : l.ask.2 = _ := congrArg Prod.snd heq
    rw [congrArg Prod.fst heq, if_pos rfl]
    exact ⟨(Channel.afterReads_zero _ _).symm, rfl, rfl, rfl⟩
  · next heq =>
    obtain rfl : l.ask.2 = _ := congrArg Prod.snd heq
    rw [congrArg Prod.fst heq, if_neg Bool.false_ne_true]
    split
    · next count l' heq' =>
      rw [heq'] at hread
      rw [l'.print_frame count]
      exact ⟨hread.channel, hread.watch, hread.isOpen, hread.size⟩
    · next heq' =>
      rw [heq'] at hread
      exact hread

/-- **A run is the rounds and then a release.** -/
theorem run_eq (l : Loop) :
    l.run =
      ({ failure := l.iterate.1, cleanup := l.iterate.2.session.release.1 },
        { l.iterate.2 with session := l.iterate.2.session.release.2, phase := .stopped }) := rfl

/-- **A step that ends the loop is its last.** -/
theorem iterate_of_stops {l l' : Loop} {failure : Option Failure} (h : l.step = .stops failure l') :
    l.iterate = (failure, l') := by
  rw [iterate]
  split
  · next heq =>
    obtain ⟨rfl, rfl⟩ := Step.stops.inj (heq.symm.trans h)
    rfl
  · next heq => cases heq.symm.trans h

/-- **A step that goes on is followed by the others.** -/
theorem iterate_of_continues {l l' : Loop} (h : l.step = .continues l') :
    l.iterate = l'.iterate := by
  rw [iterate]
  split
  · next heq => cases heq.symm.trans h
  · next heq => exact congrArg iterate (Step.continues.inj (heq.symm.trans h))

/-- **A loop that is told to stop at once stops at once**, and has only asked. -/
theorem iterate_of_told {l : Loop} (h : l.ask.1 = true) : l.iterate = (none, l.ask.2) := by
  have hask : l.ask = (true, l.ask.2) := Prod.ext h rfl
  exact iterate_of_stops (by rw [step, hask])

/-- **A round after which the loop goes on was not told to stop.** -/
theorem ask_of_continues {l l' : Loop} (h : l.step = .continues l') : l.ask.1 = false := by
  cases hask : l.ask.1 with
  | false => rfl
  | true =>
    have hask' : l.ask = (true, l.ask.2) := Prod.ext hask rfl
    rw [step, hask'] at h
    cases h

/-- **All rounds together keep what the session holds**, and read unless the first of them is told to
stop. -/
theorem iterate_reads (l : Loop) : ∃ k, l.Kept l.iterate.2 k ∧ (k = 0 ↔ l.ask.1 = true) := by
  induction l using iterate.induct with
  | case1 l failure l' h =>
    have hstep := l.step_kept
    rw [h] at hstep
    rw [iterate_of_stops h]
    refine ⟨_, hstep, ?_⟩
    cases l.ask.1 <;> simp
  | case2 l l' h _ ih =>
    have hstep := l.step_kept
    have hgo := ask_of_continues h
    rw [h, hgo, if_neg Bool.false_ne_true] at hstep
    obtain ⟨k, hk, -⟩ := ih
    rw [iterate_of_continues h, hgo]
    exact ⟨1 + k, hstep.trans hk, by omega, fun hne => absurd hne Bool.false_ne_true⟩

/-- **All rounds together keep what the session holds.** -/
theorem iterate_kept (l : Loop) : ∃ k, l.Kept l.iterate.2 k := by
  obtain ⟨k, hk, -⟩ := l.iterate_reads
  exact ⟨k, hk⟩

end Loop
end Inotify
