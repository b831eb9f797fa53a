/- # What earlier reads left in the buffer

The buffer is kept from read to read, and from run to run, so in front of each read it holds bytes of
earlier events. These bytes mean nothing: what is printed about a read depends on the bytes that the read
claims (`events_congr`), and a read that stores all it claims has replaced them, whatever was there before
(`Channel.take_fill`). A read that claims more than the buffer has shows none of it.

So two loops that differ in the contents of their buffers only still do so after a round, and the round is
the same otherwise (`Loop.step_withBuffer`). By induction over the rounds a run is the same
(`Loop.iterate_withBuffer`, `Loop.run_withBuffer`), and by induction over the runs any number of them
(`Loop.runs_withBuffer`).
-/

import Inotify.Proofs.Loop.Frame
import Inotify.Proofs.Record.Reading

namespace Inotify

/-- **The items of a buffer depend on its size and on the bytes that are claimed.** -/
theorem events_congr {buffer buffer' : Bytes} {valid : Nat} (hsize : buffer.length = buffer'.length)
    (hfront : buffer.take valid = buffer'.take valid) : events buffer valid = events buffer' valid := by
  have hstart : Cursor.start buffer valid = Cursor.start buffer' valid := by
    rw [Cursor.start, Cursor.start, hsize, hfront]
  rw [events, events, hstart]

/-- **A read that covers its claim** in a buffer of a size: if it succeeds, it stores all the bytes that
it claims, or it claims more than there is room for. -/
def ReadAnswer.Covers (answer : ReadAnswer) (size : Nat) : Prop :=
  ∀ d, answer.result = .ok d → d.count ≤ min d.data.length size ∨ size < d.count

instance (answer : ReadAnswer) (size : Nat) : Decidable (answer.Covers size) :=
  match h : answer.result with
  | .error _ => .isTrue fun _ hd => by cases h.symm.trans hd
  | .ok d =>
    decidable_of_iff (d.count ≤ min d.data.length size ∨ size < d.count) (by simp [ReadAnswer.Covers, h])

namespace Channel

/-- **A channel all of whose reads cover their claims.** -/
def Covers (c : Channel) (size : Nat) : Prop := ∀ answer ∈ c.reads, answer.Covers size

instance (c : Channel) (size : Nat) : Decidable (c.Covers size) :=
  inferInstanceAs (Decidable (∀ answer ∈ c.reads, answer.Covers size))

/-- **Past the last answer a read claims nothing**, so all reads to come cover their claims. -/
theorem Covers.next {c : Channel} {size : Nat} (h : c.Covers size) :
    (c.reads.head?.getD .interrupted).Covers size := by
  rcases hreads : c.reads with _ | ⟨answer, answers⟩
  · rintro d hd
    cases hd
  · have hmem : answer ∈ c.reads := by simp [hreads]
    exact h answer hmem

/-- **Reads that have been made leave reads that cover their claims.** -/
theorem Covers.afterReads {c : Channel} {size : Nat} (h : c.Covers size) (size' k : Nat) :
    (c.afterReads size' k).Covers size :=
  fun answer hanswer => h answer (List.mem_of_mem_drop hanswer)

/-- **What is stored lies over what was there before**: where bytes are stored, buffers of one size are the
same afterwards. -/
theorem take_fill {buffer buffer' data : Bytes} {n : Nat} (hsize : buffer.length = buffer'.length)
    (hn : n ≤ min data.length buffer.length) :
    (fill buffer data).take n = (fill buffer' data).take n := by
  have hstored : n ≤ (data.take buffer.length).length := by
    rw [List.length_take]
    omega
  have hstored' : n ≤ (data.take buffer'.length).length := hsize ▸ hstored
  rw [fill, fill, List.take_append_of_le_length hstored, List.take_append_of_le_length hstored', hsize]

end Channel

/-- **A release reads nothing.** -/
theorem Session.reads_release (s : Session) : s.release.2.channel.reads = s.channel.reads := by
  have hdetach : s.detach.2.channel.reads = s.channel.reads := by
    cases hwatch : s.watch with
    | none => rw [detach_none hwatch]
    | some watch =>
      rw [detach_some hwatch]
      rfl
  have hclose : ∀ t : Session, t.close.2.channel.reads = t.channel.reads := by
    intro t
    cases hopen : t.isOpen with
    | false => rw [close_closed hopen]
    | true =>
      rw [close_open hopen]
      rfl
  rw [release_eq, hclose, hdetach]

namespace Loop

/-- The loop with other bytes in its buffer. -/
def withBuffer (l : Loop) (buffer : Bytes) : Loop := { l with buffer }

/-- The step with other bytes in the buffer afterwards. -/
def Step.withBuffer : Step → Bytes → Step
  | continues l, buffer => continues (l.withBuffer buffer)
  | stops failure l, buffer => stops failure (l.withBuffer buffer)

/-- Runs of a loop one after another, with their reports. -/
def runs : Nat → Loop → List Report × Loop
  | 0, l => ([], l)
  | n + 1, l => (l.run.1 :: (runs n l.run.2).1, (runs n l.run.2).2)

variable {l : Loop} {stale : Bytes}

/-- **A read does the same over other bytes**, and if it covers its claim it leaves the same items. -/
theorem read_withBuffer (hsize : stale.length = l.buffer.length)
    (hcovers : l.session.channel.Covers l.buffer.length) :
    ∃ left, left.length = l.read.2.buffer.length ∧
      (l.withBuffer stale).read = (l.read.1, l.read.2.withBuffer left) ∧
      ∀ count, l.read.1 = .ok count → events left count = events l.read.2.buffer count := by
  have hnext := hcovers.next
  have hlog : l.session.channel.log (.read stale.length) =
      l.session.channel.log (.read l.buffer.length) := by rw [hsize]
  simp only [Loop.read, withBuffer, Session.read, Channel.read, hlog]
  rcases hanswer : (l.session.channel.reads.head?.getD .interrupted).result with e | d
  · exact ⟨stale, hsize, rfl, fun count hcount => by cases hcount⟩
  · refine ⟨Channel.fill stale d.data, ?_, rfl, fun count hcount => ?_⟩
    · simp [hsize]
    · obtain rfl : d.count = count := by simpa using hcount
      have hfilled : (Channel.fill stale d.data).length = (Channel.fill l.buffer d.data).length := by
        simp [hsize]
      rcases hnext d hanswer with hstored | hover
      · exact events_congr hfilled (Channel.take_fill hsize (by omega))
      · -- Neither buffer has so many bytes, so the claim is all that is seen of them.
        rw [events_overclaimed (by simp; omega), events_overclaimed (by simp; omega), hfilled]

/-- **Printing does the same over other bytes** that hold the same items. -/
theorem print_withBuffer {count : Nat} (hitems : events stale count = events l.buffer count) :
    (l.withBuffer stale).print count = (l.print count).withBuffer stale := by
  have hseen : events (l.withBuffer stale).buffer count = events l.buffer count := hitems
  have haccount : (l.withBuffer stale).account count = l.account count := by
    rw [account, account, hseen]
    rfl
  rw [print_eq, print_eq, haccount, hseen]
  have hsession : (l.withBuffer stale).session = l.session := rfl
  rw [hsession]
  rcases (l.session.sink.writeAll (l.account count)).1 with fault | _
  · rfl
  · rcases firstFault (events l.buffer count) with _ | fault <;> rfl

/-- **A round does the same over other bytes.** -/
theorem step_withBuffer (hsize : stale.length = l.buffer.length)
    (hcovers : l.session.channel.Covers l.buffer.length) :
    ∃ left, left.length = l.step.loop.buffer.length ∧ (l.withBuffer stale).step = l.step.withBuffer left := by
  have hask : (l.withBuffer stale).ask = (l.ask.1, l.ask.2.withBuffer stale) := rfl
  rw [step, step, hask]
  rcases hl : l.ask with ⟨_ | _, asked⟩
  · obtain rfl : l.ask.2 = asked := congrArg Prod.snd hl
    obtain ⟨left, hleft, hread, hitems⟩ := read_withBuffer (l := l.ask.2) hsize hcovers
    dsimp only
    rw [hread]
    rcases hresult : l.ask.2.read with ⟨e | count, after⟩
    · rw [hresult] at hleft
      exact ⟨left, hleft, rfl⟩
    · rw [hresult] at hleft hitems
      refine ⟨left, ?_, print_withBuffer (hitems count rfl)⟩
      rw [hleft]
      show after.buffer.length = (after.print count).loop.buffer.length
      rw [print_frame]
  · exact ⟨stale, by rw [hsize]; exact congrArg (fun l => l.2.buffer.length) hl, rfl⟩

/-- **All rounds together do the same over other bytes.** -/
theorem iterate_withBuffer (hsize : stale.length = l.buffer.length)
    (hcovers : l.session.channel.Covers l.buffer.length) :
    ∃ left, left.length = l.buffer.length ∧
      (l.withBuffer stale).iterate = (l.iterate.1, l.iterate.2.withBuffer left) := by
  -- What a round leaves in the two buffers is what the next one begins with.
  induction l using iterate.induct generalizing stale with
  | case1 l failure l' h =>
    obtain ⟨left, hleft, hstep⟩ := step_withBuffer hsize hcovers
    have hkept := l.step_kept.size
    rw [h] at hstep hleft hkept
    refine ⟨left, hleft.trans hkept, ?_⟩
    rw [iterate_of_stops h, iterate_of_stops hstep]
  | case2 l l' h _ ih =>
    obtain ⟨left, hleft, hstep⟩ := step_withBuffer hsize hcovers
    have hkept := l.step_kept
    rw [h] at hstep hleft hkept
    have hcovers' : l'.session.channel.Covers l'.buffer.length := by
      rw [show l'.session.channel = _ from hkept.channel, show l'.buffer.length = _ from hkept.size]
      exact hcovers.afterReads _ _
    obtain ⟨left', hleft', hiterate⟩ := ih hleft hcovers'
    refine ⟨left', hleft'.trans hkept.size, ?_⟩
    rw [iterate_of_continues h, iterate_of_continues hstep, hiterate]

/-- **A run does the same over other bytes.** -/
theorem run_withBuffer (hsize : stale.length = l.buffer.length)
    (hcovers : l.session.channel.Covers l.buffer.length) :
    ∃ left, left.length = l.buffer.length ∧
      (l.withBuffer stale).run = (l.run.1, l.run.2.withBuffer left) := by
  obtain ⟨left, hleft, hiterate⟩ := iterate_withBuffer hsize hcovers
  refine ⟨left, hleft, ?_⟩
  rw [run_eq, hiterate]
  rfl

/-- **After a run the reads to come cover their claims**, and the buffer has its size. -/
theorem covers_run (hcovers : l.session.channel.Covers l.buffer.length) :
    l.run.2.buffer.length = l.buffer.length ∧
      l.run.2.session.channel.Covers l.run.2.buffer.length := by
  obtain ⟨k, hkept⟩ := l.iterate_kept
  have hsize : l.run.2.buffer.length = l.buffer.length := hkept.size
  refine ⟨hsize, fun answer hanswer => ?_⟩
  have hreads : l.run.2.session.channel.reads = l.iterate.2.session.channel.reads :=
    l.iterate.2.session.reads_release
  rw [hreads, hkept.channel] at hanswer
  rw [hsize]
  exact hcovers.afterReads _ _ answer hanswer

/-- **Runs one after another do the same over other bytes.** -/
theorem runs_eq (hsize : stale.length = l.buffer.length)
    (hcovers : l.session.channel.Covers l.buffer.length) (n : Nat) :
    ∃ left, left.length = l.buffer.length ∧
      (l.withBuffer stale).runs n = ((l.runs n).1, (l.runs n).2.withBuffer left) := by
  induction n generalizing l stale with
  | zero => exact ⟨stale, hsize, rfl⟩
  | succ n ih =>
    obtain ⟨left, hleft, hrun⟩ := run_withBuffer hsize hcovers
    obtain ⟨hkept, hcovers'⟩ := covers_run hcovers
    obtain ⟨left', hleft', hrest⟩ := ih (hleft.trans hkept.symm) hcovers'
    refine ⟨left', hleft'.trans hkept, ?_⟩
    rw [runs, runs, hrun, hrest]

/-- **Stale bytes are never seen.** Of two loops that differ in the contents of their buffers only, if their
reads cover their claims, any number of runs have the same reports, leave the same output and make the same
calls; and the loops still differ in the contents of their buffers only. Behind this is that equally large
buffers with the same bytes in front have the same items there. -/
theorem runs_withBuffer (hsize : stale.length = l.buffer.length)
    (hcovers : l.session.channel.Covers l.buffer.length) (n : Nat) :
    ((l.withBuffer stale).runs n).1 = (l.runs n).1 ∧
      ((l.withBuffer stale).runs n).2.session.sink.output = (l.runs n).2.session.sink.output ∧
      ((l.withBuffer stale).runs n).2.session.channel.calls = (l.runs n).2.session.channel.calls ∧
      (∃ left, left.length = l.buffer.length ∧
        ((l.withBuffer stale).runs n).2 = (l.runs n).2.withBuffer left) ∧
      ∀ (buffer buffer' : Bytes) (valid : Nat), buffer.length = buffer'.length →
        buffer.take valid = buffer'.take valid → events buffer valid = events buffer' valid := by
  obtain ⟨left, hleft, heq⟩ := runs_eq hsize hcovers n
  rw [heq]
  exact ⟨rfl, rfl, rfl, ⟨left, hleft, rfl⟩, fun _ _ _ => events_congr⟩

/-- A loop whose reads deliver two records, then one that is cut short by its claim, and after an
interruption claim more than the buffer has. -/
def rereadLoop : Loop :=
  start
    { channel :=
        { reads :=
            [{ result := .ok ⟨Record.encode ⟨⟨1⟩, ⟨0x100⟩, 0, some [0x61]⟩ .bare ++
                Record.encode ⟨⟨1⟩, ⟨0x200⟩, 0, some [0x62]⟩ .bare, 34⟩ },
             { result := .ok ⟨Record.encode ⟨⟨2⟩, ⟨0x400⟩, 0, none⟩ .bare ++ [0x63], 16⟩ },
             { result := .error .interrupted }, { result := .ok ⟨[], 41⟩ }] }
      sink := {}
      watch := some ⟨1⟩ }
    40 .text (.schedule fun _ => false) {}

/-- The hypotheses of `runs_withBuffer` are satisfiable: over forty bytes `ff` two runs of this loop have the
reports they have over a fresh buffer, the second of which is about the last claim. -/
theorem runs_withBuffer_reread :
    (List.replicate 40 0xff).length = rereadLoop.buffer.length ∧
      rereadLoop.session.channel.Covers rereadLoop.buffer.length ∧
      ((rereadLoop.withBuffer (List.replicate 40 0xff)).runs 2).1 = (rereadLoop.runs 2).1 ∧
      (rereadLoop.runs 2).1 = [{}, { failure := some (.decode (.overclaimed 41 40)) }] :=
  ⟨by decide, by decide +kernel, (runs_withBuffer (by decide) (by decide +kernel) 2).1, by decide +kernel⟩

end Loop
end Inotify
