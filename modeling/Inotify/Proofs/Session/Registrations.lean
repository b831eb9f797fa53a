/- # What becomes of several watches

A session has room for one watch. Attaching another path puts its watch in the place of the one that was
held, and that one is detached neither then nor later: of the watches given since the last release, a
release detaches the last (`heldAfter_eq_getLast?`). So a session that was never released before gives
back all that it acquired, in reverse order of acquisition, exactly if it was given one watch at most
(`givenBack_unreleased`). The others stay attached until the channel is closed.
-/

import Inotify.Proofs.Session.Ownership
import Mathlib.Data.List.TakeWhile

namespace Inotify

/-- The watches that a history of replies gives, first one first. -/
def watchesGiven (history : List Reply) : List Watch := history.filterMap Reply.watch?

/-- Whether a call gives back what was acquired. -/
def Call.givesBack : Call → Bool
  | remove _ => true
  | close => true
  | _ => false

/-- **Without a release the watch that is held is the last one given.** -/
theorem heldAfter_eq_getLast? {history : List Reply} (h : everReleased history = false) :
    heldAfter history = (watchesGiven history).getLast? := by
  have hall : ∀ reply ∈ history.reverse, (!reply.isRelease) = true := fun reply hreply => by
    rw [Bool.eq_false_iff.2 (List.any_eq_false.1 h reply (List.mem_reverse.1 hreply))]
    rfl
  rw [heldAfter, List.takeWhile_eq_self_iff.2 hall, watchesGiven, ← List.head?_filterMap,
    List.filterMap_reverse, List.head?_reverse]

/-- **The last item is all of a list, read backwards, exactly if there is no other.** -/
theorem toList_getLast?_eq_reverse_iff {α : Type} (items : List α) :
    items.getLast?.toList = items.reverse ↔ items.length ≤ 1 := by
  rw [List.getLast?_eq_head?_reverse, ← List.length_reverse]
  cases items.reverse with
  | nil => simp
  | cons item rest => cases rest <;> simp

namespace Session

/-- **A use that releases nothing gives nothing back.** -/
theorem givesBack_callsFor {s : Session} {use : Use} (h : use ≠ .release) :
    (s.callsFor use).filter Call.givesBack = [] := by
  obtain ⟨hremove, hclose⟩ := callsFor_of_ne (s := s) h
  refine List.filter_eq_nil_iff.2 fun call hcall => ?_
  cases call with
  | remove watch => exact absurd hcall (hremove watch)
  | close => exact absurd hcall hclose
  | openChannel | add path mask | installHandlers | read size => exact Bool.false_ne_true

/-- **The calls of a release are all givings back.** -/
theorem givesBack_releaseCalls (s : Session) :
    s.releaseCalls.filter Call.givesBack = s.releaseCalls := by
  refine List.filter_eq_self.2 fun call hcall => ?_
  rw [releaseCalls, List.mem_append, List.mem_map] at hcall
  rcases hcall with ⟨watch, -, rfl⟩ | hcall
  · rfl
  · split at hcall
    · rw [List.mem_singleton.1 hcall]
      rfl
    · cases hcall

/-- **Uses among which there is no release** are answered by no release, and give nothing back. -/
theorem serve_unreleased {uses : List Use} (h : Use.release ∉ uses) (s : Session) :
    everReleased (s.serve uses).1 = false ∧
      ∃ made, (s.serve uses).2.channel.calls = s.channel.calls ++ made ∧
        made.filter Call.givesBack = [] := by
  induction uses generalizing s with
  | nil => exact ⟨rfl, [], (List.append_nil _).symm, rfl⟩
  | cons use uses ih =>
    obtain ⟨hne, hrest⟩ := not_or.1 (mt List.mem_cons.2 h)
    have hreply : (s.answer use).1.isRelease = false :=
      Bool.eq_false_iff.2 (mt (isRelease_answer s use).1 (Ne.symm hne))
    obtain ⟨hnone, made, hmade, hgiven⟩ := ih hrest (s.answer use).2
    refine ⟨?_, s.callsFor use ++ made, ?_, ?_⟩
    · show ((s.answer use).1.isRelease || everReleased ((s.answer use).2.serve uses).1) = false
      rw [hreply, hnone, Bool.or_false]
    · show ((s.answer use).2.serve uses).2.channel.calls = _
      rw [hmade, calls_answer, List.append_assoc]
    · rw [List.filter_append, givesBack_callsFor (Ne.symm hne), hgiven, List.append_nil]

/-- **What a session gives back that was not released before**: the last watch it was given, if it was
given one, and then the channel. These are all the watches, in reverse order, exactly if there is one at
most. -/
theorem givenBack_unreleased (channel : Channel) (sink : Sink) {uses : List Use}
    (h : Use.release ∉ uses) :
    ∃ history s made, (fresh channel sink).serve uses = (history, s) ∧
      s.release.2.channel.calls = channel.calls ++ made ∧
      s.drop.channel.calls = channel.calls ++ made ∧
      made.filter Call.givesBack =
        (watchesGiven history).getLast?.toList.map Call.remove ++ [.close] ∧
      (made.filter Call.givesBack = (watchesGiven history).reverse.map Call.remove ++ [.close] ↔
        (watchesGiven history).length ≤ 1) := by
  obtain ⟨hunreleased, made, hmade, hgiven⟩ := serve_unreleased h (fresh channel sink)
  have howns : Owns channel.calls (fresh channel sink) [] :=
    ⟨rfl, rfl, [], (List.append_nil _).symm, rfl⟩
  have hserved := howns.serve uses
  rw [List.nil_append] at hserved
  generalize (fresh channel sink).serve uses = served at hunreleased hmade hserved
  obtain ⟨history, s⟩ := served
  have hheld : s.watch = (watchesGiven history).getLast? :=
    hserved.watch.trans (heldAfter_eq_getLast? hunreleased)
  have hopen : s.isOpen = true := by rw [hserved.isOpen, hunreleased, Bool.not_false]
  have hback : (made ++ s.releaseCalls).filter Call.givesBack =
      (watchesGiven history).getLast?.toList.map Call.remove ++ [.close] := by
    rw [List.filter_append, hgiven, givesBack_releaseCalls, releaseCalls, hheld, hopen, if_pos rfl,
      List.nil_append]
  have hcalls : s.channel.calls = channel.calls ++ made := hmade
  refine ⟨history, s, made ++ s.releaseCalls, rfl, ?_, ?_, hback, ?_⟩
  · rw [s.release_spec.2.1, hcalls, List.append_assoc]
  · rw [calls_drop, hcalls, List.append_assoc]
  · rw [hback, List.append_cancel_right_eq, List.map_inj_right fun _ _ => Call.remove.inj,
      toList_getLast?_eq_reverse_iff]

/-- Two paths that are attached one after another. -/
def twoPaths : List Use := [.attach [0x61] .subscribable, .attach [0x62] .subscribable]

/-- A channel that gives each path a watch of its own. -/
def twoWatches : Channel := { adds := [.ok ⟨1⟩, .ok ⟨2⟩] }

/-- The hypothesis of `givenBack_unreleased` is satisfiable, with more than one watch. -/
theorem givenBack_unreleased_two :
    Use.release ∉ twoPaths ∧
      ∃ history s made, (fresh twoWatches {}).serve twoPaths = (history, s) ∧
        s.release.2.channel.calls = twoWatches.calls ++ made ∧
        s.drop.channel.calls = twoWatches.calls ++ made ∧
        made.filter Call.givesBack =
          (watchesGiven history).getLast?.toList.map Call.remove ++ [.close] ∧
        (made.filter Call.givesBack = (watchesGiven history).reverse.map Call.remove ++ [.close] ↔
          (watchesGiven history).length ≤ 1) :=
  ⟨by decide, givenBack_unreleased twoWatches {} (by decide)⟩

/-- **The first of two watches is lost**: both are given, and neither a release nor the end of the
session detaches the first. -/
theorem first_watch_lost :
    Use.release ∉ twoPaths ∧
      watchesGiven ((fresh twoWatches {}).serve twoPaths).1 = [⟨1⟩, ⟨2⟩] ∧
      ((fresh twoWatches {}).serve twoPaths).2.release.2.channel.calls =
        [.add [0x61] .subscribable, .add [0x62] .subscribable, .remove ⟨2⟩, .close] ∧
      ((fresh twoWatches {}).serve twoPaths).2.drop.channel.calls =
        [.add [0x61] .subscribable, .add [0x62] .subscribable, .remove ⟨2⟩, .close] := by
  decide +kernel

end Session
end Inotify
