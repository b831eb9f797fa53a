/- # Where a failing sink cuts a run off

A loop prints about each read before it makes the next one. So a sink that fails changes nothing about
the rounds before the fault: they pass as their script says. In the round in which the sink does not
take all that is printed, the fault ends the loop at once, and the bytes taken so far are a beginning of
what would have been printed (`CutOff`). There is no other way in which the rounds can go
(`iterate_cases`).

What a session holds, and how its channel will answer, do not depend on the sink. So a run that is cut
off is released by the same calls, and with the same failures, as one that is not (`run_compared`).
-/

import Inotify.Proofs.Loop.Script
import Inotify.Proofs.Sink.Strike

namespace Inotify
namespace Loop

/-- **Round `n` is cut off**: the sink has taken `front` when a fault strikes. -/
structure CutOff (l : Loop) (n : Nat) (front : Bytes) (fault : IoFault) : Prop where
  /-- The rounds before it go on: each asks, reads and prints about its read. -/
  rounds : ∀ i < n, (l.reached i i).step = .continues (l.reached (i + 1) (i + 1))
  /-- The round itself asks and reads, and the fault ends it: nothing more is read. -/
  last : (l.reached n n).step = .stops (some (.output fault)) (l.reached (n + 1) (n + 1))
  /-- What is printed about the reads before has been taken. -/
  before : l.told n <+: front
  /-- What is printed about the last read is taken in part. -/
  within : front <+: l.told (n + 1)
  /-- It is not taken as a whole. -/
  short : front ≠ l.told (n + 1)
  /-- The fault is the first that is met, interruptions apart. -/
  struck : l.session.sink.StruckAfter front fault
  /-- The sink is left as the fault leaves it: nothing more is written. -/
  left : (l.reached (n + 1) (n + 1)).session.sink = (l.session.sink.writeAll front).2.struck

variable {l : Loop}

/-- **A round that is cut off is the last.** -/
theorem CutOff.iterate_eq {n : Nat} {front : Bytes} {fault : IoFault} (h : l.CutOff n front fault) :
    l.iterate = (some (.output fault), l.reached (n + 1) (n + 1)) := by
  rw [iterate_of_rounds h.rounds, iterate_of_stops h.last]

/-- **A round that is cut off has written what the sink has taken.** -/
theorem CutOff.output_eq {n : Nat} {front : Bytes} {fault : IoFault} (h : l.CutOff n front fault) :
    (l.reached (n + 1) (n + 1)).session.sink.output = l.session.sink.output ++ front := by
  rw [h.left, Sink.output_struck, Sink.output_writeAll h.struck.taken]

/-- **A round is cut off if the sink does not take what it prints.** -/
theorem exists_cutOff {n : Nat} {d : Delivery} {fault : IoFault} (hpass : ∀ i < n, l.Passes i)
    (hheard : l.Heard n) (hstop : l.stopsAfter n = false) (hd : (l.answerAt n).result = .ok d)
    (hfails : (l.session.sink.writeAll (l.told (n + 1))).1 = .error fault) :
    ∃ front, l.CutOff n front fault := by
  have hwrite := writeAll_printedAt hheard n
  obtain ⟨piece, hpiece, hne, hstruck, hleft⟩ :=
    Sink.struckAfter_of_error ((congrArg Prod.fst hwrite).trans hfails)
  have hfront : l.session.sink.writeAll (l.told n ++ piece) =
      (l.reached n n).session.sink.writeAll piece := Sink.writeAll_append_of_ok piece hheard
  refine ⟨l.told n ++ piece, ?_⟩
  exact {
    rounds := fun i hi => continues_of_passes (hheard.mono hi) (hpass i hi)
    last := by
      rw [step_reached hheard, if_neg (Bool.eq_false_iff.1 hstop), hd, hfails]
    before := List.prefix_append _ _
    within := by
      rw [told_succ]
      exact (List.prefix_append_right_inj _).2 hpiece
    short := by
      rw [told_succ]
      exact fun heq => hne (List.append_cancel_left heq)
    struck := Sink.StruckAfter.append hheard hstruck
    left := by
      rw [hfront, ← hleft, hwrite]
      rfl }

/-- **If the sink does not take all, there is a first read about which it does not.** -/
theorem exists_first_unheard {n : Nat} {fault : IoFault}
    (h : (l.session.sink.writeAll (l.told n)).1 = .error fault) :
    ∃ m < n, l.Heard m ∧ (l.session.sink.writeAll (l.told (m + 1))).1 = .error fault := by
  induction n with
  | zero => cases h
  | succ n ih =>
    cases hn : (l.session.sink.writeAll (l.told n)).1 with
    | ok _ => exact ⟨n, Nat.lt_succ_self n, hn, h⟩
    | error earlier =>
      rw [told_succ, Sink.writeAll_append_of_error _ hn] at h
      obtain ⟨m, hm, hfound⟩ := ih h
      exact ⟨m, Nat.lt_succ_of_lt hm, hfound⟩

/-- **What is printed about fewer reads comes first.** -/
theorem told_mono {m n : Nat} (h : m ≤ n) : l.told m <+: l.told n := by
  induction h with
  | refl => exact List.prefix_refl _
  | step _ ih =>
    rw [told_succ]
    exact ih.trans (List.prefix_append _ _)

/-- **Something is printed about a read only if it succeeds.** -/
theorem exists_delivery {n : Nat} (h : l.printedAt n ≠ []) : ∃ d, (l.answerAt n).result = .ok d := by
  rw [printedAt] at h
  cases hresult : (l.answerAt n).result with
  | ok d => exact ⟨d, rfl⟩
  | error e =>
    rw [hresult] at h
    exact absurd rfl h

/-- **A round that reads has not been told to stop.** -/
theorem goes_of_lt {n m reads : Nat} {failure : Option Failure} (hpass : ∀ i < n, l.Passes i)
    (hends : l.Ends n reads failure) (hm : m < reads) : l.stopsAfter m = false ∧ m ≤ n := by
  rcases Nat.lt_or_ge m n with hless | hge
  · exact ⟨(hpass m hless).1, Nat.le_of_lt hless⟩
  · cases hends with
    | told _ => omega
    | interrupted hgo _ | failed hgo _ _ | undecodable hgo _ _ =>
      obtain rfl : m = n := by omega
      exact ⟨hgo, Nat.le_refl m⟩

/-- **How the rounds can go**: as the script says, if the sink takes what they print, or else up to a
round that is cut off. -/
theorem iterate_cases (l : Loop) :
    ∃ n reads failure, (∀ i < n, l.Passes i) ∧ l.Ends n reads failure ∧
      (l.Heard reads ∧ l.iterate = (failure, l.reached (n + 1) reads) ∨
        ∃ m < reads, ∃ front fault, l.CutOff m front fault) := by
  obtain ⟨n, reads, failure, hpass, hends, -⟩ := l.exists_ends
  refine ⟨n, reads, failure, hpass, hends, ?_⟩
  cases hall : (l.session.sink.writeAll (l.told reads)).1 with
  | ok _ =>
    have hheard : l.Heard reads := hall
    exact Or.inl ⟨hheard, iterate_of_ends hheard hpass hends⟩
  | error fault =>
    obtain ⟨m, hm, hheard, hfails⟩ := exists_first_unheard hall
    obtain ⟨hgo, hmn⟩ := goes_of_lt hpass hends hm
    have hprinted : l.printedAt m ≠ [] := by
      intro hnone
      rw [told_succ, hnone, List.append_nil, hheard.ok] at hfails
      cases hfails
    obtain ⟨d, hd⟩ := exists_delivery hprinted
    obtain ⟨front, hcut⟩ :=
      exists_cutOff (fun i hi => hpass i (Nat.lt_of_lt_of_le hi hmn)) hheard hgo hd hfails
    exact Or.inr ⟨m, hm, front, fault, hcut⟩

/-- The loop with another sink to print to. -/
def onto (l : Loop) (sink : Sink) : Loop := { l with session := { l.session with sink } }

/-- **The buffer does not depend on the sink.** -/
theorem bufferAfter_onto (sink : Sink) (n : Nat) :
    (l.onto sink).bufferAfter n = l.bufferAfter n := by
  induction n with
  | zero => rfl
  | succ n ih =>
    rw [bufferAfter, bufferAfter, ih]
    rfl

/-- **The signals do not depend on the sink.** -/
theorem signalsAfter_onto (sink : Sink) (n : Nat) :
    (l.onto sink).signalsAfter n = l.signalsAfter n := by
  induction n with
  | zero => rfl
  | succ n ih =>
    rw [signalsAfter, signalsAfter, ih]
    rfl

/-- **What the stop check says does not depend on the sink.** -/
theorem stopsAfter_onto (sink : Sink) (n : Nat) :
    (l.onto sink).stopsAfter n = l.stopsAfter n := by
  rw [stopsAfter, signalsAfter_onto]
  rfl

/-- **What a read delivers does not depend on the sink.** -/
theorem itemsAt_onto (sink : Sink) (n count : Nat) :
    (l.onto sink).itemsAt n count = l.itemsAt n count := by
  rw [itemsAt, bufferAfter_onto]
  rfl

/-- **What is to be printed does not depend on the sink.** -/
theorem told_onto (sink : Sink) (n : Nat) : (l.onto sink).told n = l.told n := by
  have hprinted : ∀ i, (l.onto sink).printedAt i = l.printedAt i := by
    intro i
    simp only [printedAt, itemsAt_onto]
    rfl
  rw [told, funext hprinted]
  rfl

/-- **A round that passes does so whatever the sink.** -/
theorem Passes.onto {n : Nat} (h : l.Passes n) (sink : Sink) : (l.onto sink).Passes n := by
  obtain ⟨hstop, d, hd, hfault⟩ := h
  refine ⟨(stopsAfter_onto sink n).trans hstop, d, hd, ?_⟩
  rw [itemsAt_onto]
  exact hfault

/-- **A round that ends the loop does so whatever the sink.** -/
theorem Ends.onto {n reads : Nat} {failure : Option Failure} (h : l.Ends n reads failure)
    (sink : Sink) : (l.onto sink).Ends n reads failure := by
  have hstops := stopsAfter_onto (l := l) sink n
  cases h with
  | told hstop => exact .told (hstops.trans hstop)
  | interrupted hstop hresult => exact .interrupted (hstops.trans hstop) hresult
  | failed hstop hresult hne => exact .failed (hstops.trans hstop) hresult hne
  | undecodable hstop hresult hfault =>
    refine .undecodable (hstops.trans hstop) hresult ?_
    rw [itemsAt_onto]
    exact hfault

/-- **The end of a run**, once the rounds have led somewhere: what is held is released. -/
theorem run_of_iterate {failure : Option Failure} {k n : Nat}
    (h : l.iterate = (failure, l.reached k n)) :
    l.run.1 = { failure, cleanup := l.session.releaseFailures } ∧
      l.run.2.session.channel.calls =
        l.iterate.2.session.channel.calls ++ l.session.releaseCalls := by
  obtain ⟨hfailures, hcalls, -, -, -⟩ := (l.reached k n).session.release_spec
  constructor
  · rw [run_eq, h, hfailures]
    rfl
  · rw [run_eq, h]
    exact hcalls

/-- **A run compared with the same run on a sink `quiet` that never fails.** The rounds of the latter
print `all` and make the calls `reads`; those of the run print `front` and make the calls `made`. -/
structure Compared (l : Loop) (quiet : Sink) (all front : Bytes) (reads made : List Call) :
    Prop where
  /-- What the rounds print where nothing fails. -/
  quietOutput : (l.onto quiet).iterate.2.session.sink.output = quiet.output ++ all
  /-- What they call there. -/
  quietCalls : (l.onto quiet).iterate.2.session.channel.calls = l.session.channel.calls ++ reads
  /-- These calls are reads. -/
  quietReads : ∀ call ∈ reads, call = .read l.buffer.length
  /-- What the sink of the loop takes of what the rounds print. -/
  output : l.iterate.2.session.sink.output = l.session.sink.output ++ front
  /-- What the rounds call then. -/
  calls : l.iterate.2.session.channel.calls = l.session.channel.calls ++ made
  /-- The sink takes a beginning. -/
  takes : front <+: all
  /-- The reads are the first ones. -/
  makes : made <+: reads
  /-- If the sink takes all, the rounds go as they go where nothing fails. -/
  whole : front = all → made = reads ∧ l.run.1.failure = (l.onto quiet).run.1.failure
  /-- If it does not, the round of the last read is cut off, and the fault is the failure. -/
  cut : front ≠ all → ∃ n fault, made.length = n + 1 ∧ l.CutOff n front fault ∧
    l.iterate = (some (.output fault), l.reached (n + 1) (n + 1)) ∧
    l.run.1.failure = some (.output fault)
  /-- Behind the rounds come the calls that release what is held. -/
  release : l.run.2.session.channel.calls =
    l.iterate.2.session.channel.calls ++ l.session.releaseCalls
  /-- They come where nothing fails, too. -/
  quietRelease : (l.onto quiet).run.2.session.channel.calls =
    (l.onto quiet).iterate.2.session.channel.calls ++ l.session.releaseCalls
  /-- What could not be released is the same. -/
  cleanup : l.run.1.cleanup = (l.onto quiet).run.1.cleanup

/-- **Where the rounds lead**, compared with what the script says: the sink takes a beginning of what is
to be printed, and only if that is not all of it the rounds end earlier. -/
theorem exists_front (l : Loop) :
    ∃ n reads failure, (∀ i < n, l.Passes i) ∧ l.Ends n reads failure ∧
      ∃ k made front cause, l.iterate = (cause, l.reached k made) ∧
        l.iterate.2.session.sink.output = l.session.sink.output ++ front ∧
        front <+: l.told reads ∧ made ≤ reads ∧
        (front = l.told reads → made = reads ∧ cause = failure) ∧
        (front ≠ l.told reads → ∃ m fault, made = m + 1 ∧ l.CutOff m front fault) := by
  obtain ⟨n, reads, failure, hpass, hends, ⟨hheard, hiterate⟩ | ⟨m, hm, front, fault, hcut⟩⟩ :=
    l.iterate_cases
  · refine ⟨n, reads, failure, hpass, hends, n + 1, reads, l.told reads, failure, hiterate, ?_,
      List.prefix_refl _, Nat.le_refl _, fun _ => ⟨rfl, rfl⟩, fun hne => absurd rfl hne⟩
    rw [hiterate]
    exact Sink.output_writeAll hheard
  · refine ⟨n, reads, failure, hpass, hends, m + 1, m + 1, front, some (.output fault),
      hcut.iterate_eq, ?_, hcut.within.trans (told_mono hm), hm, fun heq => ?_,
      fun _ => ⟨m, fault, rfl, hcut⟩⟩
    · rw [hcut.iterate_eq]
      exact hcut.output_eq
    · -- What is taken is shorter than what is printed about the reads so far, so it is not all.
      have hless : front.length ≤ (l.told (m + 1)).length := hcut.within.length_le
      have hmore : (l.told (m + 1)).length ≤ front.length := heq ▸ (told_mono hm).length_le
      exact absurd (hcut.within.eq_of_length (Nat.le_antisymm hless hmore)) hcut.short

/-- **A failing sink cuts a run off and changes nothing else.** Its run prints a beginning of what is
printed where nothing fails, reads no more than is read there, and is released in the same way. -/
theorem run_compared (l : Loop) {quiet : Sink} (h : quiet.Unfailing) :
    ∃ all front reads made, l.Compared quiet all front reads made := by
  obtain ⟨n, reads, failure, hpass, hends, k, made, front, cause, hiterate, houtput, htakes, hmakes,
    hwhole, hcut⟩ := l.exists_front
  have hquiet : (l.onto quiet).iterate = (failure, (l.onto quiet).reached (n + 1) reads) :=
    iterate_of_ends (h _) (fun i hi => (hpass i hi).onto quiet) (hends.onto quiet)
  obtain ⟨hreport, hrelease⟩ := run_of_iterate hiterate
  obtain ⟨hquietReport, hquietRelease⟩ := run_of_iterate hquiet
  refine ⟨l.told reads, front, List.replicate reads (.read l.buffer.length),
    List.replicate made (.read l.buffer.length), ?_⟩
  exact {
    quietOutput := by
      rw [hquiet, ← told_onto quiet]
      exact Sink.output_writeAll (h _)
    quietCalls := by
      rw [hquiet]
      rfl
    quietReads := fun _ hcall => List.eq_of_mem_replicate hcall
    output := houtput
    calls := by
      rw [hiterate]
      rfl
    takes := htakes
    makes := ⟨List.replicate (reads - made) (.read l.buffer.length), by
      rw [List.replicate_append_replicate, Nat.add_sub_cancel' hmakes]⟩
    whole := fun heq => by
      obtain ⟨rfl, rfl⟩ := hwhole heq
      exact ⟨rfl, by rw [hreport, hquietReport]⟩
    cut := fun hne => by
      obtain ⟨m, fault, rfl, hoff⟩ := hcut hne
      have hend := hoff.iterate_eq
      exact ⟨m, fault, List.length_replicate, hoff, hend, by rw [(run_of_iterate hend).1]⟩
    release := hrelease
    quietRelease := hquietRelease
    cleanup := by
      rw [hreport, hquietReport]
      rfl }

/-- A sink that interrupts a write, and is full in the middle of the second line. -/
def fullSink : Sink := { faults := [⟨0, 3, .system 4, true⟩, ⟨1, 5, .system 28, false⟩] }

/-- The hypothesis of `run_compared` is satisfiable, with a run that is cut off: of the two lines about
its first read the sink takes one and a half, so there is no second read. -/
theorem run_compared_full :
    ({} : Sink).Unfailing ∧
      (∃ all front reads made,
        (overclaimedLoop.onto fullSink).Compared {} all front reads made) ∧
      (overclaimedLoop.onto fullSink).run.1 = { failure := some (.output (.system 28)) } ∧
      (overclaimedLoop.onto fullSink).run.2.session.channel.calls =
        [.read 40, .remove ⟨1⟩, .close] :=
  have hquiet : ({} : Sink).Unfailing := Sink.unfailing_of_interruptions (by decide)
  ⟨hquiet, run_compared _ hquiet, by decide +kernel, by decide +kernel⟩

end Loop
end Inotify
