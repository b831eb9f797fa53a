/- # Where a fault stops a write

A write takes its bytes one after another until a fault strikes, so a write that fails has taken a
proper beginning of its bytes and nothing else. The fault is then found by looking: it is the first one
waiting at the position that the sink has reached which is no interruption (`Sink.nextFault`), and at
no position before was there any (`Sink.StruckAfter`). Interruptions are met by writing again and are
used up on the way.
-/

import Inotify.Proofs.Session.Writing

namespace Inotify

namespace SinkFault

/-- **What strikes is the first fault at the position that is no interruption.** -/
theorem strike_eq_find (line column : Nat) (fs : List SinkFault) :
    (strike line column fs).1 =
      (fs.find? fun f => f.isAt line column && !f.isInterruption).map SinkFault.fault := by
  induction fs with
  | nil => rfl
  | cons f fs ih =>
    rw [strike, List.find?_cons]
    cases hat : f.isAt line column with
    | false =>
      rw [Bool.false_and]
      exact ih
    | true =>
      rw [Bool.true_and, if_pos rfl]
      cases hagain : f.isInterruption with
      | false => rfl
      | true => exact ih

/-- **No fault waits that did not wait before.** -/
theorem strike_subset (line column : Nat) (fs : List SinkFault) : (strike line column fs).2 ⊆ fs := by
  induction fs with
  | nil => exact List.Subset.refl _
  | cons f fs ih =>
    rw [strike]
    split
    · split
      · exact List.subset_cons_of_subset f ih
      · show (if f.once then fs else f :: fs) ⊆ f :: fs
        split
        · exact List.subset_cons_self f fs
        · exact List.Subset.refl _
    · exact List.cons_subset_cons f ih

end SinkFault

namespace Sink

/-- The fault that the next byte will meet, if there is one: the first that waits at the position of
the sink and is no interruption. -/
def nextFault (s : Sink) : Option IoFault :=
  (s.faults.find? fun f => f.isAt s.line s.column && !f.isInterruption).map SinkFault.fault

/-- The sink when the next byte has met what waits for it. -/
def struck (s : Sink) : Sink := { s with faults := (SinkFault.strike s.line s.column s.faults).2 }

/-- **A sink takes `front`, and then a fault strikes.** -/
structure StruckAfter (s : Sink) (front : Bytes) (fault : IoFault) : Prop where
  /-- All of `front` is taken. -/
  taken : (s.writeAll front).1 = .ok ()
  /-- No fault but interruptions strikes on the way. -/
  first : ∀ before, before <+: front → before ≠ front → (s.writeAll before).2.nextFault = none
  /-- The next byte meets the fault. -/
  hit : (s.writeAll front).2.nextFault = some fault

/-- **A byte is taken unless a fault waits for it.** -/
theorem writeAll_cons (s : Sink) (b : UInt8) (bs : Bytes) :
    s.writeAll (b :: bs) =
      match s.nextFault with
      | some fault => (.error fault, s.struck)
      | none => (s.struck.accept b).writeAll bs := by
  rw [writeAll, nextFault, ← SinkFault.strike_eq_find, struck]
  rcases SinkFault.strike s.line s.column s.faults with ⟨_ | fault, faults⟩ <;> rfl

/-- **A fault that waits for a byte fails the write of it.** -/
theorem nextFault_of_ok {s : Sink} {b : UInt8} {bs : Bytes} (h : (s.writeAll (b :: bs)).1 = .ok ()) :
    s.nextFault = none := by
  rw [writeAll_cons] at h
  cases hnext : s.nextFault with
  | none => rfl
  | some fault =>
    rw [hnext] at h
    cases h

/-- **Where bytes are taken, no fault but interruptions strikes** in front of any of them. -/
theorem nextFault_of_taken {s : Sink} {front before : Bytes} (taken : (s.writeAll front).1 = .ok ())
    (hbefore : before <+: front) (hne : before ≠ front) : (s.writeAll before).2.nextFault = none := by
  obtain ⟨rest, rfl⟩ := hbefore
  cases rest with
  | nil => exact absurd (List.append_nil before).symm hne
  | cons b rest =>
    rw [writeAll_append_of_ok _ (writeAll_ok_of_append taken)] at taken
    exact nextFault_of_ok taken

/-- **A fault behind bytes that are taken is the first.** -/
theorem StruckAfter.of_taken {s : Sink} {front : Bytes} {fault : IoFault}
    (taken : (s.writeAll front).1 = .ok ()) (hit : (s.writeAll front).2.nextFault = some fault) :
    s.StruckAfter front fault where
  taken := taken
  first := fun _ => nextFault_of_taken taken
  hit := hit

/-- **A fault behind bytes that are taken** is behind these bytes and what is taken after them. -/
theorem StruckAfter.append {s : Sink} {xs front : Bytes} {fault : IoFault}
    (hxs : (s.writeAll xs).1 = .ok ()) (h : (s.writeAll xs).2.StruckAfter front fault) :
    s.StruckAfter (xs ++ front) fault := by
  have hwrite := writeAll_append_of_ok front hxs
  exact .of_taken (hwrite ▸ h.taken) (hwrite ▸ h.hit)

/-- **A write that fails is stopped by a fault**: the sink has taken a proper beginning of the bytes, and
is left as the fault left it. -/
theorem struckAfter_of_error {s : Sink} {bs : Bytes} {fault : IoFault}
    (h : (s.writeAll bs).1 = .error fault) :
    ∃ front, front <+: bs ∧ front ≠ bs ∧ s.StruckAfter front fault ∧
      (s.writeAll bs).2 = (s.writeAll front).2.struck := by
  induction bs generalizing s with
  | nil => cases h
  | cons b bs ih =>
    rw [writeAll_cons] at h ⊢
    cases hnext : s.nextFault with
    | some met =>
      rw [hnext] at h
      obtain rfl : met = fault := Except.error.inj h
      exact ⟨[], List.nil_prefix, (List.cons_ne_nil b bs).symm, .of_taken rfl hnext, rfl⟩
    | none =>
      rw [hnext] at h
      obtain ⟨front, hfront, hne, hstruck, hleft⟩ := ih h
      -- The byte is taken first, so the beginning that is taken is longer by it.
      have hcons : ∀ xs, s.writeAll (b :: xs) = (s.struck.accept b).writeAll xs := fun xs => by
        rw [writeAll_cons, hnext]
      refine ⟨b :: front, (List.prefix_cons_inj b).2 hfront, fun heq => hne (List.cons.inj heq).2,
        .of_taken ?_ ?_, ?_⟩
      · rw [hcons]
        exact hstruck.taken
      · rw [hcons]
        exact hstruck.hit
      · rw [hcons]
        exact hleft

/-- **Writing adds no fault.** -/
theorem faults_writeAll_subset (s : Sink) (bs : Bytes) : (s.writeAll bs).2.faults ⊆ s.faults := by
  induction bs generalizing s with
  | nil => exact List.Subset.refl _
  | cons b bs ih =>
    rw [writeAll_cons]
    have hstruck : s.struck.faults ⊆ s.faults := SinkFault.strike_subset s.line s.column s.faults
    cases s.nextFault with
    | some fault => exact hstruck
    | none => exact List.Subset.trans (ih (s.struck.accept b)) hstruck

/-- **A fault that strikes was waiting** from the beginning. -/
theorem StruckAfter.exists_fault {s : Sink} {front : Bytes} {fault : IoFault}
    (h : s.StruckAfter front fault) : ∃ f ∈ s.faults, f.fault = fault := by
  obtain ⟨f, hfind, hf⟩ := Option.map_eq_some_iff.1 h.hit
  exact ⟨f, s.faults_writeAll_subset front (List.mem_of_find?_eq_some hfind), hf⟩

/-- **A write fails with a fault that was waiting.** -/
theorem exists_fault_of_error {s : Sink} {bs : Bytes} {fault : IoFault}
    (h : (s.writeAll bs).1 = .error fault) : ∃ f ∈ s.faults, f.fault = fault := by
  obtain ⟨front, -, -, hstruck, -⟩ := struckAfter_of_error h
  exact hstruck.exists_fault

/-- **A fault takes no byte.** -/
theorem output_struck (s : Sink) : s.struck.output = s.output := rfl

end Sink
end Inotify
