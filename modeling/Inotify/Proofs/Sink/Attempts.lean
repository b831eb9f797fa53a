/- # Writing in attempts

A stream is handed bytes call by call, and a call need not take them all. It takes bytes up to a fault, or
fewer if it has no room for more; only a fault that waits for the first byte fails it (`Sink.attempt`). What
a call says decides what is tried next (`Sink.persist`):

| a call | then |
| --- | --- |
| takes some bytes | the others are tried |
| takes none | the write fails |
| is interrupted | the same bytes are tried again |
| fails with another fault | the write fails with it |

The loop ends: a call that takes bytes leaves fewer of them, and one that is interrupted leaves fewer
faults. What it comes to does not depend on how much each call takes: it is the write that takes byte after
byte (`Sink.persist_eq_writeAll`), by induction on the calls, as each call does a first part of that write.
So runs of bytes that are written in turn are written as one (`Sink.persistAll_eq_writeAll`).
-/

import Inotify.Proofs.Sink.Strike

namespace Inotify

namespace SinkFault

variable {line column : Nat} {fs : List SinkFault} {f : SinkFault}

/-- **Where no fault waits, none strikes.** -/
theorem strike_of_none (h : fs.find? (fun f => f.isAt line column) = none) :
    strike line column fs = (none, fs) := by
  induction fs with
  | nil => rfl
  | cons g fs ih =>
    rw [List.find?_cons] at h
    cases hat : g.isAt line column with
    | true =>
      rw [hat] at h
      cases h
    | false =>
      rw [hat] at h
      simp [strike, hat, ih h]

/-- **The first fault at the position strikes**, or what waits behind it if it is an interruption. -/
theorem strike_of_some (h : fs.find? (fun f => f.isAt line column) = some f) :
    strike line column fs =
      if f.isInterruption then strike line column (fs.eraseP fun f => f.isAt line column)
      else (some f.fault, if f.once then fs.eraseP fun f => f.isAt line column else fs) := by
  induction fs with
  | nil => cases h
  | cons g fs ih =>
    rw [List.find?_cons] at h
    cases hat : g.isAt line column with
    | true =>
      rw [hat] at h
      obtain rfl := Option.some.inj h
      simp [strike, hat]
    | false =>
      rw [hat] at h
      have hmore : ∀ fs, strike line column (g :: fs) =
          ((strike line column fs).1, g :: (strike line column fs).2) := by
        intro fs
        rw [strike, if_neg (by simp [hat])]
      rw [hmore, ih h, List.eraseP_cons, hat, cond_false, hmore]
      cases f.isInterruption <;> cases f.once <;> rfl

end SinkFault

namespace Sink

variable {s s' : Sink} {f : SinkFault} {b : UInt8} {bs : Bytes}

/-! ## One call -/

/-- The fault that waits at the position of the sink, interruptions among them. -/
def due (s : Sink) : Option SinkFault := s.faults.find? fun f => f.isAt s.line s.column

/-- The sink when a call has met the fault that was due. -/
def met (s : Sink) (f : SinkFault) : Sink :=
  if f.once || f.isInterruption then
    { s with faults := s.faults.eraseP fun f => f.isAt s.line s.column }
  else s

/-- Takes bytes up to a fault, while there is room. -/
def fill : Nat → Sink → Bytes → Nat × Sink
  | 0, s, _ => (0, s)
  | _ + 1, s, [] => (0, s)
  | room + 1, s, b :: bs =>
    match s.due with
    | some _ => (0, s)
    | none =>
      let (n, s') := fill room (s.accept b) bs
      (n + 1, s')

/-- **What one call does**: how many bytes it takes, or how it fails. A call with no bytes does nothing; any
other takes a byte, and then as many as there is room for, or meets the fault that is due. -/
def attempt (room : Nat) (s : Sink) : Bytes → Except IoFault Nat × Sink
  | [] => (.ok 0, s)
  | b :: bs =>
    match s.due with
    | some f => (if f.fault = .writeZero then .ok 0 else .error f.fault, s.met f)
    | none =>
      let (n, s') := fill room (s.accept b) bs
      (.ok (n + 1), s')

/-- **Where no fault is due, a byte is taken.** -/
theorem writeAll_of_due_none (h : s.due = none) (b : UInt8) (bs : Bytes) :
    s.writeAll (b :: bs) = (s.accept b).writeAll bs := by
  rw [writeAll, SinkFault.strike_of_none h]

/-- **An interruption changes nothing but that it is gone.** -/
theorem writeAll_of_interruption (h : s.due = some f) (hagain : f.isInterruption = true) (b : UInt8)
    (bs : Bytes) : s.writeAll (b :: bs) = (s.met f).writeAll (b :: bs) := by
  rw [writeAll, SinkFault.strike_of_some h, if_pos hagain, met, hagain, Bool.or_true, if_pos rfl, writeAll]

/-- **Another fault that is due fails the write.** -/
theorem writeAll_of_fault (h : s.due = some f) (hfinal : f.isInterruption = false) (b : UInt8) (bs : Bytes) :
    s.writeAll (b :: bs) = (.error f.fault, s.met f) := by
  rw [writeAll, SinkFault.strike_of_some h, hfinal, met, hfinal, Bool.or_false]
  cases f.once <;> rfl

/-- **The bytes that are filled in are the first of a write.** -/
theorem writeAll_fill (room : Nat) (s : Sink) (bs : Bytes) :
    s.writeAll bs = (fill room s bs).2.writeAll (bs.drop (fill room s bs).1) := by
  induction room generalizing s bs with
  | zero => rfl
  | succ room ih =>
    cases bs with
    | nil => rfl
    | cons b bs =>
      cases hdue : s.due with
      | some f => simp [fill, hdue]
      | none =>
        rw [writeAll_of_due_none hdue, ih]
        simp [fill, hdue]

/-- **An interruption that is met is gone**, so fewer faults are left. -/
theorem length_faults_met (h : s.due = some f) (hagain : f.isInterruption = true) :
    (s.met f).faults.length < s.faults.length := by
  have hmem : f ∈ s.faults := List.mem_of_find?_eq_some h
  have hat : f.isAt s.line s.column = true := by simpa using List.find?_some h
  have hpos : 0 < s.faults.length := List.length_pos_of_mem hmem
  rw [met, hagain, Bool.or_true, if_pos rfl]
  show (s.faults.eraseP fun f => f.isAt s.line s.column).length < s.faults.length
  rw [List.length_eraseP_of_mem hmem hat]
  omega

/-- **What a call with bytes comes to**: it has done the first part of the write, or met an interruption, or
the fault that ends the write. -/
theorem attempt_cases (room : Nat) (s : Sink) (hbs : bs ≠ []) :
    (∃ n s', s.attempt room bs = (.ok (n + 1), s') ∧ s.writeAll bs = s'.writeAll (bs.drop (n + 1))) ∨
    ∃ f, s.due = some f ∧
      s.attempt room bs = (if f.fault = .writeZero then .ok 0 else .error f.fault, s.met f) ∧
      s.writeAll bs = if f.isInterruption then (s.met f).writeAll bs else (.error f.fault, s.met f) := by
  obtain ⟨b, bs, rfl⟩ := List.exists_cons_of_ne_nil hbs
  cases hdue : s.due with
  | none =>
    left
    refine ⟨(fill room (s.accept b) bs).1, (fill room (s.accept b) bs).2, by simp [attempt, hdue], ?_⟩
    rw [writeAll_of_due_none hdue, writeAll_fill room, List.drop_succ_cons]
  | some f =>
    right
    refine ⟨f, rfl, by simp [attempt, hdue], ?_⟩
    cases hagain : f.isInterruption with
    | true => exact writeAll_of_interruption hdue hagain b bs
    | false => exact writeAll_of_fault hdue hagain b bs

/-- **An interruption is the fault of its number.** -/
theorem isInterruption_iff : f.isInterruption = true ↔ f.fault = .system Errno.interrupted.code := by
  rw [SinkFault.isInterruption, beq_iff_eq]

/-- **A call that is interrupted leaves fewer faults.** -/
theorem length_faults_of_interrupted {room : Nat}
    (h : s.attempt room bs = (.error (.system Errno.interrupted.code), s')) :
    s'.faults.length < s.faults.length := by
  have hbs : bs ≠ [] := by
    rintro rfl
    cases h
  rcases attempt_cases room s hbs with ⟨n, _, hattempt, -⟩ | ⟨f, hdue, hattempt, -⟩
  · rw [hattempt] at h
    cases h
  · rw [hattempt] at h
    obtain ⟨hfault, rfl⟩ := Prod.mk.inj h
    split at hfault
    · cases hfault
    · exact length_faults_met hdue (isInterruption_iff.2 (Except.error.inj hfault))

/-! ## The loop of calls -/

/-- **Calls for the same bytes until all are taken**, or until a call fails for good. How much room there is
for a call may depend on all there is. -/
def persist (room : Sink → Bytes → Nat) (s : Sink) (bs : Bytes) : Except IoFault Unit × Sink :=
  if bs = [] then (.ok (), s)
  else
    match _called : s.attempt (room s bs) bs with
    | (.ok 0, s') => (.error .writeZero, s')
    | (.ok (n + 1), s') => persist room s' (bs.drop (n + 1))
    | (.error fault, s') =>
      if fault = .system Errno.interrupted.code then persist room s' bs else (.error fault, s')
termination_by (bs.length, s.faults.length)
decreasing_by
  · have hpos : 0 < bs.length := List.length_pos_iff.2 (by assumption)
    have hless : (bs.drop (n + 1)).length < bs.length := by
      rw [List.length_drop]
      omega
    exact Prod.Lex.left _ _ hless
  · subst fault
    exact Prod.Lex.right _ (length_faults_of_interrupted _called)

/-- **Calling until all is taken is taking byte after byte**, however much the calls take. -/
theorem persist_eq_writeAll (room : Sink → Bytes → Nat) (s : Sink) (bs : Bytes) :
    s.persist room bs = s.writeAll bs := by
  fun_induction persist room s bs with
  | case1 s => rfl
  | case2 s bs hbs s' hcalled =>
    rcases attempt_cases (room s bs) s hbs with ⟨n, _, hattempt, -⟩ | ⟨f, -, hattempt, hwrite⟩
    · cases hattempt.symm.trans hcalled
    · obtain ⟨hnone, rfl⟩ := Prod.mk.inj (hattempt.symm.trans hcalled)
      split at hnone
      · next hzero =>
        have hfinal : f.isInterruption = false := by
          rw [SinkFault.isInterruption, hzero]
          rfl
        rw [hwrite, hfinal, hzero]
        rfl
      · cases hnone
  | case3 s bs hbs n s' hcalled ih =>
    rcases attempt_cases (room s bs) s hbs with ⟨m, _, hattempt, hwrite⟩ | ⟨f, -, hattempt, -⟩
    · cases hattempt.symm.trans hcalled
      rw [ih, hwrite]
    · obtain ⟨hsome, -⟩ := Prod.mk.inj (hattempt.symm.trans hcalled)
      split at hsome <;> cases hsome
  | case4 s bs hbs s' hcalled ih =>
    rcases attempt_cases (room s bs) s hbs with ⟨m, _, hattempt, -⟩ | ⟨f, -, hattempt, hwrite⟩
    · cases hattempt.symm.trans hcalled
    · obtain ⟨hfault, rfl⟩ := Prod.mk.inj (hattempt.symm.trans hcalled)
      split at hfault
      · cases hfault
      · rw [ih, hwrite, if_pos (isInterruption_iff.2 (Except.error.inj hfault))]
  | case5 s bs hbs fault s' hcalled hfinal =>
    rcases attempt_cases (room s bs) s hbs with ⟨m, _, hattempt, -⟩ | ⟨f, -, hattempt, hwrite⟩
    · cases hattempt.symm.trans hcalled
    · obtain ⟨hfault, rfl⟩ := Prod.mk.inj (hattempt.symm.trans hcalled)
      split at hfault
      · cases hfault
      · obtain rfl := Except.error.inj hfault
        rw [hwrite, if_neg fun hagain => hfinal (isInterruption_iff.1 hagain)]

/-- **Runs of bytes one after the other**, each until all of it is taken. -/
def persistAll (room : Sink → Bytes → Nat) : Sink → List Bytes → Except IoFault Unit × Sink
  | s, [] => (.ok (), s)
  | s, p :: ps =>
    match s.persist room p with
    | (.ok (), s') => persistAll room s' ps
    | (.error fault, s') => (.error fault, s')

/-- **Runs of bytes one after the other are one write of them all.** -/
theorem persistAll_eq_writeAll (room : Sink → Bytes → Nat) (s : Sink) (ps : List Bytes) :
    s.persistAll room ps = s.writeAll ps.flatten := by
  rw [← writePieces_eq_writeAll]
  induction ps generalizing s with
  | nil => rfl
  | cons p ps ih =>
    rw [persistAll, writePieces, persist_eq_writeAll]
    rcases s.writeAll p with ⟨fault | ⟨⟩, s'⟩
    · rfl
    · exact ih s'

/-! ## How a write ends -/

/-- **A write takes all of its bytes, or the bytes before the first fault** that is no interruption. -/
theorem writeAll_cases (s : Sink) (bs : Bytes) :
    (s.writeAll bs).1 = .ok () ∧ (s.writeAll bs).2.output = s.output ++ bs ∧
        (∀ front, front <+: bs → front ≠ bs → (s.writeAll front).2.nextFault = none) ∨
      ∃ front fault, front <+: bs ∧ front ≠ bs ∧ s.StruckAfter front fault ∧
        (s.writeAll bs).1 = .error fault ∧ (s.writeAll bs).2.output = s.output ++ front := by
  cases hresult : (s.writeAll bs).1 with
  | ok _ =>
    left
    exact ⟨rfl, output_writeAll hresult, fun _ => nextFault_of_taken hresult⟩
  | error fault =>
    right
    obtain ⟨front, hfront, hne, hstruck, hleft⟩ := struckAfter_of_error hresult
    refine ⟨front, fault, hfront, hne, hstruck, rfl, ?_⟩
    rw [hleft, output_struck, output_writeAll hstruck.taken]

end Sink
end Inotify
