/- # Exit codes

A run exits with the code of its first failure, and with zero if there is none. So a failed run looks
like a clean one if that code is zero. It is zero for two kinds of failures only (`Failure.Unnumbered`):
those that wrap the error that stands for all numbers not listed, and a fault of the sink that carries
the number zero.

Nothing but what a run meets outside brings either of them about. Where a channel refuses calls with
listed numbers only, and no fault of the sink has the number zero (`Monitor.Surroundings.Numbered`), all
failures of a run have a code (`Monitor.Course.numbered`), and it exits with zero exactly if it did not
fail. Where a call is refused with a number that is not listed, the run fails and may exit with zero all
the same.
-/

import Inotify.Path
import Inotify.Proofs.Loop.Cutoff
import Inotify.Proofs.Monitor.Bracket

namespace Inotify

namespace Errno

/-- **Only the unknown error has the number zero.** -/
theorem code_eq_zero_iff {e : Errno} : e.code = 0 ↔ e = unknown := by
  constructor
  · intro hzero
    rw [← ofCode_code e, hzero]
    rfl
  · rintro rfl
    rfl

/-- **A number becomes the unknown error exactly if it is not listed.** -/
theorem ofCode_eq_unknown_iff {n : Int32} : ofCode n = unknown ↔ listing.lookup n = none := by
  by_cases hlisted : (listing.lookup n).isSome
  · rw [ofCode, dif_pos hlisted, ← code_eq_zero_iff]
    refine iff_of_false ?_ (Option.isSome_iff_ne_none.1 hlisted)
    rintro rfl
    exact absurd hlisted (by decide)
  · rw [ofCode, dif_neg hlisted]
    exact iff_of_true rfl (Option.not_isSome_iff_eq_none.1 hlisted)

end Errno

/-- **The error behind a fault is unknown** exactly if its number is not zero and not listed. -/
theorem IoFault.errno_eq_unknown_iff {fault : IoFault} :
    fault.errno = .unknown ↔
      ∃ n, fault = .system n ∧ n ≠ 0 ∧ Errno.listing.lookup n = none := by
  cases fault with
  | text wording =>
    refine iff_of_false (show Errno.inputOutput ≠ .unknown by decide) ?_
    rintro ⟨_, ⟨⟩, -⟩
  | system n =>
    rw [errno]
    split
    · next hzero =>
      refine iff_of_false (by decide) ?_
      rintro ⟨_, ⟨⟩, hne, -⟩
      exact hne hzero
    · next hne =>
      rw [Errno.ofCode_eq_unknown_iff]
      constructor
      · exact fun hnone => ⟨n, rfl, hne, hnone⟩
      · rintro ⟨_, ⟨⟩, -, hnone⟩
        exact hnone

namespace Failure

/-- **A failure without a code.** -/
inductive Unnumbered : Failure → Prop where
  /-- The setup is refused with a number that is not listed. -/
  | setup (operation : Operation) : Unnumbered (.setup operation .unknown)
  /-- A read is. -/
  | read : Unnumbered (.read .unknown)
  /-- A step of the release is. -/
  | cleanup (operation : Operation) : Unnumbered (.cleanup operation .unknown)
  /-- A line meets a fault that is numbered zero. -/
  | output : Unnumbered (.output (.system 0))

/-- **The exit code for a failure is zero exactly if it has no code.** -/
theorem exitCode_eq_zero_iff {f : Failure} : f.exitCode = 0 ↔ f.Unnumbered := by
  constructor
  · intro hzero
    cases f with
    | setup operation e =>
      obtain rfl := Errno.code_eq_zero_iff.1 hzero
      exact .setup operation
    | decode fault => cases hzero
    | read e =>
      obtain rfl := Errno.code_eq_zero_iff.1 hzero
      exact .read
    | cleanup operation e =>
      obtain rfl := Errno.code_eq_zero_iff.1 hzero
      exact .cleanup operation
    | output fault =>
      cases fault with
      | text wording => cases hzero
      | system n =>
        obtain rfl : n = 0 := hzero
        exact .output
  · rintro (_ | _ | _ | _) <;> rfl

end Failure

namespace Report

/-- **The exit code tells a failed run from a clean one** exactly if its first failure has a code. -/
theorem telling_iff (r : Report) :
    (r.exitCode = 0 ↔ r.failures = []) ↔ ∀ f, r.failures.head? = some f → ¬f.Unnumbered := by
  rw [exitCode]
  cases r.failures with
  | nil => exact iff_of_true (iff_of_true rfl rfl) (by rintro _ ⟨⟩)
  | cons f fs =>
    have hcode : ((f :: fs).head?.map Failure.exitCode).getD 0 = 0 ↔ f.Unnumbered :=
      Failure.exitCode_eq_zero_iff
    rw [hcode, iff_false_right (List.cons_ne_nil f fs)]
    constructor
    · rintro hf _ ⟨⟩
      exact hf
    · exact fun h => h f rfl

/-- **All failures have a code.** -/
def Numbered (r : Report) : Prop := ∀ f ∈ r.failures, ¬f.Unnumbered

/-- **If all failures have a code, the exit code tells.** -/
theorem Numbered.telling {r : Report} (h : r.Numbered) : r.exitCode = 0 ↔ r.failures = [] :=
  r.telling_iff.2 fun f hhead => h f (List.mem_of_head? hhead)

/-- **The failures of a report have a code** if that of its run and those of the release have. -/
theorem numbered_mk {failure : Option Failure} {cleanup : List Failure}
    (hfailure : ∀ f, failure = some f → ¬f.Unnumbered) (hcleanup : ∀ f ∈ cleanup, ¬f.Unnumbered) :
    Numbered { failure, cleanup } := by
  intro f hf
  rcases List.mem_append.1 hf with hf | hf
  · exact hfailure f (Option.mem_toList.1 hf)
  · exact hcleanup f hf

end Report

namespace Sink

/-- **A sink none of whose faults has the number zero.** -/
def Numbered (s : Sink) : Prop := ∀ f ∈ s.faults, f.fault ≠ .system 0

/-- **Writing leaves it so.** -/
theorem Numbered.writeAll {s : Sink} (h : s.Numbered) (bs : Bytes) : (s.writeAll bs).2.Numbered :=
  fun f hf => h f (s.faults_writeAll_subset bs hf)

/-- **A fault of such a sink is a failure with a code.** -/
theorem Numbered.output {s : Sink} (h : s.Numbered) {fault : IoFault}
    (hfault : ∃ f ∈ s.faults, f.fault = fault) : ¬(Failure.output fault).Unnumbered := by
  obtain ⟨f, hf, hmet⟩ := hfault
  rintro ⟨⟩
  exact h f hf hmet

end Sink

namespace Channel

/-- **A channel that gives a listed number for whatever it refuses.** -/
structure Numbered (c : Channel) : Prop where
  /-- To attach. -/
  adds : .error .unknown ∉ c.adds
  /-- To detach. -/
  removes : .error .unknown ∉ c.removes
  /-- To be closed. -/
  closes : .error .unknown ∉ c.closes
  /-- To be read. -/
  reads : ∀ a ∈ c.reads, a.result ≠ .error .unknown

/-- **Reading leaves it so.** -/
theorem Numbered.afterReads {c : Channel} (h : c.Numbered) (size k : Nat) :
    (c.afterReads size k).Numbered where
  adds := h.adds
  removes := h.removes
  closes := h.closes
  reads := fun a ha => h.reads a (List.mem_of_mem_drop ha)

end Channel

/-- **A refusal is among the answers**, as what comes behind the last answer is none. -/
theorem ne_unknown_of_answer {α : Type} {answers : List (Except Errno α)} {a : α} {e : Errno}
    (h : .error .unknown ∉ answers) (he : answers.head?.getD (.ok a) = .error e) : e ≠ .unknown := by
  rintro rfl
  cases answers with
  | nil => cases he
  | cons answer answers =>
    obtain rfl : answer = _ := he
    exact h List.mem_cons_self

/-- **A step of a release fails with a code**, if its answers have one. -/
theorem cleanupFailure_numbered {answers : List (Except Errno Unit)}
    (h : .error .unknown ∉ answers) (operation : Operation) :
    ∀ f ∈ cleanupFailure operation (answers.head?.getD (.ok ())), ¬f.Unnumbered := by
  intro f hf
  cases hanswer : answers.head?.getD (.ok ()) with
  | ok _ =>
    rw [hanswer] at hf
    cases hf
  | error e =>
    rw [hanswer] at hf
    obtain rfl := List.mem_singleton.1 hf
    rintro ⟨⟩
    exact ne_unknown_of_answer h hanswer rfl

/-- **A release fails with codes**, if the channel has them. -/
theorem Session.releaseFailures_numbered {s : Session} (h : s.channel.Numbered) :
    ∀ f ∈ s.releaseFailures, ¬f.Unnumbered := by
  intro f hf
  rcases List.mem_append.1 hf with hf | hf
  · obtain ⟨watch, -, hf⟩ := List.mem_flatMap.1 hf
    exact cleanupFailure_numbered h.removes _ f hf
  · split at hf
    · exact cleanupFailure_numbered h.closes _ f hf
    · cases hf

namespace Loop

/-- **What a loop meets has codes.** -/
structure Numbered (l : Loop) : Prop where
  /-- The channel gives listed numbers. -/
  channel : l.session.channel.Numbered
  /-- No fault of the sink has the number zero. -/
  sink : l.session.sink.Numbered

variable {l : Loop}

/-- **A read that is refused is refused with a code.** -/
theorem Numbered.result_ne (h : l.Numbered) (n : Nat) : (l.answerAt n).result ≠ .error .unknown := by
  intro hresult
  cases hread : l.session.channel.reads[n]? with
  | none =>
    rw [answerAt, hread] at hresult
    cases hresult
  | some answer =>
    rw [answerAt, hread] at hresult
    exact h.channel.reads answer (List.mem_of_getElem? hread) hresult

/-- **The failure that ends a loop has a code.** -/
theorem Numbered.iterate (h : l.Numbered) {f : Failure} (hf : l.iterate.1 = some f) :
    ¬f.Unnumbered := by
  obtain ⟨n, reads, failure, hpass, hends, ⟨-, hiterate⟩ | ⟨m, -, front, fault, hcut⟩⟩ :=
    l.iterate_cases
  · rw [hiterate] at hf
    cases hends with
    | told _ | interrupted _ _ => cases hf
    | @failed e _ hresult _ =>
      obtain rfl := Option.some.inj hf
      rintro ⟨⟩
      exact h.result_ne n hresult
    | undecodable _ _ _ =>
      obtain rfl := Option.some.inj hf
      rintro ⟨⟩
  · rw [hcut.iterate_eq] at hf
    obtain rfl := Option.some.inj hf
    exact h.sink.output hcut.struck.exists_fault

/-- **All failures of a run have a code.** -/
theorem Numbered.run (h : l.Numbered) : l.run.1.Numbered := by
  obtain ⟨k, hkept⟩ := l.iterate_kept
  have hchannel : l.iterate.2.session.channel.Numbered :=
    hkept.channel ▸ h.channel.afterReads l.buffer.length k
  rw [run_eq]
  refine Report.numbered_mk (fun f hf => h.iterate hf) ?_
  rw [l.iterate.2.session.release_spec.1]
  exact Session.releaseFailures_numbered hchannel

end Loop

namespace Monitor

/-- **What a run meets has codes.** -/
structure Surroundings.Numbered (around : Surroundings) : Prop where
  /-- Opening a channel is refused with a listed number. -/
  opening : around.opening ≠ .error .unknown
  /-- The channel gives listed numbers. -/
  channel : ∀ channel, around.opening = .ok channel → channel.Numbered
  /-- Installing the handlers fails with a code. -/
  installing : ∀ f, around.installing = .error f → ¬f.Unnumbered
  /-- No fault of the sink has the number zero. -/
  sink : around.sink.Numbered

variable {m : Monitor} {around : Surroundings}

/-- **Releasing a watch and a channel fails with codes.** -/
theorem cleanupOf_numbered {channel : Channel} (h : channel.Numbered) (watch : Watch) :
    ∀ f ∈ cleanupOf channel watch, ¬f.Unnumbered := by
  intro f hf
  rcases List.mem_append.1 hf with hf | hf
  · exact cleanupFailure_numbered h.removes _ f hf
  · exact cleanupFailure_numbered h.closes _ f hf

/-- **The loop of a run meets what the run meets.** -/
theorem Surroundings.Numbered.begun (h : around.Numbered) {channel : Channel}
    (hopen : around.opening = .ok channel) (watch : Watch) :
    (m.begun around channel watch).Numbered := by
  have hchannel := h.channel channel hopen
  exact {
    channel :=
      { adds := fun hmem => hchannel.adds (List.mem_of_mem_tail hmem)
        removes := hchannel.removes
        closes := hchannel.closes
        reads := hchannel.reads }
    sink := h.sink.writeAll _ }

/-- **However a run goes, all its failures have a code.** -/
theorem Course.numbered {outcome : Outcome} (h : Course m around outcome) (hn : around.Numbered) :
    outcome.report.Numbered := by
  cases h with
  | unopened e hopen =>
    refine Report.numbered_mk ?_ (fun _ hf => by cases hf)
    rintro _ ⟨⟩ ⟨⟩
    exact hn.opening hopen
  | unattached channel e hopen hadd =>
    refine Report.numbered_mk ?_ (cleanupFailure_numbered (hn.channel channel hopen).closes _)
    rintro _ ⟨⟩ ⟨⟩
    exact ne_unknown_of_answer (hn.channel channel hopen).adds hadd rfl
  | unhandled channel watch failure hopen _ hinstall =>
    refine Report.numbered_mk ?_ (cleanupOf_numbered (hn.channel channel hopen) watch)
    rintro _ ⟨⟩
    exact hn.installing failure hinstall
  | unannounced channel watch fault hopen _ _ hbanner =>
    refine Report.numbered_mk ?_ (cleanupOf_numbered (hn.channel channel hopen) watch)
    rintro _ ⟨⟩
    exact hn.sink.output (Sink.exists_fault_of_error hbanner)
  | watched channel watch k hopen _ _ _ =>
    refine Report.numbered_mk ?_ (cleanupOf_numbered (hn.channel channel hopen) watch)
    intro f hf
    exact (hn.begun hopen watch).iterate hf

/-- **Settling what to watch fails without a code** exactly if the working directory is refused with a
number that is neither zero nor listed. -/
theorem exitCode_settleTarget {path : Bytes} {workingDirectory : Except IoFault Bytes}
    {failure : Failure} (h : settleTarget path workingDirectory = .error failure) :
    failure.exitCode = 0 ↔
      ∃ n, workingDirectory = .error (.system n) ∧ n ≠ 0 ∧ Errno.listing.lookup n = none := by
  rw [settleTarget] at h
  split at h
  · cases workingDirectory with
    | ok directory => cases h
    | error fault =>
      obtain rfl := Except.error.inj h
      show fault.errno.code = 0 ↔ _
      rw [Errno.code_eq_zero_iff, IoFault.errno_eq_unknown_iff]
      simp only [Except.error.injEq]
  · cases h

/-- **When the exit code tells a failed run from a clean one.** That of a run, or of a loop by itself, is
zero for a clean one only, exactly if the first failure has a code; and all failures have one where
what is met has. Settling what to watch fails with a code exactly if the working directory is not
refused with a number that is neither zero nor listed. -/
theorem exitCode_spec (m : Monitor) (around : Surroundings) (l : Loop) (path : Bytes)
    (workingDirectory : Except IoFault Bytes) :
    (((m.run around).report.exitCode = 0 ↔ (m.run around).report.failures = []) ↔
        ∀ f, (m.run around).report.failures.head? = some f → ¬f.Unnumbered) ∧
      (around.Numbered →
        ((m.run around).report.exitCode = 0 ↔ (m.run around).report.failures = [])) ∧
      ((l.run.1.exitCode = 0 ↔ l.run.1.failures = []) ↔
        ∀ f, l.run.1.failures.head? = some f → ¬f.Unnumbered) ∧
      (l.Numbered → (l.run.1.exitCode = 0 ↔ l.run.1.failures = [])) ∧
      ∀ failure, settleTarget path workingDirectory = .error failure →
        (failure.exitCode ≠ 0 ↔
          ¬∃ n, workingDirectory = .error (.system n) ∧ n ≠ 0 ∧ Errno.listing.lookup n = none) := by
  refine ⟨Report.telling_iff _, fun h => ((m.course_run around).numbered h).telling,
    Report.telling_iff _, fun h => h.run.telling, fun failure hfails => ?_⟩
  exact not_congr (exitCode_settleTarget hfails)

/-- A monitor of some path. -/
def someMonitor : Monitor := { target := [0x74] }

/-- A channel whose one read is refused with a number. -/
def refusingChannel (number : Int32) : Channel := { reads := [{ result := .error (.ofCode number) }] }

/-- Surroundings with this channel. -/
def refusing (number : Int32) : Surroundings := { opening := .ok (refusingChannel number), pid := 1 }

/-- Surroundings whose sink refuses the first byte with the number zero. -/
def unwritable : Surroundings :=
  { opening := .ok {}, pid := 1, sink := { faults := [⟨0, 0, .system 0, false⟩] } }

/-- The hypotheses of `exitCode_spec` are satisfiable: where the read is refused with a listed number
the run has failed and exits with it. -/
theorem exitCode_spec_listed :
    (refusing 9).Numbered ∧
      (someMonitor.begun (refusing 9) (refusingChannel 9) ⟨1⟩).Numbered ∧
      settleTarget [0x2e] (.error (.system 13)) = .error (.setup .workingDirectory (.ofCode 13)) ∧
      ((someMonitor.run (refusing 9)).report.exitCode = 0 ↔
        (someMonitor.run (refusing 9)).report.failures = []) ∧
      ((someMonitor.begun (refusing 9) (refusingChannel 9) ⟨1⟩).run.1.exitCode = 0 ↔
        (someMonitor.begun (refusing 9) (refusingChannel 9) ⟨1⟩).run.1.failures = []) ∧
      (Failure.setup .workingDirectory (.ofCode 13)).exitCode ≠ 0 ∧
      (someMonitor.run (refusing 9)).report.exitCode = 9 := by
  have hnumbered : (refusing 9).Numbered :=
    { opening := by rintro ⟨⟩
      channel := by
        rintro _ ⟨⟩
        exact {
          adds := List.not_mem_nil
          removes := List.not_mem_nil
          closes := List.not_mem_nil
          reads := fun a ha => by
            obtain rfl := List.mem_singleton.1 ha
            rintro ⟨⟩ }
      installing := by rintro _ ⟨⟩
      sink := fun _ hf => absurd hf List.not_mem_nil }
  have hloop : (someMonitor.begun (refusing 9) (refusingChannel 9) ⟨1⟩).Numbered :=
    hnumbered.begun rfl ⟨1⟩
  have hsettle : settleTarget [0x2e] (.error (.system 13)) =
      .error (.setup .workingDirectory (.ofCode 13)) := rfl
  have hlisted : ¬∃ n, (.error (.system 13) : Except IoFault Bytes) = .error (.system n) ∧ n ≠ 0 ∧
      Errno.listing.lookup n = none := by
    rintro ⟨_, ⟨⟩, -, hnone⟩
    cases hnone
  obtain ⟨-, hrun, -, hiterate, htarget⟩ :=
    exitCode_spec someMonitor (refusing 9) (someMonitor.begun (refusing 9) (refusingChannel 9) ⟨1⟩)
      [0x2e] (.error (.system 13))
  exact ⟨hnumbered, hloop, hsettle, hrun hnumbered, hiterate hloop, (htarget _ hsettle).2 hlisted,
    by decide +kernel⟩

/-- **A failed run can look like a clean one.** Where the read is refused with 524, which is not listed,
the run has failed and exits with zero, and so it does where the first line meets a fault of number
zero. Settling what to watch fails with the exit code zero if the working directory is refused with
524. -/
theorem exitCode_unlisted :
    (someMonitor.run (refusing 524)).report.failures = [.read .unknown] ∧
      (someMonitor.run (refusing 524)).report.exitCode = 0 ∧
      (someMonitor.run unwritable).report.failures = [.output (.system 0)] ∧
      (someMonitor.run unwritable).report.exitCode = 0 ∧
      settleTarget [0x2e] (.error (.system 524)) = .error (.setup .workingDirectory .unknown) ∧
      (Failure.setup .workingDirectory .unknown).exitCode = 0 := by
  decide +kernel

end Monitor
end Inotify
