/- # How much room a read has

The size of the read buffer is a number of records times the size of the largest one, as a product
of machine words. It is what is asked for up to a certain number of records
(`Options.bufferSize_eq_iff`); up to there it grows with the number and has room for one record at
least. Beyond, the product wraps: the buffer has no room for a record exactly if the number is the
first with which the product gets to a further multiple of what a word can count
(`Options.bufferSize_lt_iff`).

Each read of a run is given this buffer, whatever else the run meets (`Monitor.Course.size_eq`), and
some run reads. So there is a run with a read too small for a record exactly where the product wraps
that way (`Monitor.bufferSize_spec`).
-/

import Inotify.Proofs.Monitor.Bracket

namespace Inotify
namespace Options

variable (o : Options)

/-- The size that is asked for: so many of the largest records, and one at least. -/
def intendedSize : Nat := max o.bufferRecords.toNat 1 * Record.maxSize

/-- The most records that a word can count the bytes of. -/
def mostRecords : Nat := (UInt64.size - 1) / Record.maxSize

/-- **The size of the buffer is the one that is asked for**, as far as a word can count. -/
theorem toNat_bufferSize : o.bufferSize.toNat = o.intendedSize % UInt64.size := by
  have hmax : (max o.bufferRecords 1).toNat = max o.bufferRecords.toNat 1 := by
    show (if o.bufferRecords ≤ 1 then (1 : UInt64) else o.bufferRecords).toNat = _
    split
    · next hle => exact (Nat.max_eq_right (UInt64.le_iff_toNat_le.1 hle)).symm
    · next hlt => exact (Nat.max_eq_left (Nat.le_of_lt (UInt64.not_le.1 hlt))).symm
  rw [bufferSize, UInt64.toNat_mul, hmax]
  rfl

/-- **A word counts the bytes that are asked for** up to a certain number of records. -/
theorem intendedSize_lt_iff :
    o.intendedSize < UInt64.size ↔ o.bufferRecords.toNat ≤ mostRecords := by
  have hmost : mostRecords = 67818912035696880 := rfl
  have hrecord : Record.maxSize = 272 := rfl
  rw [intendedSize, hmost, hrecord, UInt64.size]
  omega

/-- **The buffer has the size that is asked for** up to that number, and never beyond. -/
theorem bufferSize_eq_iff :
    o.bufferSize.toNat = o.intendedSize ↔ o.bufferRecords.toNat ≤ mostRecords := by
  rw [← intendedSize_lt_iff]
  constructor
  · intro heq
    rw [← heq]
    exact o.bufferSize.toNat_lt_size
  · intro hless
    rw [toNat_bufferSize, Nat.mod_eq_of_lt hless]

/-- **The buffer has room for no record** exactly if the number of records is the first with which
their size gets to a further multiple of what a word can count. -/
theorem bufferSize_lt_iff :
    o.bufferSize.toNat < Record.maxSize ↔
      ∃ k, 0 < k ∧
        o.bufferRecords.toNat * Record.maxSize =
          Record.roundUp (k * UInt64.size) Record.maxSize := by
  have hrecord : Record.maxSize = 272 := rfl
  rw [toNat_bufferSize, intendedSize]
  constructor
  · -- The multiple is the last one that the product has passed.
    simp only [Record.roundUp, hrecord, UInt64.size]
    intro hless
    refine ⟨max o.bufferRecords.toNat 1 * 272 / 18446744073709551616, ?_, ?_⟩
    · omega
    · omega
  · rintro ⟨k, hk, heq⟩
    have hpassed := Record.le_roundUp (k * UInt64.size) (show 0 < Record.maxSize by decide)
    have hjust := Record.roundUp_lt (k * UInt64.size) (show 0 < Record.maxSize by decide)
    rw [← heq] at hpassed hjust
    have hsome : 1 ≤ o.bufferRecords.toNat := by
      rw [hrecord, UInt64.size] at hpassed
      omega
    obtain ⟨excess, hexcess⟩ := Nat.exists_eq_add_of_le hpassed
    have hless : excess < Record.maxSize := by
      rw [hexcess] at hjust
      exact Nat.lt_of_add_lt_add_left hjust
    rw [Nat.max_eq_left hsome, hexcess, Nat.mul_add_mod_of_lt (Nat.lt_trans hless (by decide))]
    exact hless

variable {o}

/-- **Up to that number the buffer has room for a record.** -/
theorem maxSize_le_bufferSize (h : o.bufferRecords.toNat ≤ mostRecords) :
    Record.maxSize ≤ o.bufferSize.toNat := by
  rw [o.bufferSize_eq_iff.2 h, intendedSize]
  exact Nat.le_mul_of_pos_left _ (Nat.lt_of_lt_of_le Nat.one_pos (Nat.le_max_right _ _))

/-- **Up to that number the buffer grows with the number of records.** -/
theorem bufferSize_mono {o' : Options} (hle : o.bufferRecords ≤ o'.bufferRecords)
    (h : o'.bufferRecords.toNat ≤ mostRecords) : o.bufferSize ≤ o'.bufferSize := by
  have hnumber : o.bufferRecords.toNat ≤ o'.bufferRecords.toNat := UInt64.le_iff_toNat_le.1 hle
  rw [UInt64.le_iff_toNat_le, o.bufferSize_eq_iff.2 (Nat.le_trans hnumber h),
    o'.bufferSize_eq_iff.2 h]
  have hmax : max o.bufferRecords.toNat 1 ≤ max o'.bufferRecords.toNat 1 := by omega
  exact Nat.mul_le_mul_right _ hmax

end Options

namespace Monitor

variable {m : Monitor} {around : Surroundings} {outcome : Outcome}

/-- **However a run goes, its reads are given the whole buffer.** -/
theorem Course.size_eq (h : Course m around outcome) {size : Nat}
    (hread : .read size ∈ outcome.calls) :
    size = m.options.bufferSize.toNat := by
  cases h with
  | unopened | unattached | unhandled | unannounced => simp at hread
  | watched =>
    simp only [List.mem_append, List.mem_cons, List.mem_replicate, Call.read.injEq,
      List.not_mem_nil, reduceCtorEq, or_false, false_or] at hread
    exact hread.2

/-- **Whatever is watched and how, some run reads.** -/
theorem exists_read (m : Monitor) : ∃ around size, .read size ∈ (m.run around).calls := by
  have hsetUp : m.SetUp { opening := .ok {}, pid := 1 } {} ⟨1⟩ :=
    { opening := rfl
      attaching := rfl
      installing := rfl
      banner := Sink.unfailing_of_interruptions (by decide) _ }
  exact ⟨_, hsetUp.reads_iff.2 rfl⟩

/-- **When a read has room for a record.** The read buffer has the size that is asked for exactly up
to the most records that a word can count the bytes of. Up to there it grows with the number of
records, and every read of every run has room for one. All reads are given the buffer as it is, so
some read of some run has room for none exactly if the number of records is the first with which
their size gets to a further multiple of what a word can count. -/
theorem bufferSize_spec (m : Monitor) :
    (m.options.bufferSize.toNat = m.options.intendedSize ↔
        m.options.bufferRecords.toNat ≤ Options.mostRecords) ∧
      (m.options.bufferRecords.toNat ≤ Options.mostRecords →
        (∀ o : Options, o.bufferRecords ≤ m.options.bufferRecords →
          o.bufferSize ≤ m.options.bufferSize) ∧
        ∀ around size, .read size ∈ (m.run around).calls → Record.maxSize ≤ size) ∧
      (∀ around size, .read size ∈ (m.run around).calls → size = m.options.bufferSize.toNat) ∧
      ((∃ around size, .read size ∈ (m.run around).calls ∧ size < Record.maxSize) ↔
        ∃ k, 0 < k ∧ m.options.bufferRecords.toNat * Record.maxSize =
          Record.roundUp (k * UInt64.size) Record.maxSize) := by
  have hsize : ∀ around size, .read size ∈ (m.run around).calls →
      size = m.options.bufferSize.toNat :=
    fun around _ hread => (m.course_run around).size_eq hread
  refine ⟨m.options.bufferSize_eq_iff, fun hmost => ⟨?_, ?_⟩, hsize, ?_⟩
  · exact fun o hle => Options.bufferSize_mono hle hmost
  · intro around size hread
    rw [hsize around size hread]
    exact Options.maxSize_le_bufferSize hmost
  · rw [← Options.bufferSize_lt_iff]
    constructor
    · rintro ⟨around, size, hread, hless⟩
      rwa [← hsize around size hread]
    · intro hless
      obtain ⟨around, size, hread⟩ := m.exists_read
      exact ⟨around, size, hread, hsize around size hread ▸ hless⟩

/-- The hypotheses of `bufferSize_spec` are satisfiable: a buffer for ten records is not smaller
than one for none, and a read is given all of it. -/
theorem bufferSize_spec_ten :
    (10 : UInt64).toNat ≤ Options.mostRecords ∧
      ({ bufferRecords := 0 } : Options).bufferRecords ≤ 10 ∧
      ({ bufferRecords := 0 } : Options).bufferSize ≤ ({} : Options).bufferSize ∧
      Call.read 2720 ∈
        (run { target := [0x74] } { opening := .ok {}, pid := 1 }).calls ∧
      Record.maxSize ≤ 2720 ∧ 2720 = ({} : Options).bufferSize.toNat :=
  have hmost : (10 : UInt64).toNat ≤ Options.mostRecords := by decide
  have hread : Call.read 2720 ∈
      (run { target := [0x74] } { opening := .ok {}, pid := 1 }).calls := by
    decide +kernel
  have hspec := bufferSize_spec { target := [0x74] }
  have hless : ({ bufferRecords := 0 } : Options).bufferRecords ≤ 10 := by decide
  ⟨hmost, hless, (hspec.2.1 hmost).1 _ hless, hread, (hspec.2.1 hmost).2 _ _ hread,
    hspec.2.2.1 _ _ hread⟩

/-- **A buffer that is asked to be too large has room for no record.** With one record more than the
most for which a word can count the bytes, the buffer has sixteen bytes, far fewer than with one
record less, and a run reads into these. With some more records it has none. -/
theorem bufferSize_wrapped :
    Options.mostRecords = 67818912035696880 ∧
      ({ bufferRecords := 67818912035696880 } : Options).bufferSize = 18446744073709551360 ∧
      ({ bufferRecords := 67818912035696881 } : Options).bufferSize = 16 ∧
      ({ bufferRecords := 67818912035696881 } : Options).intendedSize = 18446744073709551632 ∧
      Call.read 16 ∈
        (run { target := [0x74], options := { bufferRecords := 67818912035696881 } }
          { opening := .ok {}, pid := 1 }).calls ∧
      16 < Record.maxSize ∧
      ({ bufferRecords := 1152921504606846976 } : Options).bufferSize = 0 := by
  decide +kernel

end Monitor
end Inotify
