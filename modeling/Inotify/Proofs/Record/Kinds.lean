/- # The kinds of a mask

The bit of a kind is a single one, so of a mask it holds all or nothing (`Mask.bits_and_bit`), and the bits
of the kinds that are set are the declared bits of the mask (`Mask.foldl_kinds`). As the kinds have
different names, the names that an event line lists give these bits back (`Mask.ofNames_names`), and no
others: undeclared bits change no name (`Mask.names_truncate`). So masks have the same names exactly if they
have the same declared bits (`Mask.names_eq_iff`).

The kinds of a mask can also be found by taking their bits away, one kind after the other, until no bit is
left (`Mask.walk`). As no kind takes a bit of another, this finds the kinds that are set
(`Mask.walk_declared`).
-/

import Inotify.Mask
import Mathlib.Data.Nat.Bitwise
import Mathlib.Data.List.Nodup

namespace Inotify

namespace Kind

/-- **The bit of a kind is a single one.** -/
theorem exists_bit_eq (k : Kind) : ∃ i, k.bit.toNat = 2 ^ i :=
  ⟨k.bit.toNat.log2, by cases k <;> decide⟩

/-- **Kinds with the same name are the same.** -/
theorem name_injective {k k' : Kind} (h : k.name = k'.name) : k = k' := by
  have hnodup : (printed.map name).Nodup := by decide
  exact List.inj_on_of_nodup_map hnodup (mem_printed k) (mem_printed k') h

/-- **The name of a kind is its short name behind a mark.** -/
theorem name_eq (k : Kind) : k.name = "IN_" ++ k.label := by cases k <;> decide

/-- **Both orders are of the same kinds.** -/
theorem printed_perm_declared : printed.Perm declared := by decide

end Kind

namespace Mask

variable (m n : Mask) (k : Kind)

/-- **The bit of a kind is set or not.** -/
theorem bits_and_bit : m.bits &&& k.bit = if m.has k then k.bit else 0 := by
  obtain ⟨i, hi⟩ := k.exists_bit_eq
  have hand : (m.bits &&& k.bit).toNat = (m.bits.toNat.testBit i).toNat * k.bit.toNat := by
    rw [UInt32.toNat_and, hi, Nat.and_two_pow]
  have hcases : m.bits &&& k.bit = 0 ∨ m.bits &&& k.bit = k.bit := by
    rcases hbit : m.bits.toNat.testBit i with _ | _
    · rw [hbit, Bool.toNat_false, Nat.zero_mul] at hand
      exact .inl (UInt32.toNat_inj.1 hand)
    · rw [hbit, Bool.toNat_true, Nat.one_mul] at hand
      exact .inr (UInt32.toNat_inj.1 hand)
  by_cases hhas : m.has k
  · rw [if_pos hhas]
    simpa [has, contains, ofKind] using hhas
  · rw [if_neg hhas]
    rcases hcases with hzero | hall
    · exact hzero
    · exact absurd (by simp [has, contains, ofKind, hall]) hhas

/-- **A kind is set exactly if its bit is.** -/
theorem has_iff : m.has k = true ↔ m.bits &&& k.bit ≠ 0 := by
  have hbit : k.bit ≠ 0 := by cases k <;> decide
  rw [bits_and_bit]
  by_cases hhas : m.has k = true
  · simp [hhas, hbit]
  · simp [hhas]

/-- **The bits of the kinds that are set** are the bits that the mask has of all of them. -/
theorem foldl_kinds (ks : List Kind) (bits : UInt32) :
    (ks.filter m.has).foldl (fun bits k => bits ||| k.bit) (m.bits &&& bits) =
      m.bits &&& ks.foldl (fun bits k => bits ||| k.bit) bits := by
  induction ks generalizing bits with
  | nil => rfl
  | cons k ks ih =>
    have hdistrib : m.bits &&& (bits ||| k.bit) = (m.bits &&& bits) ||| (m.bits &&& k.bit) :=
      UInt32.toBitVec_inj.1 BitVec.and_or_distrib_left
    rw [List.foldl_cons, ← ih, hdistrib, bits_and_bit]
    by_cases hhas : m.has k
    · rw [List.filter_cons_of_pos hhas, if_pos hhas, List.foldl_cons]
    · rw [List.filter_cons_of_neg hhas, if_neg hhas, UInt32.or_zero]

/-- The mask of the kinds with certain names. -/
def ofNames (names : List String) : Mask :=
  ⟨(Kind.declared.filter fun k => k.name ∈ names).foldl (fun bits k => bits ||| k.bit) 0⟩

/-- **A kind is listed by name exactly if it is set.** -/
theorem name_mem_names : k.name ∈ m.names ↔ m.has k := by
  simp only [names, List.mem_map, List.mem_filter]
  constructor
  · rintro ⟨k', ⟨-, hhas⟩, hname⟩
    rwa [← Kind.name_injective hname]
  · exact fun hhas => ⟨k, ⟨Kind.mem_printed k, hhas⟩, rfl⟩

/-- **The names of the kinds give the declared bits back.** -/
theorem ofNames_names : ofNames m.names = m.truncate := by
  have hkinds : (Kind.declared.filter fun k => k.name ∈ m.names) = Kind.declared.filter m.has :=
    List.filter_congr fun k _ => by simp [name_mem_names]
  have hbits := m.foldl_kinds Kind.declared 0
  rw [UInt32.and_zero] at hbits
  rw [ofNames, hkinds, hbits]
  rfl

/-- **Undeclared bits set no kind.** -/
theorem has_truncate : m.truncate.has k = m.has k := by
  have hdeclared : all.bits &&& k.bit = k.bit := by cases k <;> decide
  simp only [has, contains, ofKind, truncate, inter, UInt32.and_assoc, hdeclared]

/-- **Undeclared bits change no name.** -/
theorem names_truncate : m.truncate.names = m.names := by
  have hhas : m.truncate.has = m.has := funext m.has_truncate
  rw [names, hhas, names]

/-- **The names are listed in printing order**, each once. -/
theorem names_sublist : m.names.Sublist (Kind.printed.map Kind.name) :=
  List.filter_sublist.map Kind.name

/-- **Masks have the same names exactly if they have the same declared bits.** -/
theorem names_eq_iff : m.names = n.names ↔ m.truncate = n.truncate := by
  constructor
  · intro h
    rw [← ofNames_names, ← ofNames_names, h]
  · intro h
    rw [← names_truncate, ← names_truncate n, h]

/-- **Undeclared bits that are put into a mask or taken out of it** leave its declared bits. -/
theorem truncate_of_undeclared :
    (m.union n.undeclared).truncate = m.truncate ∧ (m.diff n.undeclared).truncate = m.truncate := by
  simp only [truncate, undeclared, inter, diff, union, Mask.mk.injEq, ← UInt32.toBitVec_inj,
    UInt32.toBitVec_and, UInt32.toBitVec_or, UInt32.toBitVec_not]
  constructor
  · ext i hi
    simp only [BitVec.getElem_and, BitVec.getElem_or, BitVec.getElem_not]
    cases all.bits.toBitVec[i] <;> simp
  · ext i hi
    simp only [BitVec.getElem_and, BitVec.getElem_not]
    cases all.bits.toBitVec[i] <;> simp

/-! ## Kinds found by taking their bits away -/

/-- The kinds of a list that are set in a mask, each if it has a bit that is left; its bits are then taken
from what is left, and when nothing is left no kind is looked at any more. -/
def walk (m : Mask) : Mask → List Kind → List Kind
  | _, [] => []
  | left, k :: ks =>
    if left.isEmpty then []
    else if m.has k && left.intersects (ofKind k) then k :: walk m (left.diff (ofKind k)) ks
    else walk m left ks

/-- **The walk finds the kinds that are set**, if no kind takes a bit of a later one and all bits of the
kinds to come are left. -/
theorem walk_eq_filter {left : Mask} {ks : List Kind}
    (hapart : ks.Pairwise fun k k' => ~~~k.bit &&& k'.bit = k'.bit)
    (hleft : ∀ k ∈ ks, left.bits &&& k.bit = m.bits &&& k.bit) : m.walk left ks = ks.filter m.has := by
  induction ks generalizing left with
  | nil => rfl
  | cons k ks ih =>
    obtain ⟨hk, hapart⟩ := List.pairwise_cons.1 hapart
    rw [walk]
    by_cases hempty : left.isEmpty = true
    · have hzero : left.bits = 0 := by simpa [isEmpty] using hempty
      rw [if_pos hempty]
      refine (List.filter_eq_nil_iff.2 fun k' hk' hhas => ?_).symm
      refine (m.has_iff k').1 hhas ?_
      rw [← hleft k' hk', hzero, UInt32.zero_and]
    · rw [if_neg hempty]
      by_cases hhas : m.has k = true
      · have hmeets : left.intersects (ofKind k) = true := by
          rw [intersects, ofKind, hleft k List.mem_cons_self]
          simpa using (m.has_iff k).1 hhas
        have hrest : ∀ k' ∈ ks, (left.diff (ofKind k)).bits &&& k'.bit = m.bits &&& k'.bit := by
          intro k' hk'
          rw [diff, ofKind, UInt32.and_assoc, hk k' hk', hleft k' (List.mem_cons_of_mem k hk')]
        rw [hhas, hmeets, Bool.and_self, if_pos rfl, ih hapart hrest, List.filter_cons_of_pos hhas]
      · rw [if_neg (by simp [hhas]), ih hapart fun k' hk' => hleft k' (List.mem_cons_of_mem k hk'),
          List.filter_cons_of_neg hhas]

/-- **Walking over all kinds finds those of the mask.** -/
theorem walk_declared : m.walk m Kind.declared = m.kinds :=
  m.walk_eq_filter (by decide) fun _ _ => rfl

/-- **The names are those of the walk**, in another order. -/
theorem names_perm_walk : m.names.Perm ((m.walk m Kind.declared).map fun k => "IN_" ++ k.label) := by
  have hname : (fun k : Kind => "IN_" ++ k.label) = Kind.name := funext fun k => k.name_eq.symm
  rw [walk_declared, hname, names, kinds]
  exact (Kind.printed_perm_declared.filter m.has).map Kind.name

end Mask
end Inotify
