/- # Written records are read back

Whatever layout a record is written in, the bytes are the record in packed form
(`Storable.packed_encode`), and packed bytes stay packed when more are appended. So a reader of
anything that decodes already gets the old records and then the new ones, however padded and bare names
are mixed (`decode_encodeOnto`).

Three things are asked of a record that is written (`Storable`). Its name has no NUL, which would end
it early. A name that is stored bare is not empty, as its region would be the one of a record without
a name. And the length of its region is a 32-bit number.
-/

import Inotify.Proofs.Record.Reading

namespace Inotify
open Record (Fills Packed)

namespace Record

/-- **A record that a layout keeps.** -/
structure Storable (r : Record) (layout : Layout) : Prop where
  /-- The name has no NUL. -/
  clean : ∀ name ∈ r.name, 0 ∉ name
  /-- A bare name is not empty. -/
  present : layout = .bare → r.name ≠ some []
  /-- The header has room for the length of the region. -/
  fits : regionSize layout r.name < UInt32.size

instance (r : Record) (layout : Layout) : Decidable (r.Storable layout) :=
  decidable_of_iff
    ((∀ name ∈ r.name, 0 ∉ name) ∧ (layout = .bare → r.name ≠ some []) ∧
      regionSize layout r.name < UInt32.size)
    ⟨fun ⟨clean, present, fits⟩ => ⟨clean, present, fits⟩,
      fun h => ⟨h.clean, h.present, h.fits⟩⟩

/-- **A bare region is the name and nothing more.** -/
theorem region_bare (name : Option Bytes) : region .bare name = name.getD [] := by
  cases name <;> simp [region, regionSize]

/-- **A padded region has room for a NUL.** -/
theorem length_lt_regionSize_padded (align : Nat) (name : Bytes) :
    name.length < regionSize (.padded align) (some name) :=
  le_roundUp (name.length + 1) (Nat.lt_of_lt_of_le Nat.one_pos (Nat.le_max_right align 1))

namespace Storable

variable {r : Record} {layout : Layout}

/-- **A written name fills its region.** -/
theorem fills_region (h : r.Storable layout) : Fills r.name (region layout r.name) := by
  have hclean := h.clean
  have hpresent := h.present
  generalize r.name = stored at hclean hpresent ⊢
  cases stored with
  | none => exact .absent
  | some name =>
    have hname : (0 : UInt8) ∉ name := hclean name rfl
    cases layout with
    | bare =>
      rw [region_bare]
      exact .bare (fun h0 => hpresent rfl (congrArg some h0)) hname
    | padded align =>
      obtain ⟨k, hk⟩ := Nat.exists_eq_add_of_lt (length_lt_regionSize_padded align name)
      have hpadded : region (.padded align) (some name) = name ++ 0 :: List.replicate k 0 := by
        rw [region, hk, ← List.replicate_succ]
        simp [Nat.add_assoc]
      rw [hpadded]
      exact .padded hname

/-- **A written record is packed.** -/
theorem packed_encode (h : r.Storable layout) : Packed [r] (r.encode layout) := by
  have hlength := length_region layout r.name
  have hpacked := Packed.cons h.fills_region (hlength ▸ h.fits) .nil
  rwa [hlength, List.append_nil] at hpacked

end Storable

/-- **Records written one after another are packed**, each in a layout of its own. -/
theorem packed_encodeList {rs : List (Record × Layout)} (h : ∀ p ∈ rs, p.1.Storable p.2) :
    Packed (rs.map Prod.fst) (encodeList rs) := by
  induction rs with
  | nil => exact .nil
  | cons p rs ih =>
    obtain ⟨hp, hrs⟩ := List.forall_mem_cons.1 h
    exact hp.packed_encode.append (ih hrs)

end Record

/-- **Records appended to what decodes are read back behind it**, field for field and in order. What
was there stays in front as it was. -/
theorem decode_encodeOnto {front : Bytes} {before : List Record} {rs : List (Record × Layout)}
    (hfront : decode front front.length = .ok before) (hrs : ∀ p ∈ rs, p.1.Storable p.2) :
    front <+: Record.encodeOnto front rs ∧
      decode (Record.encodeOnto front rs) (Record.encodeOnto front rs).length =
        .ok (before ++ rs.map Prod.fst) := by
  rw [Record.encodeOnto_eq]
  refine ⟨List.prefix_append front _, decode_eq_ok_iff.2 ⟨Nat.le_refl _, ?_⟩⟩
  obtain ⟨-, hbefore⟩ := decode_eq_ok_iff.1 hfront
  rw [List.take_length] at hbefore ⊢
  exact hbefore.append (Record.packed_encodeList hrs)

/-- The hypotheses of `decode_encodeOnto` are satisfiable together: behind a bare record come a record
without a name, one whose name is empty, a padded one and a bare one. -/
theorem decode_encodeOnto_mixed :
    decode (Record.encode ⟨⟨-1⟩, ⟨0xffffffff⟩, 7, some [0x61]⟩ .bare) 17 =
        .ok [⟨⟨-1⟩, ⟨0xffffffff⟩, 7, some [0x61]⟩] ∧
      (∀ p ∈ ([(⟨⟨1⟩, ⟨0x1000⟩, 0, none⟩, .padded 16), (⟨⟨1⟩, ⟨2⟩, 0, some []⟩, .padded 0),
          (⟨⟨2⟩, ⟨0x40000100⟩, 0, some [0x62, 0x0a]⟩, .padded 16),
          (⟨⟨3⟩, ⟨1⟩, 9, some [0xff]⟩, .bare)] : List (Record × Layout)), p.1.Storable p.2) ∧
      decode (Record.encodeOnto (Record.encode ⟨⟨-1⟩, ⟨0xffffffff⟩, 7, some [0x61]⟩ .bare)
          [(⟨⟨1⟩, ⟨0x1000⟩, 0, none⟩, .padded 16), (⟨⟨1⟩, ⟨2⟩, 0, some []⟩, .padded 0),
            (⟨⟨2⟩, ⟨0x40000100⟩, 0, some [0x62, 0x0a]⟩, .padded 16),
            (⟨⟨3⟩, ⟨1⟩, 9, some [0xff]⟩, .bare)]) 99 =
        .ok [⟨⟨-1⟩, ⟨0xffffffff⟩, 7, some [0x61]⟩, ⟨⟨1⟩, ⟨0x1000⟩, 0, none⟩,
          ⟨⟨1⟩, ⟨2⟩, 0, some []⟩, ⟨⟨2⟩, ⟨0x40000100⟩, 0, some [0x62, 0x0a]⟩,
          ⟨⟨3⟩, ⟨1⟩, 9, some [0xff]⟩] :=
  have hfront : decode (Record.encode ⟨⟨-1⟩, ⟨0xffffffff⟩, 7, some [0x61]⟩ .bare) 17 =
      .ok [⟨⟨-1⟩, ⟨0xffffffff⟩, 7, some [0x61]⟩] := by decide +kernel
  ⟨hfront, by decide, (decode_encodeOnto hfront (by decide)).2⟩

end Inotify
