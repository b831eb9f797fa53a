/- # Characters and maximal subparts

What the scanner of bytes finds, said without it. In front of some bytes there is either the sequence of a
character or a *gap*, which is the longest run of bytes that begins the sequence of some character, or a
single byte if none begins one. `Parts bs cs` takes bytes apart in this way from front to back, with `none`
for a gap, and `scan` is the one way to do so (`parts_iff`).

The scanner goes by the first byte, which fixes the shape of the rest (`lead?_two`, `lead?_three`,
`lead?_four`). A first byte and as many continuation bytes as its shape asks for are the sequence of a
character, and every character has such a sequence (`isSequence_iff`). Fewer of them can always be
completed (`exists_completion`), so they begin a character; one byte out of range cannot.

| bytes | first byte | bits in it | continuation bytes |
| ---: | --- | --- | --- |
| 1 | `00`–`7F` | all | |
| 2 | `C0` + bits | 2–`1F` | `80`–`BF` |
| 3 | `E0` + bits | 0–`F` | from `A0` for 0, up to `9F` for `D` |
| 4 | `F0` + bits | 0–4 | from `90` for 0, up to `8F` for 4 |
-/

import Inotify.Text.Utf8
import Mathlib.Data.List.Basic
import Mathlib.Tactic.SplitIfs

namespace Inotify
namespace Utf8

/-! ## Bytes taken apart -/

/-- **Bytes that begin a character**: its sequence or the front of it. -/
def Begins (part : Bytes) : Prop := ∃ c : Char, part <+: String.utf8EncodeChar c

/-- **A gap in front of other bytes.** -/
structure Gap (part rest : Bytes) : Prop where
  /-- It takes something. -/
  nonempty : part ≠ []
  /-- There is no character in front. -/
  noChar : ∀ c : Char, ¬String.utf8EncodeChar c <+: part ++ rest
  /-- It begins a character, or it is a single byte. -/
  begins : Begins part ∨ part.length = 1
  /-- Nothing longer in front begins a character. -/
  longest : ∀ longer, longer <+: part ++ rest → Begins longer → longer.length ≤ part.length

/-- **Bytes taken apart** into characters and gaps. -/
inductive Parts : Bytes → List (Option Char) → Prop where
  /-- No bytes have no parts. -/
  | nil : Parts [] []
  /-- A character in front is a part. -/
  | char {rest : Bytes} {cs : List (Option Char)} (c : Char) :
      Parts rest cs → Parts (String.utf8EncodeChar c ++ rest) (some c :: cs)
  /-- So is a gap. -/
  | gap {part rest : Bytes} {cs : List (Option Char)} :
      Gap part rest → Parts rest cs → Parts (part ++ rest) (none :: cs)

/-! ## The bytes of a text -/

/-- **The bytes of a text are those of its characters.** -/
theorem encode_eq (s : String) : encode s = s.toList.flatMap String.utf8EncodeChar := by
  conv => lhs; rw [← String.ofList_toList (s := s)]
  rw [encode, String.toUTF8_eq_toByteArray, String.toByteArray_ofList, List.utf8Encode]
  simp

/-- **Characters with the same bytes are the same.** -/
theorem encodeChar_injective {c c' : Char} (h : String.utf8EncodeChar c = String.utf8EncodeChar c') :
    c = c' := by
  have hencode : encode (String.ofList [c]) = encode (String.ofList [c']) := by
    simpa [encode_eq] using h
  simpa using congrArg String.toList (encode_injective hencode)

/-! ## First bytes -/

variable {b x y z : UInt8} {bits : Nat}

/-- **A byte below `80` is no first byte of a longer sequence**, nor is one that begins none. -/
theorem lead?_none (hb : b.toNat < 0xC2 ∨ 0xF4 < b.toNat) : lead? b = none := by
  unfold lead?
  simp only [UInt8.lt_iff_toNat_lt, ← UInt8.toNat_inj, UInt8.reduceToNat]
  split_ifs <;> first | rfl | omega

/-- **The first byte of two.** -/
theorem lead?_two (hb : b.toNat = 0xC0 + bits) (hbits : 2 ≤ bits ∧ bits < 0x20) :
    lead? b = some ⟨1, 0x80, 0xBF, bits⟩ := by
  unfold lead?
  simp only [UInt8.lt_iff_toNat_lt, UInt8.reduceToNat]
  rw [if_neg (by omega), if_pos (by omega), hb, Nat.add_sub_cancel_left]

/-- **The first byte of three.** The range of the second leaves out what two bytes hold, and the
numbers of no character. -/
theorem lead?_three (hb : b.toNat = 0xE0 + bits) (hbits : bits < 0x10) :
    lead? b =
      some ⟨2, if bits = 0 then 0xA0 else 0x80, if bits = 0xD then 0x9F else 0xBF, bits⟩ := by
  unfold lead?
  simp only [UInt8.lt_iff_toNat_lt, ← UInt8.toNat_inj, UInt8.reduceToNat, hb]
  rw [if_neg (by omega), if_neg (by omega)]
  by_cases hzero : bits = 0
  · simp [hzero]
  by_cases hgap : bits = 0xD
  · simp [hgap]
  · rw [if_neg (by omega), if_neg (by omega), if_pos (by omega), if_neg hzero, if_neg hgap,
      Nat.add_sub_cancel_left]

/-- **The first byte of four.** The range of the second leaves out what three bytes hold, and what is
beyond the last character. -/
theorem lead?_four (hb : b.toNat = 0xF0 + bits) (hbits : bits < 5) :
    lead? b =
      some ⟨3, if bits = 0 then 0x90 else 0x80, if bits = 4 then 0x8F else 0xBF, bits⟩ := by
  unfold lead?
  simp only [UInt8.lt_iff_toNat_lt, ← UInt8.toNat_inj, UInt8.reduceToNat, hb]
  rw [if_neg (by omega), if_neg (by omega), if_neg (by omega), if_neg (by omega), if_neg (by omega)]
  by_cases hzero : bits = 0
  · simp [hzero]
  by_cases hlast : bits = 4
  · simp [hlast]
  · rw [if_neg (by omega), if_pos (by omega), if_neg hzero, if_neg hlast, Nat.add_sub_cancel_left]

/-! ## Continuation bytes -/

/-- **Continuation bytes**, as many as are allowed at most, the first of them in its range. -/
def Continues : Nat → UInt8 → UInt8 → Bytes → Prop
  | _, _, _, [] => True
  | n, low, high, b :: t => 0 < n ∧ low ≤ b ∧ b ≤ high ∧ Continues (n - 1) 0x80 0xBF t

/-- The number that continuation bytes make with the bits before them. -/
def value (bits : Nat) (t : Bytes) : Nat := t.foldl (fun bits b => bits * 64 + (b.toNat - 0x80)) bits

/-- **The continuation bytes that are read** are all that are allowed, or the most that are in front. -/
theorem continuation_spec (n : Nat) (low high : UInt8) (bits : Nat) (bs : Bytes) :
    ∃ t rest, bs = t ++ rest ∧ Continues n low high t ∧
      (t.length = n ∧ continuation n low high bits bs = (some (value bits t), rest) ∨
        t.length < n ∧ continuation n low high bits bs = (none, rest) ∧
          ∀ u, u <+: bs → Continues n low high u → u.length ≤ t.length) := by
  induction n generalizing low high bits bs with
  | zero => exact ⟨[], bs, rfl, trivial, .inl ⟨rfl, rfl⟩⟩
  | succ n ih =>
    rcases bs with _ | ⟨b, bs⟩
    · exact ⟨[], [], rfl, trivial, .inr ⟨Nat.succ_pos n, rfl, fun u hu _ => hu.length_le⟩⟩
    by_cases hb : low ≤ b ∧ b ≤ high
    · obtain ⟨t, rest, rfl, ht, hread⟩ := ih 0x80 0xBF (bits * 64 + (b.toNat - 0x80)) bs
      have hvalue : value bits (b :: t) = value (bits * 64 + (b.toNat - 0x80)) t := List.foldl_cons ..
      refine ⟨b :: t, rest, rfl, ⟨Nat.succ_pos n, hb.1, hb.2, ht⟩, ?_⟩
      rw [continuation, if_pos hb, List.length_cons, hvalue]
      rcases hread with ⟨hlen, hread⟩ | ⟨hlen, hread, hmost⟩
      · exact .inl ⟨by omega, hread⟩
      · refine .inr ⟨by omega, hread, fun u hu hcontinues => ?_⟩
        rcases u with _ | ⟨x, u⟩
        · exact Nat.zero_le _
        · obtain ⟨rfl, hu'⟩ := List.cons_prefix_cons.1 hu
          exact Nat.succ_le_succ (hmost u hu' hcontinues.2.2.2)
    · refine ⟨[], b :: bs, rfl, trivial, .inr ⟨Nat.succ_pos n, by rw [continuation, if_neg hb], ?_⟩⟩
      intro u hu hcontinues
      rcases u with _ | ⟨x, u⟩
      · exact Nat.le_refl 0
      · obtain ⟨rfl, -⟩ := List.cons_prefix_cons.1 hu
        exact absurd ⟨hcontinues.2.1, hcontinues.2.2.1⟩ hb

/-- **Fewer continuation bytes than are allowed can be completed.** -/
theorem exists_completion {n : Nat} {low high : UInt8} {t : Bytes} (hrange : low ≤ high)
    (h : Continues n low high t) :
    ∃ more, Continues n low high (t ++ more) ∧ (t ++ more).length = n := by
  induction n generalizing low high t with
  | zero =>
    rcases t with _ | ⟨b, t⟩
    · exact ⟨[], trivial, rfl⟩
    · exact absurd h.1 (Nat.lt_irrefl 0)
  | succ n ih =>
    rcases t with _ | ⟨b, t⟩
    · have hnone : Continues n 0x80 0xBF [] := trivial
      obtain ⟨more, hmore, hlen⟩ := ih (by decide) hnone
      exact ⟨low :: more, ⟨Nat.succ_pos n, UInt8.le_refl _, hrange, hmore⟩, by simpa using hlen⟩
    · obtain ⟨more, hmore, hlen⟩ := ih (by decide) h.2.2.2
      exact ⟨more, ⟨Nat.succ_pos n, h.2.1, h.2.2.1, hmore⟩, by simpa using hlen⟩

/-- **The front of continuation bytes are continuation bytes.** -/
theorem Continues.of_append {n : Nat} {low high : UInt8} {t more : Bytes}
    (h : Continues n low high (t ++ more)) : Continues n low high t := by
  induction t generalizing n low high with
  | nil => trivial
  | cons b t ih => exact ⟨h.1, h.2.1, h.2.2.1, ih h.2.2.2⟩

/-! ## Sequences of characters -/

/-- **A sequence**: a byte below `80`, or a first byte with all its continuation bytes. -/
def IsSequence (b : UInt8) (t : Bytes) : Prop :=
  b.toNat < 0x80 ∧ t = [] ∨
    ∃ l, lead? b = some l ∧ Continues l.tail l.low l.high t ∧ t.length = l.tail

/-- **The bytes of a character**, from its number. -/
theorem encodeChar_eq (c : Char) :
    String.utf8EncodeChar c =
      if c.toNat ≤ 0x7F then [UInt8.ofNat c.toNat]
      else if c.toNat ≤ 0x7FF then
        [UInt8.ofNat (c.toNat / 64 % 32 + 0xC0), UInt8.ofNat (c.toNat % 64 + 0x80)]
      else if c.toNat ≤ 0xFFFF then
        [UInt8.ofNat (c.toNat / 4096 % 16 + 0xE0), UInt8.ofNat (c.toNat / 64 % 64 + 0x80),
          UInt8.ofNat (c.toNat % 64 + 0x80)]
      else
        [UInt8.ofNat (c.toNat / 262144 % 8 + 0xF0), UInt8.ofNat (c.toNat / 4096 % 64 + 0x80),
          UInt8.ofNat (c.toNat / 64 % 64 + 0x80), UInt8.ofNat (c.toNat % 64 + 0x80)] := by
  rw [String.utf8EncodeChar]
  rfl

/-- **A number that a character may have is the number of its character.** -/
theorem toNat_ofNat {v : Nat} (h : v.isValidChar) : (Char.ofNat v).toNat = v := by
  rw [Char.ofNat, dif_pos h]
  rfl

/-- **A number below 256 is the number of its byte.** -/
theorem toNat_byte {n : Nat} (h : n < 256) : (UInt8.ofNat n).toNat = n := UInt8.toNat_ofNat_of_lt' h

/-- **A byte is known by its number.** -/
theorem ofNat_eq {n : Nat} (h : n = b.toNat) : UInt8.ofNat n = b := by
  rw [h, UInt8.ofNat_toNat]

/-- **Two bytes of a character.** -/
theorem encodeChar_two (hb : b.toNat = 0xC0 + bits) (hbits : 2 ≤ bits ∧ bits < 0x20)
    (hx : 0x80 ≤ x.toNat ∧ x.toNat ≤ 0xBF) :
    String.utf8EncodeChar (Char.ofNat (value bits [x])) = [b, x] := by
  have hv : value bits [x] = bits * 64 + (x.toNat - 0x80) := rfl
  rw [encodeChar_eq, toNat_ofNat (.inl (by omega)), if_neg (by omega), if_pos (by omega),
    ofNat_eq (b := b) (by omega), ofNat_eq (b := x) (by omega)]

/-- **Three bytes of a character.** -/
theorem encodeChar_three (hb : b.toNat = 0xE0 + bits) (hbits : bits < 0x10)
    (hx : 0x80 ≤ x.toNat ∧ x.toNat ≤ 0xBF) (hlow : bits = 0 → 0xA0 ≤ x.toNat)
    (hgap : bits = 0xD → x.toNat ≤ 0x9F) (hy : 0x80 ≤ y.toNat ∧ y.toNat ≤ 0xBF) :
    String.utf8EncodeChar (Char.ofNat (value bits [x, y])) = [b, x, y] := by
  have hv : value bits [x, y] = (bits * 64 + (x.toNat - 0x80)) * 64 + (y.toNat - 0x80) := rfl
  have hvalid : (value bits [x, y]).isValidChar := by
    simp only [Nat.isValidChar]
    omega
  rw [encodeChar_eq, toNat_ofNat hvalid, if_neg (by omega), if_neg (by omega), if_pos (by omega),
    ofNat_eq (b := b) (by omega), ofNat_eq (b := x) (by omega), ofNat_eq (b := y) (by omega)]

/-- **Four bytes of a character.** -/
theorem encodeChar_four (hb : b.toNat = 0xF0 + bits) (hbits : bits < 5)
    (hx : 0x80 ≤ x.toNat ∧ x.toNat ≤ 0xBF) (hlow : bits = 0 → 0x90 ≤ x.toNat)
    (hlast : bits = 4 → x.toNat ≤ 0x8F) (hy : 0x80 ≤ y.toNat ∧ y.toNat ≤ 0xBF)
    (hz : 0x80 ≤ z.toNat ∧ z.toNat ≤ 0xBF) :
    String.utf8EncodeChar (Char.ofNat (value bits [x, y, z])) = [b, x, y, z] := by
  have hv : value bits [x, y, z] =
    ((bits * 64 + (x.toNat - 0x80)) * 64 + (y.toNat - 0x80)) * 64 + (z.toNat - 0x80) := rfl
  have hvalid : (value bits [x, y, z]).isValidChar := by
    simp only [Nat.isValidChar]
    omega
  rw [encodeChar_eq, toNat_ofNat hvalid, if_neg (by omega), if_neg (by omega), if_neg (by omega),
    ofNat_eq (b := b) (by omega), ofNat_eq (b := x) (by omega), ofNat_eq (b := y) (by omega),
    ofNat_eq (b := z) (by omega)]

/-- **What a first byte says**: its bits, and the shape of the rest. -/
theorem lead?_cases {l : Lead} (hl : lead? b = some l) :
    (∃ bits, b.toNat = 0xC0 + bits ∧ (2 ≤ bits ∧ bits < 0x20) ∧ l = ⟨1, 0x80, 0xBF, bits⟩) ∨
      (∃ bits, b.toNat = 0xE0 + bits ∧ bits < 0x10 ∧
        l = ⟨2, if bits = 0 then 0xA0 else 0x80, if bits = 0xD then 0x9F else 0xBF, bits⟩) ∨
      ∃ bits, b.toNat = 0xF0 + bits ∧ bits < 5 ∧
        l = ⟨3, if bits = 0 then 0x90 else 0x80, if bits = 4 then 0x8F else 0xBF, bits⟩ := by
  by_cases hnone : b.toNat < 0xC2 ∨ 0xF4 < b.toNat
  · rw [lead?_none hnone] at hl
    cases hl
  by_cases htwo : b.toNat < 0xE0
  · have hb : b.toNat = 0xC0 + (b.toNat - 0xC0) := by omega
    rw [lead?_two hb (by omega)] at hl
    exact .inl ⟨b.toNat - 0xC0, hb, by omega, (Option.some.inj hl).symm⟩
  by_cases hthree : b.toNat < 0xF0
  · have hb : b.toNat = 0xE0 + (b.toNat - 0xE0) := by omega
    rw [lead?_three hb (by omega)] at hl
    exact .inr (.inl ⟨b.toNat - 0xE0, hb, by omega, (Option.some.inj hl).symm⟩)
  · have hb : b.toNat = 0xF0 + (b.toNat - 0xF0) := by omega
    rw [lead?_four hb (by omega)] at hl
    exact .inr (.inr ⟨b.toNat - 0xF0, hb, by omega, (Option.some.inj hl).symm⟩)

/-- **The range of a second byte is not empty.** -/
theorem low_le_high {l : Lead} (hl : lead? b = some l) : l.low ≤ l.high := by
  rcases lead?_cases hl with ⟨bits, -, -, rfl⟩ | ⟨bits, -, -, rfl⟩ | ⟨bits, -, -, rfl⟩
  · exact (by decide : (0x80 : UInt8) ≤ 0xBF)
  · dsimp only
    split_ifs <;> first | decide | omega
  · dsimp only
    split_ifs <;> first | decide | omega

/-- **A first byte and all its continuation bytes are a character**, the one with their number. -/
theorem encodeChar_of_lead {l : Lead} {t : Bytes} (hl : lead? b = some l)
    (ht : Continues l.tail l.low l.high t) (hlen : t.length = l.tail) :
    String.utf8EncodeChar (Char.ofNat (value l.bits t)) = b :: t := by
  rcases lead?_cases hl with ⟨bits, hb, hbits, rfl⟩ | ⟨bits, hb, hbits, rfl⟩ | ⟨bits, hb, hbits, rfl⟩
  · obtain ⟨x, rfl⟩ := List.length_eq_one_iff.1 hlen
    simp only [Continues, UInt8.le_iff_toNat_le, UInt8.reduceToNat] at ht
    exact encodeChar_two hb hbits (by omega)
  · obtain ⟨x, y, rfl⟩ := List.length_eq_two.1 hlen
    simp only [Continues, UInt8.le_iff_toNat_le, apply_ite UInt8.toNat, UInt8.reduceToNat] at ht
    show String.utf8EncodeChar (Char.ofNat (value bits [x, y])) = _
    -- The second byte has its range by the bits of the first.
    split_ifs at ht <;>
      exact encodeChar_three hb hbits (by omega) (by omega) (by omega) (by omega)
  · obtain ⟨x, y, z, rfl⟩ := List.length_eq_three.1 hlen
    simp only [Continues, UInt8.le_iff_toNat_le, apply_ite UInt8.toNat, UInt8.reduceToNat] at ht
    show String.utf8EncodeChar (Char.ofNat (value bits [x, y, z])) = _
    split_ifs at ht <;>
      exact encodeChar_four hb hbits (by omega) (by omega) (by omega) (by omega) (by omega)

/-- **Every character is a sequence.** -/
theorem isSequence_encodeChar {c : Char} {t : Bytes} (h : String.utf8EncodeChar c = b :: t) :
    IsSequence b t := by
  have hvalid : c.toNat.isValidChar := c.valid
  rw [encodeChar_eq] at h
  generalize c.toNat = v at h hvalid
  simp only [Nat.isValidChar] at hvalid
  split_ifs at h with hone htwo hthree
  · obtain ⟨rfl, rfl⟩ := List.cons.inj h
    exact .inl ⟨by rw [toNat_byte (by omega)]; omega, rfl⟩
  · obtain ⟨rfl, rfl⟩ := List.cons.inj h
    have hfirst : (UInt8.ofNat (v / 64 % 32 + 0xC0)).toNat = 0xC0 + v / 64 := by
      rw [toNat_byte (by omega)]
      omega
    refine .inr ⟨_, lead?_two hfirst (by omega), ?_, rfl⟩
    simp only [Continues, UInt8.le_iff_toNat_le, UInt8.reduceToNat, and_true]
    rw [toNat_byte (by omega)]
    omega
  · obtain ⟨rfl, rfl⟩ := List.cons.inj h
    have hfirst : (UInt8.ofNat (v / 4096 % 16 + 0xE0)).toNat = 0xE0 + v / 4096 := by
      rw [toNat_byte (by omega)]
      omega
    refine .inr ⟨_, lead?_three hfirst (by omega), ?_, rfl⟩
    simp only [Continues, UInt8.le_iff_toNat_le, apply_ite UInt8.toNat, UInt8.reduceToNat, and_true]
    rw [toNat_byte (by omega), toNat_byte (by omega)]
    split_ifs <;> omega
  · obtain ⟨rfl, rfl⟩ := List.cons.inj h
    have hfirst : (UInt8.ofNat (v / 262144 % 8 + 0xF0)).toNat = 0xF0 + v / 262144 := by
      rw [toNat_byte (by omega)]
      omega
    refine .inr ⟨_, lead?_four hfirst (by omega), ?_, rfl⟩
    simp only [Continues, UInt8.le_iff_toNat_le, apply_ite UInt8.toNat, UInt8.reduceToNat, and_true]
    rw [toNat_byte (by omega), toNat_byte (by omega), toNat_byte (by omega)]
    split_ifs <;> omega

/-- **The sequences are those of the characters.** -/
theorem isSequence_iff {t : Bytes} : IsSequence b t ↔ ∃ c : Char, String.utf8EncodeChar c = b :: t := by
  constructor
  · rintro (⟨hb, rfl⟩ | ⟨l, hl, ht, hlen⟩)
    · refine ⟨Char.ofNat b.toNat, ?_⟩
      rw [encodeChar_eq, toNat_ofNat (.inl (by omega)), if_pos (by omega), UInt8.ofNat_toNat]
    · exact ⟨_, encodeChar_of_lead hl ht hlen⟩
  · rintro ⟨c, hc⟩
    exact isSequence_encodeChar hc

/-- **The first byte of a sequence settles its length.** -/
theorem IsSequence.length_eq {t t' : Bytes} (h : IsSequence b t) (h' : IsSequence b t') :
    t.length = t'.length := by
  rcases h with ⟨hb, rfl⟩ | ⟨l, hl, -, hlen⟩
  · rcases h' with ⟨-, rfl⟩ | ⟨l', hl', -⟩
    · rfl
    · rw [lead?_none (.inl (by omega))] at hl'
      cases hl'
  · rcases h' with ⟨hb, -⟩ | ⟨l', hl', -, hlen'⟩
    · rw [lead?_none (.inl (by omega))] at hl
      cases hl
    · obtain rfl := Option.some.inj (hl.symm.trans hl')
      rw [hlen, hlen']

/-- **A character has a first byte.** -/
theorem exists_encodeChar_eq (c : Char) : ∃ b t, String.utf8EncodeChar c = b :: t ∧ IsSequence b t := by
  obtain ⟨b, t, h⟩ := List.exists_cons_of_ne_nil (String.utf8EncodeChar_ne_nil (c := c))
  exact ⟨b, t, h, isSequence_encodeChar h⟩

/-- **The character in front of some bytes is settled by them**, and so is what comes behind it. -/
theorem encodeChar_append_inj {c c' : Char} {rest rest' : Bytes}
    (h : String.utf8EncodeChar c ++ rest = String.utf8EncodeChar c' ++ rest') : c = c' ∧ rest = rest' := by
  obtain ⟨b, t, hc, hseq⟩ := exists_encodeChar_eq c
  obtain ⟨b', t', hc', hseq'⟩ := exists_encodeChar_eq c'
  have hfirst : b = b' := by
    rw [hc, hc'] at h
    exact (List.cons.inj h).1
  subst hfirst
  have hlen : (String.utf8EncodeChar c).length = (String.utf8EncodeChar c').length := by
    rw [hc, hc', List.length_cons, List.length_cons, hseq.length_eq hseq']
  obtain ⟨hsame, hrest⟩ := List.append_inj h hlen
  exact ⟨encodeChar_injective hsame, hrest⟩

/-- **What begins a character**: a byte below `80`, or a first byte with some of its continuation
bytes. -/
theorem begins_cons {t : Bytes} :
    Begins (b :: t) ↔
      b.toNat < 0x80 ∧ t = [] ∨ ∃ l, lead? b = some l ∧ Continues l.tail l.low l.high t := by
  constructor
  · rintro ⟨c, more, hc⟩
    rcases isSequence_encodeChar hc.symm with ⟨hb, hnil⟩ | ⟨l, hl, ht, -⟩
    · exact .inl ⟨hb, (List.append_eq_nil_iff.1 hnil).1⟩
    · exact .inr ⟨l, hl, ht.of_append⟩
  · rintro (⟨hb, rfl⟩ | ⟨l, hl, ht⟩)
    · obtain ⟨c, hc⟩ := isSequence_iff.1 (.inl ⟨hb, rfl⟩ : IsSequence b [])
      exact ⟨c, hc ▸ List.prefix_refl _⟩
    · obtain ⟨more, hmore, hlen⟩ := exists_completion (low_le_high hl) ht
      obtain ⟨c, hc⟩ := isSequence_iff.1 (.inr ⟨l, hl, hmore, hlen⟩ : IsSequence b (t ++ more))
      exact ⟨c, more, hc.symm⟩

/-! ## Bytes below `80` -/

/-- **A byte below `80` is a character of its own.** -/
theorem toNat_of_mem_encodeChar {c : Char} (h : b ∈ String.utf8EncodeChar c) (hb : b.toNat < 0x80) :
    b.toNat = c.toNat := by
  rw [encodeChar_eq] at h
  split_ifs at h with htwo hthree hfour
  · rw [List.mem_singleton.1 h]
    exact toNat_byte (by omega)
  -- from `80` on every byte of a character has its highest bit set
  all_goals
    simp only [List.mem_cons, List.not_mem_nil, or_false] at h
    exfalso
  · rcases h with rfl | rfl <;> rw [toNat_byte (by omega)] at hb <;> omega
  · rcases h with rfl | rfl | rfl <;> rw [toNat_byte (by omega)] at hb <;> omega
  · rcases h with rfl | rfl | rfl | rfl <;> rw [toNat_byte (by omega)] at hb <;> omega

/-- **A byte below `80` is in the bytes of a text exactly if its character is in the text.** -/
theorem mem_encode_iff {s : String} {c : Char} (hb : b.toNat < 0x80) (hc : b.toNat = c.toNat) :
    b ∈ encode s ↔ c ∈ s.toList := by
  rw [encode_eq, List.mem_flatMap]
  constructor
  · rintro ⟨d, hd, hmem⟩
    have hnumber : c.toNat = d.toNat := hc.symm.trans (toNat_of_mem_encodeChar hmem hb)
    have hsame : c = d := by rw [← Char.ofNat_toNat c, hnumber, Char.ofNat_toNat]
    exact hsame ▸ hd
  · intro h
    refine ⟨c, h, ?_⟩
    rw [encodeChar_eq, if_pos (by omega), ofNat_eq hc.symm]
    exact List.mem_singleton_self b

/-- **Where no character is a control character, no byte is.** -/
theorem le_of_mem_encode {s : String} (h : ∀ c ∈ s.toList, 0x20 ≤ c.toNat) (hb : b ∈ encode s) :
    0x20 ≤ b := by
  rw [UInt8.le_iff_toNat_le]
  rw [encode_eq, List.mem_flatMap] at hb
  obtain ⟨c, hc, hmem⟩ := hb
  have hvisible := h c hc
  by_cases hlow : b.toNat < 0x80
  · rw [toNat_of_mem_encodeChar hmem hlow]
    exact hvisible
  · exact Nat.le_trans (by decide) (Nat.not_lt.1 hlow)

/-! ## Gaps -/

/-- **A byte that begins no character is a gap.** -/
theorem gap_single {rest : Bytes} (hb : ¬b.toNat < 0x80) (hl : lead? b = none) : Gap [b] rest := by
  have hnot : ∀ t, ¬Begins (b :: t) := by
    intro t h
    rcases begins_cons.1 h with ⟨hlow, -⟩ | ⟨l, hl', -⟩
    · exact hb hlow
    · rw [hl] at hl'
      cases hl'
  refine ⟨List.cons_ne_nil b [], fun c hc => ?_, .inr rfl, fun longer hlonger hbegins => ?_⟩
  · obtain ⟨b', t, heq, -⟩ := exists_encodeChar_eq c
    rw [heq] at hc
    obtain ⟨rfl, -⟩ := List.cons_prefix_cons.1 hc
    exact hnot t ⟨c, heq ▸ List.prefix_refl _⟩
  · rcases longer with _ | ⟨b', t⟩
    · exact Nat.zero_le _
    · obtain ⟨rfl, -⟩ := List.cons_prefix_cons.1 hlonger
      exact absurd hbegins (hnot t)

/-- **A first byte with too few continuation bytes is a gap**, and all of these belong to it. -/
theorem gap_short {l : Lead} {t rest : Bytes} (hl : lead? b = some l)
    (ht : Continues l.tail l.low l.high t) (hlen : t.length < l.tail)
    (hmost : ∀ u, u <+: t ++ rest → Continues l.tail l.low l.high u → u.length ≤ t.length) :
    Gap (b :: t) rest := by
  have hb : ¬b.toNat < 0x80 := by
    intro hb
    rw [lead?_none (.inl (by omega))] at hl
    cases hl
  refine ⟨List.cons_ne_nil b t, fun c hc => ?_, .inl (begins_cons.2 (.inr ⟨l, hl, ht⟩)),
    fun longer hlonger hbegins => ?_⟩
  · obtain ⟨b', u, heq, hseq⟩ := exists_encodeChar_eq c
    rw [heq] at hc
    obtain ⟨rfl, hu⟩ := List.cons_prefix_cons.1 hc
    rcases hseq with ⟨hlow, -⟩ | ⟨l', hl', hcontinues, hfull⟩
    · exact hb hlow
    · obtain rfl := Option.some.inj (hl.symm.trans hl')
      have := hmost u hu hcontinues
      omega
  · rcases longer with _ | ⟨b', u⟩
    · exact Nat.zero_le _
    · obtain ⟨rfl, hu⟩ := List.cons_prefix_cons.1 hlonger
      rcases begins_cons.1 hbegins with ⟨hlow, -⟩ | ⟨l', hl', hcontinues⟩
      · exact absurd hlow hb
      · obtain rfl := Option.some.inj (hl.symm.trans hl')
        exact Nat.succ_le_succ (hmost u hu hcontinues)

/-- **A gap is settled by the bytes that it is in front of.** -/
theorem Gap.unique {part part' rest rest' : Bytes} (h : Gap part rest) (h' : Gap part' rest')
    (heq : part ++ rest = part' ++ rest') : part = part' ∧ rest = rest' := by
  have hle : ∀ {p r p' r' : Bytes}, Gap p r → Gap p' r' → p ++ r = p' ++ r' → p'.length ≤ p.length := by
    intro p r p' r' hp hp' heq
    rcases hp'.begins with hbegins | hone
    · exact hp.longest p' (heq ▸ List.prefix_append p' r') hbegins
    · rw [hone]
      exact List.length_pos_iff.2 hp.nonempty
  exact List.append_inj heq (Nat.le_antisymm (hle h' h heq.symm) (hle h h' heq))

/-! ## The scanner -/

/-- **One step of the scanner** takes the character in front, or the gap. -/
theorem scan_step {bs : Bytes} (hbs : bs ≠ []) :
    (∃ c rest, bs = String.utf8EncodeChar c ++ rest ∧ scan bs = some c :: scan rest) ∨
      ∃ part rest, bs = part ++ rest ∧ Gap part rest ∧ scan bs = none :: scan rest := by
  obtain ⟨b, bs, rfl⟩ := List.exists_cons_of_ne_nil hbs
  rw [scan]
  by_cases hb : b < 0x80
  · rw [if_pos hb]
    simp only [UInt8.lt_iff_toNat_lt, UInt8.reduceToNat] at hb
    refine .inl ⟨Char.ofNat b.toNat, bs, ?_, rfl⟩
    rw [encodeChar_eq, toNat_ofNat (.inl (by omega)), if_pos (by omega), UInt8.ofNat_toNat]
    rfl
  rw [if_neg hb]
  simp only [UInt8.lt_iff_toNat_lt, UInt8.reduceToNat] at hb
  rcases hl : lead? b with _ | l
  · exact .inr ⟨[b], bs, rfl, gap_single hb hl, rfl⟩
  · obtain ⟨t, rest, rfl, ht, ⟨hlen, hread⟩ | ⟨hlen, hread, hmost⟩⟩ :=
      continuation_spec l.tail l.low l.high l.bits bs
    · refine .inl ⟨Char.ofNat (value l.bits t), rest, ?_, ?_⟩
      · rw [encodeChar_of_lead hl ht hlen]
        rfl
      · dsimp only
        rw [hread]
        rfl
    · refine .inr ⟨b :: t, rest, rfl, gap_short hl ht hlen hmost, ?_⟩
      dsimp only
      rw [hread]
      rfl

/-- **The scanner takes bytes apart.** -/
theorem parts_scan (bs : Bytes) : Parts bs (scan bs) := by
  induction hsize : bs.length using Nat.strongRecOn generalizing bs with
  | ind size ih =>
    by_cases hbs : bs = []
    · rw [hbs, scan]
      exact .nil
    rcases scan_step hbs with ⟨c, rest, rfl, hscan⟩ | ⟨part, rest, rfl, hgap, hscan⟩
    · rw [hscan]
      have hpos := List.length_pos_iff.2 (String.utf8EncodeChar_ne_nil (c := c))
      rw [List.length_append] at hsize
      exact .char c (ih rest.length (by omega) rest rfl)
    · rw [hscan]
      have hpos := List.length_pos_iff.2 hgap.nonempty
      rw [List.length_append] at hsize
      exact .gap hgap (ih rest.length (by omega) rest rfl)

/-- **There is one way to take bytes apart**, and the scanner does it. -/
theorem parts_iff {bs : Bytes} {cs : List (Option Char)} : Parts bs cs ↔ scan bs = cs := by
  constructor
  · intro h
    -- By induction on the parts. What is in front is either a character or a gap, and never both.
    induction h with
    | nil => rw [scan]
    | @char rest cs c _ ih =>
      have hne : String.utf8EncodeChar c ++ rest ≠ [] := by simp
      rcases scan_step hne with ⟨c', rest', heq, hscan⟩ | ⟨part, rest', heq, hgap, -⟩
      · obtain ⟨rfl, rfl⟩ := encodeChar_append_inj heq
        rw [hscan, ih]
      · exact absurd (heq ▸ List.prefix_append _ rest) (hgap.noChar c)
    | @gap part rest cs hgap _ ih =>
      have hne : part ++ rest ≠ [] := by simp [hgap.nonempty]
      rcases scan_step hne with ⟨c, rest', heq, -⟩ | ⟨part', rest', heq, hgap', hscan⟩
      · exact absurd (heq ▸ List.prefix_append _ rest') (hgap.noChar c)
      · obtain ⟨rfl, rfl⟩ := hgap.unique hgap' heq
        rw [hscan, ih]
  · rintro rfl
    exact parts_scan bs

/-- **A text's bytes are taken apart into its characters.** -/
theorem scan_encode (s : String) : scan (encode s) = s.toList.map some := by
  rw [encode_eq, ← parts_iff]
  induction s.toList with
  | nil => exact .nil
  | cons c cs ih =>
    rw [List.flatMap_cons, List.map_cons]
    exact .char c ih

/-- **A text's bytes give the text back**, if gaps are filled. -/
theorem lossy_encode (s : String) : lossy (encode s) = s := by
  rw [lossy, scan_encode, List.map_map]
  simp [Function.comp_def]

/-- **A text's bytes give the text back**, if gaps are refused. -/
theorem decode?_encode (s : String) : decode? (encode s) = some s := by
  have hall : ∀ cs : List Char, (cs.map some).mapM id = some cs := by
    intro cs
    induction cs with
    | nil => rfl
    | cons c cs ih =>
      rw [List.map_cons, List.mapM_cons, ih]
      rfl
  rw [decode?, scan_encode, hall, Option.map_some, String.ofList_toList]

end Utf8
end Inotify
