/- # The packed form

What a read should deliver: records back to back, each a header and a name region of the length that
the header declares, with nothing between them. `Packed rs bytes` says that `bytes` are the records
`rs` in this form, whatever wrote them: some writers pad their names, others store them bare, and both
forms may stand side by side.

The form is unambiguous. A header is read in one way (`header_append_inj`), a region is filled by one
name (`Fills.nameOfRegion_eq`), and where a record no longer fits is settled by the bytes alone: what
is packed at the beginning of some bytes is a beginning of the longest packing there
(`Packed.isPrefix`).
-/

import Inotify.Record.Decode
import Mathlib.Data.List.TakeWhile

namespace Inotify

namespace Word

/-- **Words with the same bytes are the same.** -/
theorem bytes_injective {v w : UInt32} (h : bytes v = bytes w) : v = w := by
  simp only [bytes, List.cons.injEq, and_true] at h
  obtain ⟨h₀, h₁, h₂, h₃⟩ := h
  rw [← ofBytes_bytes v, ← ofBytes_bytes w, h₀, h₁, h₂, h₃]

/-- **Four bytes are a word.** -/
theorem exists_eq_bytes_append {bs : Bytes} (h : 4 ≤ bs.length) :
    ∃ w rest, bs = bytes w ++ rest := by
  match bs, h with
  | a :: b :: c :: d :: rest, _ => exact ⟨ofBytes a b c d, rest, by rw [bytes_ofBytes]; rfl⟩

end Word

namespace Record

/-- How a name lies in its region. -/
inductive Fills : Option Bytes → Bytes → Prop where
  /-- Without a name the region is empty. -/
  | absent : Fills none []
  /-- A region without a NUL is the name itself. -/
  | bare {name : Bytes} : name ≠ [] → 0 ∉ name → Fills (some name) name
  /-- The first NUL ends the name; the bytes behind it mean nothing. -/
  | padded {name padding : Bytes} : 0 ∉ name → Fills (some name) (name ++ 0 :: padding)

/-- **A name is read off the region that it fills.** -/
theorem Fills.nameOfRegion_eq {name : Option Bytes} {region : Bytes} (h : Fills name region) :
    nameOfRegion region = name := by
  cases h with
  | absent => rfl
  | bare hne hclean =>
    have hall : ∀ b ∈ region, decide (b ≠ 0) = true := fun b hb =>
      decide_eq_true fun h0 => hclean (h0 ▸ hb)
    rw [nameOfRegion, List.isEmpty_eq_false_iff.2 hne, List.takeWhile_eq_self_iff.2 hall]
    rfl
  | @padded name padding hclean =>
    have hall : ∀ b ∈ name, decide (b ≠ 0) = true := fun b hb =>
      decide_eq_true fun h0 => hclean (h0 ▸ hb)
    have hne : name ++ 0 :: padding ≠ [] := by simp
    rw [nameOfRegion, List.isEmpty_eq_false_iff.2 hne, List.takeWhile_append_of_pos hall]
    simp

/-- **Every region is filled.** -/
theorem fills_nameOfRegion (region : Bytes) : Fills (nameOfRegion region) region := by
  have hfills : ∃ name, Fills name region := by
    by_cases hmem : (0 : UInt8) ∈ region
    · obtain ⟨name, padding, rfl, hclean⟩ := List.eq_append_cons_of_mem hmem
      exact ⟨some name, .padded hclean⟩
    · rcases List.eq_nil_or_concat region with rfl | ⟨front, last, rfl⟩
      · exact ⟨none, .absent⟩
      · exact ⟨some _, .bare (by simp) hmem⟩
  obtain ⟨name, hname⟩ := hfills
  rw [hname.nameOfRegion_eq]
  exact hname

/-- **A header is read in one way**, and so is what comes behind it. -/
theorem header_append_inj {r r' : Record} {n n' : Nat} {body body' : Bytes} (hn : n < UInt32.size)
    (hn' : n' < UInt32.size) (h : r.header n ++ body = r'.header n' ++ body') :
    r.watch = r'.watch ∧ r.mask = r'.mask ∧ r.cookie = r'.cookie ∧ n = n' ∧ body = body' := by
  obtain ⟨hhead, hbody⟩ := List.append_inj h rfl
  obtain ⟨hfront, hlength⟩ := List.append_inj hhead rfl
  obtain ⟨hfront, hcookie⟩ := List.append_inj hfront rfl
  obtain ⟨hwatch, hmask⟩ := List.append_inj hfront rfl
  refine ⟨?_, ?_, Word.bytes_injective hcookie, ?_, hbody⟩
  · have hnumber := congrArg UInt32.toInt32 (Word.bytes_injective hwatch)
    rw [Int32.toInt32_toUInt32, Int32.toInt32_toUInt32] at hnumber
    rcases r with ⟨⟨w⟩, _, _, _⟩
    rcases r' with ⟨⟨w'⟩, _, _, _⟩
    exact congrArg Watch.mk hnumber
  · rcases r with ⟨_, ⟨m⟩, _, _⟩
    rcases r' with ⟨_, ⟨m'⟩, _, _⟩
    exact congrArg Mask.mk (Word.bytes_injective hmask)
  · have hlen := congrArg UInt32.toNat (Word.bytes_injective hlength)
    rw [UInt32.toNat_ofNat_of_lt' hn, UInt32.toNat_ofNat_of_lt' hn'] at hlen
    exact hlen

/-- **Sixteen bytes are a header**, and fewer are none. -/
theorem short_or_header (bytes : Bytes) :
    bytes.length < headerSize ∨
      ∃ (r : Record) (n : Nat) (body : Bytes), n < UInt32.size ∧ bytes = r.header n ++ body := by
  rcases Nat.lt_or_ge bytes.length headerSize with hshort | hlong
  · exact Or.inl hshort
  · rw [headerSize] at hlong
    obtain ⟨w, bytes, rfl⟩ := Word.exists_eq_bytes_append (by omega : 4 ≤ bytes.length)
    rw [List.length_append, Word.length_bytes] at hlong
    obtain ⟨m, bytes, rfl⟩ := Word.exists_eq_bytes_append (by omega : 4 ≤ bytes.length)
    rw [List.length_append, Word.length_bytes] at hlong
    obtain ⟨k, bytes, rfl⟩ := Word.exists_eq_bytes_append (by omega : 4 ≤ bytes.length)
    rw [List.length_append, Word.length_bytes] at hlong
    obtain ⟨n, body, rfl⟩ := Word.exists_eq_bytes_append (by omega : 4 ≤ bytes.length)
    refine Or.inr ⟨⟨⟨w.toInt32⟩, ⟨m⟩, k, none⟩, n.toNat, body, n.toNat_lt_size, ?_⟩
    simp [header]

/-- **Records back to back**, each a header and the region that the header declares. -/
inductive Packed : List Record → Bytes → Prop where
  /-- No record takes no bytes. -/
  | nil : Packed [] []
  /-- A record, and more records right behind its region. -/
  | cons {r : Record} {rs : List Record} {region rest : Bytes} :
      Fills r.name region → region.length < UInt32.size → Packed rs rest →
      Packed (r :: rs) (r.header region.length ++ (region ++ rest))

/-- **Bytes at an offset in which no further record fits**, and the fault that they are. -/
inductive Leftover (offset : Nat) : Bytes → Option DecodeFault → Prop where
  /-- No bytes are no fault. -/
  | nothing : Leftover offset [] none
  /-- Some bytes, too few for a header. -/
  | header {rest : Bytes} : rest ≠ [] → rest.length < headerSize →
      Leftover offset rest (some (.shortHeader offset rest.length))
  /-- A header, and fewer bytes behind it than it declares. -/
  | region {r : Record} {length : Nat} {body : Bytes} : length < UInt32.size → body.length < length →
      Leftover offset (r.header length ++ body) (some (.shortRegion offset length body.length))

/-- **Either a record is in front, or nothing fits any more.** -/
theorem leftover_or_record (offset : Nat) (bytes : Bytes) :
    (∃ fault, Leftover offset bytes fault) ∨
      ∃ (r : Record) (region rest : Bytes), Fills r.name region ∧ region.length < UInt32.size ∧
        bytes = r.header region.length ++ (region ++ rest) := by
  rcases short_or_header bytes with hshort | ⟨r, length, body, hlength, rfl⟩
  · by_cases hempty : bytes = []
    · exact Or.inl ⟨none, hempty ▸ .nothing⟩
    · exact Or.inl ⟨_, .header hempty hshort⟩
  · rcases Nat.lt_or_ge body.length length with hover | hfits
    · exact Or.inl ⟨_, .region hlength hover⟩
    · have hregion : (body.take length).length = length := List.length_take_of_le hfits
      refine Or.inr ⟨{ r with name := nameOfRegion (body.take length) }, body.take length,
        body.drop length, fills_nameOfRegion _, hregion.symm ▸ hlength, ?_⟩
      rw [hregion, List.take_append_drop]
      rfl

namespace Packed

/-- **Packed bytes behind packed bytes are packed.** -/
theorem append {rs rs' : List Record} {front front' : Bytes} (h : Packed rs front)
    (h' : Packed rs' front') : Packed (rs ++ rs') (front ++ front') := by
  induction h with
  | nil => exact h'
  | cons hfills hlength _ ih =>
    rw [List.cons_append, List.append_assoc, List.append_assoc]
    exact .cons hfills hlength ih

/-- **All bytes begin with a longest packing.** -/
theorem exists_leftover (offset : Nat) (bytes : Bytes) :
    ∃ rs front rest fault, bytes = front ++ rest ∧ Packed rs front ∧
      Leftover (offset + front.length) rest fault := by
  induction hsize : bytes.length using Nat.strong_induction_on generalizing offset bytes with
  | _ size ih =>
    rcases leftover_or_record offset bytes with
      ⟨fault, hleft⟩ | ⟨r, region, tail, hfills, hlength, rfl⟩
    · exact ⟨[], [], bytes, fault, rfl, .nil, hleft⟩
    · have hless : tail.length < size := by
        rw [← hsize, List.length_append, List.length_append, length_header, headerSize]
        omega
      obtain ⟨rs, front, rest, fault, rfl, hpacked, hleft⟩ :=
        ih tail.length hless (offset + (headerSize + region.length)) tail rfl
      refine ⟨r :: rs, _, rest, fault, ?_, .cons hfills hlength hpacked, ?_⟩
      · simp only [List.append_assoc]
      · rw [List.length_append, List.length_append, length_header, ← Nat.add_assoc headerSize,
          ← Nat.add_assoc offset]
        exact hleft

/-- **All bytes are a longest packing and what is left behind it.** -/
theorem exists_split (bytes : Bytes) :
    ∃ rs front rest fault, bytes = front ++ rest ∧ Packed rs front ∧
      Leftover front.length rest fault := by
  have hsplit := exists_leftover 0 bytes
  simpa only [Nat.zero_add] using hsplit

/-- **No other packing reaches further**: where no record fits behind `front`, whatever else is
packed at the beginning of the same bytes is a beginning of what `front` packs. -/
theorem isPrefix {rs rs' : List Record} {front front' rest rest' : Bytes} {offset : Nat}
    {fault : Option DecodeFault} (h : Packed rs front) (hrest : Leftover offset rest fault)
    (h' : Packed rs' front') (heq : front' ++ rest' = front ++ rest) :
    rs' <+: rs ∧ front' <+: front := by
  induction h' generalizing rs front with
  | nil => exact ⟨List.nil_prefix, List.nil_prefix⟩
  | @cons r' rs' region' tail' hfills' hlength' _ ih =>
    rw [List.append_assoc, List.append_assoc] at heq
    cases h with
    | nil =>
      rw [List.nil_append] at heq
      cases hrest with
      | nothing => exact absurd (congrArg List.length heq) (by simp [headerSize])
      | header _ hshort =>
        rw [← heq, List.length_append, length_header] at hshort
        omega
      | region hlength hover =>
        obtain ⟨-, -, -, rfl, rfl⟩ := header_append_inj hlength' hlength heq
        rw [List.length_append] at hover
        omega
    | @cons r rs region tail hfills hlength htail =>
      rw [List.append_assoc, List.append_assoc] at heq
      obtain ⟨hwatch, hmask, hcookie, hsize, hbody⟩ := header_append_inj hlength' hlength heq
      obtain ⟨rfl, htails⟩ := List.append_inj hbody hsize
      have hname : r'.name = r.name := hfills'.nameOfRegion_eq ▸ hfills.nameOfRegion_eq
      obtain rfl : r' = r := by
        rcases r with ⟨_, _, _, _⟩
        rcases r' with ⟨_, _, _, _⟩
        simp only [Record.mk.injEq]
        exact ⟨hwatch, hmask, hcookie, hname⟩
      obtain ⟨hrecords, hbytes⟩ := ih htail htails
      exact ⟨List.cons_prefix_cons.2 ⟨rfl, hrecords⟩,
        (List.prefix_append_right_inj _).2 ((List.prefix_append_right_inj _).2 hbytes)⟩

end Packed

end Record
end Inotify
