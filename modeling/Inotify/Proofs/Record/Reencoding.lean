/- # Writing again what was read

Bytes that decode need not have been written by this library: their regions (`Record.regions`) may
hold anything behind the first NUL, which nobody reads. Writing the records again gives them a form
of its own.

* Padded, whatever the alignments, the new bytes decode to the same records: a name that was read
  has no NUL (`Record.Packed.clean`), and padding puts one behind it, so that an empty name is told
  from none.
* Bare, the new bytes are the old ones exactly if no region holds a NUL
  (`Record.Packed.encodeList_bare_iff`). A NUL is lost with whatever stands behind it, and the
  header says so: what was written is shorter.
-/

import Inotify.Proofs.Record.RoundTrip

namespace Inotify
namespace Record

/-- **What stands behind a header is shorter.** -/
theorem length_lt_of_drop {bytes body : Bytes} {n₀ n₁ n₂ n₃ : UInt8}
    (h : bytes.drop 12 = n₀ :: n₁ :: n₂ :: n₃ :: body) : body.length < bytes.length := by
  have hlength := congrArg List.length h
  rw [List.length_drop] at hlength
  simp only [List.length_cons] at hlength
  omega

/-- **The name regions of records back to back**, each as long as its header declares. The declared
length stands behind the three other words. -/
def regions (bytes : Bytes) : List Bytes :=
  match h : bytes.drop 12 with
  | n₀ :: n₁ :: n₂ :: n₃ :: body =>
    let length := (Word.ofBytes n₀ n₁ n₂ n₃).toNat
    have : body.length < bytes.length := length_lt_of_drop h
    body.take length :: regions (body.drop length)
  | _ => []
termination_by bytes.length

/-- **No bytes have no regions.** -/
theorem regions_nil : regions [] = [] := by
  rw [regions]
  rfl

/-- **The region of a record comes first**, and then those of the records behind it. -/
theorem regions_cons (r : Record) {region rest : Bytes} (hlength : region.length < UInt32.size) :
    regions (r.header region.length ++ (region ++ rest)) = region :: regions rest := by
  have hdrop : (r.header region.length ++ (region ++ rest)).drop 12 =
      Word.bytes (UInt32.ofNat region.length) ++ (region ++ rest) := rfl
  rw [regions]
  split
  · next n₀ n₁ n₂ n₃ body heq =>
    rw [hdrop, Word.bytes] at heq
    simp only [List.cons_append, List.nil_append, List.cons.injEq] at heq
    obtain ⟨rfl, rfl, rfl, rfl, rfl⟩ := heq
    dsimp only
    rw [Word.ofBytes_bytes, UInt32.toNat_ofNat_of_lt' hlength, List.take_left, List.drop_left]
  · next hnone => exact absurd hdrop (hnone _ _ _ _ _)

variable {name : Option Bytes} {stored bytes : Bytes} {rs : List Record}

/-- **A name that is read off its region has no NUL.** -/
theorem Fills.clean (h : Fills name stored) : ∀ bs ∈ name, 0 ∉ bs := by
  cases h with
  | absent => rintro _ ⟨⟩
  | bare _ hclean =>
    rintro _ ⟨⟩
    exact hclean
  | padded hclean =>
    rintro _ ⟨⟩
    exact hclean

/-- **A bare name needs no more room than its region has.** -/
theorem Fills.regionSize_bare_le (h : Fills name stored) :
    regionSize .bare name ≤ stored.length := by
  cases h with
  | absent => exact Nat.le_refl _
  | bare _ _ => exact Nat.le_refl _
  | padded _ => exact List.length_append ▸ Nat.le_add_right _ _

/-- **A bare name is its whole region exactly if the region has no NUL.** -/
theorem Fills.region_bare_iff (h : Fills name stored) :
    region .bare name = stored ↔ 0 ∉ stored := by
  rw [region_bare]
  cases h with
  | absent => exact iff_of_true rfl List.not_mem_nil
  | bare _ hclean => exact iff_of_true rfl hclean
  | padded _ =>
    refine iff_of_false ?_ (not_not_intro (List.mem_append_right _ List.mem_cons_self))
    intro heq
    have hlength := congrArg List.length heq
    rw [Option.getD_some, List.length_append, List.length_cons] at hlength
    omega

namespace Packed

/-- **No name that is read has a NUL.** -/
theorem clean (h : Packed rs bytes) : ∀ r ∈ rs, ∀ bs ∈ r.name, 0 ∉ bs := by
  induction h with
  | nil => exact List.forall_mem_nil _
  | cons hfills _ _ ih => exact List.forall_mem_cons.2 ⟨hfills.clean, ih⟩

/-- **The names that are read are those that lie in the regions.** -/
theorem names_eq (h : Packed rs bytes) : rs.map (·.name) = (regions bytes).map nameOfRegion := by
  induction h with
  | nil =>
    rw [regions_nil]
    rfl
  | @cons r rs stored rest hfills hlength _ ih =>
    rw [regions_cons r hlength, List.map_cons, List.map_cons, hfills.nameOfRegion_eq, ih]

/-- **Between the headers there are the regions** and nothing else, each of the length that the
header in front of it declares. -/
theorem flatten_regions (h : Packed rs bytes) :
    (List.zipWith (fun r stored => r.header stored.length ++ stored) rs (regions bytes)).flatten =
      bytes := by
  induction h with
  | nil => rfl
  | @cons r rs stored rest hfills hlength _ ih =>
    rw [regions_cons r hlength, List.zipWith_cons_cons, List.flatten_cons, ih, List.append_assoc]

/-- **Bare records are the bytes that they were read from exactly if no region has a NUL.** -/
theorem encodeList_bare_iff (h : Packed rs bytes) :
    encodeList (rs.map (·, .bare)) = bytes ↔ ∀ stored ∈ regions bytes, 0 ∉ stored := by
  induction h with
  | nil =>
    rw [regions_nil]
    exact iff_of_true rfl (List.forall_mem_nil _)
  | @cons r rs stored rest hfills hlength _ ih =>
    have hsize : regionSize .bare r.name < UInt32.size :=
      Nat.lt_of_le_of_lt hfills.regionSize_bare_le hlength
    rw [regions_cons r hlength, List.forall_mem_cons, ← hfills.region_bare_iff, ← ih]
    show r.encode .bare ++ encodeList (rs.map (·, .bare)) = _ ↔ _
    rw [encode, List.append_assoc]
    constructor
    · intro heq
      -- The headers agree on the length, so the regions end at one place.
      obtain ⟨-, -, -, hsame, hbody⟩ := header_append_inj hsize hlength heq
      exact List.append_inj hbody ((length_region _ _).trans hsame)
    · rintro ⟨hregion, hrest⟩
      have hsame : regionSize .bare r.name = stored.length := by rw [← hregion, length_region]
      rw [hsame, hregion, hrest]

end Packed
end Record

open Record (nameOfRegion regionSize regions encodeOnto)

/-- **What was read can be written again.** The valid bytes are the headers of the records, each
with a region behind it in which the name lies. Padded with any alignments for which the headers
have room, the records decode to themselves. Bare, they are the bytes that they were read from,
exactly if no region has a NUL. -/
theorem decode_reencoded {buffer : Bytes} {valid : Nat} {rs : List Record}
    (hdecode : decode buffer valid = .ok rs) :
    rs.map (·.name) = (regions (buffer.take valid)).map nameOfRegion ∧
      (List.zipWith (fun r stored => r.header stored.length ++ stored) rs
        (regions (buffer.take valid))).flatten = buffer.take valid ∧
      (∀ aligned : List (Record × Nat), aligned.map Prod.fst = rs →
        (∀ p ∈ aligned, regionSize (.padded p.2) p.1.name < UInt32.size) →
        decode (encodeOnto [] (aligned.map fun p => (p.1, .padded p.2)))
            (encodeOnto [] (aligned.map fun p => (p.1, .padded p.2))).length =
          .ok rs) ∧
      (encodeOnto [] (rs.map (·, .bare)) = buffer.take valid ↔
        ∀ stored ∈ regions (buffer.take valid), 0 ∉ stored) := by
  obtain ⟨-, hpacked⟩ := decode_eq_ok_iff.1 hdecode
  refine ⟨hpacked.names_eq, hpacked.flatten_regions, ?_, ?_⟩
  · rintro aligned rfl hfits
    have hstorable : ∀ p ∈ aligned.map (fun p => (p.1, Layout.padded p.2)), p.1.Storable p.2 := by
      refine List.forall_mem_map.2 fun p hp => ?_
      exact {
        clean := hpacked.clean p.1 (List.mem_map_of_mem hp)
        present := fun hbare => by cases hbare
        fits := hfits p hp }
    have hrecords := Record.packed_encodeList hstorable
    rw [List.map_map] at hrecords
    rw [Record.encodeOnto_eq, List.nil_append, decode_eq_ok_iff, List.take_length]
    exact ⟨Nat.le_refl _, hrecords⟩
  · rw [Record.encodeOnto_eq, List.nil_append]
    exact hpacked.encodeList_bare_iff

/-- A region with bytes behind the first NUL, one of NULs only, a bare one, and none. -/
def foreign : Bytes :=
  Record.header ⟨⟨1⟩, ⟨0x100⟩, 0, none⟩ 4 ++ [0x61, 0, 0x62, 0] ++
    Record.header ⟨⟨1⟩, ⟨0x200⟩, 0, none⟩ 2 ++ [0, 0] ++
    Record.header ⟨⟨-1⟩, ⟨0xffffffff⟩, 7, none⟩ 1 ++ [0xff] ++
    Record.header ⟨⟨2⟩, ⟨0x400⟩, 0, none⟩ 0

/-- The records that are read there. -/
def foreignRecords : List Record :=
  [⟨⟨1⟩, ⟨0x100⟩, 0, some [0x61]⟩, ⟨⟨1⟩, ⟨0x200⟩, 0, some []⟩,
    ⟨⟨-1⟩, ⟨0xffffffff⟩, 7, some [0xff]⟩, ⟨⟨2⟩, ⟨0x400⟩, 0, none⟩]

/-- The hypotheses of `decode_reencoded` are satisfiable together: these records have room whatever
the alignments, also with the alignment zero. All of them are not written bare as they were, the
last two are. -/
theorem decode_reencoded_foreign :
    decode foreign 71 = .ok foreignRecords ∧
      (∀ p ∈ foreignRecords.zip [0, 16, 3, 7],
        regionSize (.padded p.2) p.1.name < UInt32.size) ∧
      decode (encodeOnto []
          ((foreignRecords.zip [0, 16, 3, 7]).map fun p => (p.1, .padded p.2))) 85 =
        .ok foreignRecords ∧
      regions foreign = [[0x61, 0, 0x62, 0], [0, 0], [0xff], []] ∧
      encodeOnto [] (foreignRecords.map (·, .bare)) ≠ foreign ∧
      decode (foreign.drop 38) 33 = .ok (foreignRecords.drop 2) ∧
      encodeOnto [] ((foreignRecords.drop 2).map (·, .bare)) = foreign.drop 38 := by
  have hdecode : decode foreign 71 = .ok foreignRecords := by decide +kernel
  have hroom : ∀ p ∈ foreignRecords.zip [0, 16, 3, 7],
      regionSize (.padded p.2) p.1.name < UInt32.size := by decide
  have hregions : regions foreign = [[0x61, 0, 0x62, 0], [0, 0], [0xff], []] := by decide +kernel
  have hlast : decode (foreign.drop 38) 33 = .ok (foreignRecords.drop 2) := by decide +kernel
  obtain ⟨-, -, hpadded, hbare⟩ := decode_reencoded hdecode
  refine ⟨hdecode, hroom, hpadded _ rfl hroom, hregions, ?_, hlast, ?_⟩
  · intro heq
    have hnone := hbare.1 heq
    rw [show foreign.take 71 = foreign from rfl, hregions] at hnone
    exact absurd hnone (by decide)
  · exact (decode_reencoded hlast).2.2.2.2 (by decide +kernel)

end Inotify
