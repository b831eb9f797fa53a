/- # Batches

What one read delivers is a *batch*: records back to back, each name with at least one NUL behind it and
its region rounded up to a multiple of the header's size. The buffer for it is sized in records of the
largest size, so two sizes have to agree. The longest name and its NUL are a multiple of the header's
size already, so rounding up never carries a record beyond the largest size (`length_encode_le`), and a
batch fits where as many of the largest records would (`length_batch_le`).

A batch that fits is read back record for record, whatever a longer one before it has left in the buffer
(`events_fill_batch`).
-/

import Inotify.Channel
import Inotify.Proofs.Record.RoundTrip

namespace Inotify
namespace Record

/-- **A record that a read can deliver.** -/
structure Deliverable (r : Record) : Prop where
  /-- The name has no NUL. -/
  clean : ∀ name ∈ r.name, 0 ∉ name
  /-- The name is no longer than names can be. -/
  short : ∀ name ∈ r.name, name.length ≤ longestName

instance (r : Record) : Decidable r.Deliverable :=
  decidable_of_iff ((∀ name ∈ r.name, 0 ∉ name) ∧ ∀ name ∈ r.name, name.length ≤ longestName)
    ⟨fun ⟨clean, short⟩ => ⟨clean, short⟩, fun h => ⟨h.clean, h.short⟩⟩

/-- **Rounding up does not cross a multiple.** -/
theorem roundUp_le {n step k : Nat} (hstep : 0 < step) (h : n ≤ k * step) :
    roundUp n step ≤ k * step := by
  refine Nat.mul_le_mul_right step ?_
  rw [Nat.div_le_iff_le_mul hstep]
  omega

namespace Deliverable

variable {r : Record}

/-- **A region is no longer than the longest name and its NUL.** -/
theorem regionSize_le (h : r.Deliverable) : regionSize kernelLayout r.name ≤ longestName + 1 := by
  have hshort := h.short
  generalize r.name = stored at hshort ⊢
  cases stored with
  | none => exact Nat.zero_le _
  | some name =>
    have hname : name.length ≤ longestName := hshort name rfl
    -- The bound is itself a multiple of the header's size.
    exact roundUp_le (k := 16) (by decide) (Nat.succ_le_succ hname)

/-- **No record takes more than the largest.** -/
theorem length_encode_le (h : r.Deliverable) : (r.encode kernelLayout).length ≤ maxSize := by
  rw [length_encode]
  exact Nat.add_le_add_left h.regionSize_le headerSize

/-- **The kernel's layout keeps what it delivers.** -/
theorem storable (h : r.Deliverable) : r.Storable kernelLayout where
  clean := h.clean
  present := fun hbare => by cases hbare
  fits := Nat.lt_of_le_of_lt h.regionSize_le (by decide)

end Deliverable

/-- The bytes of a batch. -/
def batch (rs : List Record) : Bytes := encodeOnto [] (rs.map fun r => (r, kernelLayout))

/-- **A batch is its records' bytes.** -/
theorem batch_eq (rs : List Record) : batch rs = rs.flatMap (encode · kernelLayout) := by
  rw [batch, encodeOnto_eq, encodeList, List.nil_append, List.flatMap_map]

variable {rs : List Record}

/-- **A batch takes no more than as many of the largest records.** -/
theorem length_batch_le (h : ∀ r ∈ rs, r.Deliverable) : (batch rs).length ≤ rs.length * maxSize := by
  rw [batch_eq]
  induction rs with
  | nil => exact Nat.zero_le _
  | cons r rs ih =>
    obtain ⟨hr, hrs⟩ := List.forall_mem_cons.1 h
    rw [List.flatMap_cons, List.length_append, List.length_cons, Nat.succ_mul, Nat.add_comm]
    exact Nat.add_le_add (ih hrs) hr.length_encode_le

/-- **A batch is packed.** -/
theorem packed_batch (h : ∀ r ∈ rs, r.Deliverable) : Packed rs (batch rs) := by
  have hstorable : ∀ p ∈ rs.map fun r => (r, kernelLayout), p.1.Storable p.2 :=
    List.forall_mem_map.2 fun r hr => (h r hr).storable
  have hpacked := packed_encodeList hstorable
  rw [List.map_map] at hpacked
  rw [batch, encodeOnto_eq, List.nil_append]
  rwa [show Prod.fst ∘ (fun r => (r, kernelLayout)) = @id Record from rfl, List.map_id] at hpacked

/-- **A batch that fits is read back**, whatever the buffer held before. -/
theorem events_fill_batch {buffer : Bytes} (h : ∀ r ∈ rs, r.Deliverable)
    (hfits : (batch rs).length ≤ buffer.length) :
    events (Channel.fill buffer (batch rs)) (batch rs).length = rs.map .ok := by
  have hsize : (batch rs).length ≤ (Channel.fill buffer (batch rs)).length := by
    rwa [Channel.length_fill]
  have hfront : (Channel.fill buffer (batch rs)).take (batch rs).length = batch rs ++ [] := by
    rw [Channel.fill, List.take_of_length_le hfits, List.take_left, List.append_nil]
  rw [events_packed hsize (packed_batch h) hfront .nothing]
  exact List.append_nil _

end Record
end Inotify
