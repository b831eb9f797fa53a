/- # Reading on

Bytes may be looked at before all of them are valid. What is read then stands: as more bytes become
valid, more items come behind the records that were read, and none of these changes. For where the
first valid bytes are records and nothing else, what follows reads as it would in a buffer of its
own, except that faults are counted from the front of the whole (`events_append_of_decode`). And
whatever the valid bytes are, up to some cut they are records and nothing else, those that were read
(`exists_decode_leading`).

So a fault at the end of what is valid takes nothing back. It only says where to read on.
-/

import Inotify.Proofs.Record.Reading

namespace Inotify
open Record (Packed Leftover)

/-- The same fault when its bytes lie so many bytes further back. A claim beyond the buffer has no
place in it. -/
def DecodeFault.shift (front : Nat) : DecodeFault → DecodeFault
  | overclaimed valid capacity => overclaimed valid capacity
  | shortHeader offset remaining => shortHeader (offset + front) remaining
  | shortRegion offset length remaining => shortRegion (offset + front) length remaining

/-- **Where no record fits, none fits further back**, and the fault is the same one there. -/
theorem Record.Leftover.shift {offset : Nat} {rest : Bytes} {fault : Option DecodeFault}
    (h : Leftover offset rest fault) (front : Nat) :
    Leftover (offset + front) rest (fault.map (·.shift front)) := by
  cases h with
  | nothing => exact .nothing
  | header hsome hshort => exact .header hsome hshort
  | region hlength hover => exact .region hlength hover

/-- **Further back the items are the same records**, and the fault behind them is shifted. -/
theorem map_mapError_outcomes (rs : List Record) (fault : Option DecodeFault) (front : Nat) :
    (rs.map Except.ok ++ fault.toList.map Except.error).map
        (Except.mapError (DecodeFault.shift front)) =
      rs.map Except.ok ++ (fault.map (DecodeFault.shift front)).toList.map Except.error := by
  rw [List.map_append, List.map_map]
  cases fault <;> rfl

/-- **Bytes that decode to records have these records as their items.** -/
theorem events_of_decode {buffer : Bytes} {valid : Nat} {rs : List Record}
    (hdecode : decode buffer valid = .ok rs) : events buffer valid = rs.map .ok := by
  obtain ⟨h, hpacked⟩ := decode_eq_ok_iff.1 hdecode
  rw [events_packed h hpacked (List.append_nil _).symm .nothing]
  exact List.append_nil _

/-- **Behind bytes that decode to records the others are read by themselves**, and their faults are
counted from the front of the whole. -/
theorem events_append_of_decode {buffer : Bytes} {cut valid : Nat} {rs : List Record}
    (hdecode : decode buffer cut = .ok rs) (hcut : cut ≤ valid) (h : valid ≤ buffer.length) :
    events buffer valid =
      rs.map .ok ++
        (events (buffer.drop cut) (valid - cut)).map (Except.mapError (DecodeFault.shift cut)) := by
  obtain ⟨-, hpacked⟩ := decode_eq_ok_iff.1 hdecode
  have hbehind : valid - cut ≤ (buffer.drop cut).length := by
    rw [List.length_drop]
    omega
  obtain ⟨rs', front, rest, fault, hsplit, hpacked', hleft⟩ :=
    Packed.exists_split ((buffer.drop cut).take (valid - cut))
  have hwhole : buffer.take valid = (buffer.take cut ++ front) ++ rest := by
    rw [List.append_assoc, ← hsplit, ← List.take_add, Nat.add_sub_cancel' hcut]
  have hplace : front.length + cut = (buffer.take cut ++ front).length := by
    rw [List.length_append, List.length_take, Nat.min_eq_left (hcut.trans h), Nat.add_comm]
  rw [events_packed hbehind hpacked' hsplit hleft, map_mapError_outcomes,
    events_packed h (hpacked.append hpacked') hwhole (hplace ▸ hleft.shift cut), List.map_append,
    List.append_assoc]

/-- **What is read in front of the first fault decodes by itself.** -/
theorem exists_decode_leading {buffer : Bytes} {valid : Nat} (h : valid ≤ buffer.length) :
    ∃ cut ≤ valid, decode buffer cut = .ok (leading (events buffer valid)) := by
  obtain ⟨rs, front, rest, fault, hsplit, hpacked, hleft⟩ :=
    Packed.exists_split (buffer.take valid)
  have hcut : front.length ≤ valid := by
    have hlength := congrArg List.length hsplit
    rw [List.length_take, List.length_append] at hlength
    omega
  have hfront : buffer.take front.length = front := by
    rw [← Nat.min_eq_left hcut, ← List.take_take, hsplit, List.take_left]
  have hleading : leading (events buffer valid) = rs := by
    rw [events_packed h hpacked hsplit hleft, leading_append]
    cases fault <;> exact List.append_nil rs
  refine ⟨front.length, hcut, decode_eq_ok_iff.2 ⟨hcut.trans h, ?_⟩⟩
  rw [hleading, hfront]
  exact hpacked

/-- **More valid bytes add items and change none.** The records that are read before the end or the
first fault are the first of those that are read when more bytes are valid. Where the valid bytes
decode to records, the further items are those of the further bytes read by themselves, their faults
counted from the front of the whole. -/
theorem events_incremental {buffer : Bytes} {first second : Nat} (hle : first ≤ second)
    (hfits : second ≤ buffer.length) :
    leading (events buffer first) <+: leading (events buffer second) ∧
      ∀ rs, decode buffer first = .ok rs →
        events buffer second =
          events buffer first ++
            (events (buffer.drop first) (second - first)).map
              (Except.mapError (DecodeFault.shift first)) := by
  constructor
  · obtain ⟨cut, hcut, hdecode⟩ := exists_decode_leading (hle.trans hfits)
    rw [events_append_of_decode hdecode (hcut.trans hle) hfits, leading_append]
    exact List.prefix_append _ _
  · intro rs hdecode
    rw [events_append_of_decode hdecode hle hfits, events_of_decode hdecode]

/-- A record with a bare name, one without a name, three bytes of a header, and one byte more. -/
def cutShort : Bytes :=
  Record.encodeList [(⟨⟨1⟩, ⟨0x100⟩, 0, some [0x61]⟩, .bare), (⟨⟨1⟩, ⟨0x400⟩, 0, none⟩, .bare)] ++
    [1, 0, 0, 0]

/-- The hypotheses of `events_incremental` are satisfiable together, where the first record is valid
at first, and then the second one and a part of a header, too. -/
theorem events_incremental_cutShort :
    17 ≤ 36 ∧ 36 ≤ cutShort.length ∧
      decode cutShort 17 = .ok [⟨⟨1⟩, ⟨0x100⟩, 0, some [0x61]⟩] ∧
      leading (events cutShort 17) <+: leading (events cutShort 36) ∧
      events cutShort 36 =
        events cutShort 17 ++
          (events (cutShort.drop 17) 19).map (Except.mapError (DecodeFault.shift 17)) ∧
      events (cutShort.drop 17) 19 =
        [.ok ⟨⟨1⟩, ⟨0x400⟩, 0, none⟩, .error (.shortHeader 16 3)] ∧
      events cutShort 36 =
        [.ok ⟨⟨1⟩, ⟨0x100⟩, 0, some [0x61]⟩, .ok ⟨⟨1⟩, ⟨0x400⟩, 0, none⟩,
          .error (.shortHeader 33 3)] :=
  have hfits : 36 ≤ cutShort.length := by decide
  have hdecode : decode cutShort 17 = .ok [⟨⟨1⟩, ⟨0x100⟩, 0, some [0x61]⟩] := by decide +kernel
  have hincremental := events_incremental (by decide : 17 ≤ 36) hfits
  ⟨by decide, hfits, hdecode, hincremental.1, hincremental.2 _ hdecode, by decide +kernel,
    by decide +kernel⟩

end Inotify
