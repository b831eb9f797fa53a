/- # Reading the packed form

A cursor reads exactly what `Record.Packed` describes. Its step at a position (`Cursor.advance_record`,
`Cursor.advance_leftover`) depends only on what lies there: a record that fits, or bytes in which none
does. While the bytes left end where the valid ones end (`Cursor.Aligned`), a walk therefore gives the
packed records in order and then at most one fault, the one that `Record.Leftover` names
(`Cursor.Aligned.items_packed`). As all bytes begin with a longest packing, this settles the items of
every buffer (`events_longest_packed`) and when they decode (`decode_eq_ok_iff`).
-/

import Inotify.Proofs.Record.Packing

namespace Inotify
open Record (Fills Packed Leftover)

namespace Cursor

/-- **A step at a header**: what is left behind it decides whether the record fits. -/
theorem advance_header {c : Cursor} {r : Record} {length : Nat} {body : Bytes}
    (hc : c.valid ≤ c.capacity) (hlength : length < UInt32.size)
    (hrest : c.rest = r.header length ++ body) :
    c.advance =
      if body.length < length then .error (.shortRegion c.offset length body.length)
      else .ok ({ r with name := Record.nameOfRegion (body.take length) },
        { c with
          offset := c.offset + (Record.headerSize + length)
          rest := body.drop length }) := by
  obtain ⟨word, rfl⟩ : ∃ word : UInt32, length = word.toNat :=
    ⟨UInt32.ofNat length, (UInt32.toNat_ofNat_of_lt' hlength).symm⟩
  have hshort : (body.take word.toNat).length < word.toNat ↔ body.length < word.toNat := by
    rw [List.length_take]
    omega
  rw [advance, if_neg (Nat.not_lt.2 hc), hrest]
  simp only [Record.header, UInt32.ofNat_toNat, Word.bytes, List.cons_append, List.nil_append,
    Word.ofBytes_bytes, hshort, Int32.toInt32_toUInt32]

/-- **A step takes the record in front.** -/
theorem advance_record {c : Cursor} {r : Record} {region rest : Bytes} (hc : c.valid ≤ c.capacity)
    (hfills : Fills r.name region) (hlength : region.length < UInt32.size)
    (hrest : c.rest = r.header region.length ++ (region ++ rest)) :
    c.advance = .ok (r, { c with
      offset := c.offset + (Record.headerSize + region.length)
      rest }) := by
  have hfits : ¬(region ++ rest).length < region.length := by
    rw [List.length_append]
    omega
  rw [advance_header hc hlength hrest, if_neg hfits, List.take_left, List.drop_left,
    hfills.nameOfRegion_eq]

/-- **A step reports the fault where no record fits.** -/
theorem advance_leftover {c : Cursor} {fault : DecodeFault} (hc : c.valid ≤ c.capacity)
    (h : Leftover c.offset c.rest (some fault)) : c.advance = .error fault := by
  generalize hbytes : c.rest = bytes at h
  cases h with
  | header _ hshort =>
    rw [advance, if_neg (Nat.not_lt.2 hc)]
    split
    · next hrest =>
      rw [← hbytes, hrest, Record.headerSize] at hshort
      simp only [List.length_cons] at hshort
      omega
    · rw [hbytes]
  | region hlength hover => rw [advance_header hc hlength hbytes, if_pos hover]

/-- **A cursor at its end has no items.** -/
theorem items_of_done {c : Cursor} (hdone : c.failed ∨ c.valid ≤ c.offset) : c.items = [] := by
  rw [items, if_pos hdone]

/-- **A step that takes a record gives one item**, and the cursor after it gives the others. -/
theorem items_of_advance {c c' : Cursor} {r : Record} (hdone : ¬(c.failed ∨ c.valid ≤ c.offset))
    (h : c.advance = .ok (r, c')) : c.items = .ok r :: c'.items := by
  rw [items, if_neg hdone]
  split
  · next heq =>
    obtain ⟨rfl, rfl⟩ := Prod.mk.inj (Except.ok.inj (heq.symm.trans h))
    rfl
  · next heq => cases heq.symm.trans h

/-- **A fault is the last item.** -/
theorem items_of_fault {c : Cursor} {fault : DecodeFault}
    (hdone : ¬(c.failed ∨ c.valid ≤ c.offset)) (h : c.advance = .error fault) :
    c.items = [.error fault] := by
  rw [items, if_neg hdone]
  split
  · next heq => cases heq.symm.trans h
  · next heq => rw [Except.error.inj (heq.symm.trans h)]

/-- **Asking for the next item takes the items one by one**, and stays where it is after the last. -/
theorem next_items (c : Cursor) :
    (c.next = (none, c) ∧ c.items = []) ∨
      ∃ item c', c.next = (some item, c') ∧ c.items = item :: c'.items := by
  by_cases hdone : c.failed ∨ c.valid ≤ c.offset
  · exact Or.inl ⟨by rw [next, if_pos hdone], items_of_done hdone⟩
  · refine Or.inr ?_
    rw [next, if_neg hdone]
    cases h : c.advance with
    | ok taken => exact ⟨.ok taken.1, taken.2, rfl, items_of_advance hdone h⟩
    | error fault =>
      refine ⟨.error fault, { c with failed := true }, rfl, ?_⟩
      rw [items_of_fault hdone h, items_of_done (Or.inl rfl)]

/-- **What any number of questions gives**: the items in order, then nothing any more. -/
theorem nexts_eq (c : Cursor) (n : Nat) :
    c.nexts n = (c.items.map some ++ List.replicate n none).take n := by
  induction n generalizing c with
  | zero => rfl
  | succ n ih =>
    rw [nexts, ih]
    rcases next_items c with ⟨hnext, hitems⟩ | ⟨item, c', hnext, hitems⟩
    · rw [hnext, hitems]
      simp [List.replicate_succ]
    · rw [hnext, hitems]
      simp [List.replicate_succ', ← List.append_assoc, List.take_append_of_le_length]

/-- A cursor whose bytes begin at its offset and end with the valid ones. -/
structure Aligned (c : Cursor) : Prop where
  /-- The read claims no more than the buffer has. -/
  claim : c.valid ≤ c.capacity
  /-- No fault has been reported. -/
  sound : c.failed = false
  /-- What is left ends where the valid bytes end. -/
  reach : c.offset + c.rest.length = c.valid

/-- **The start of a buffer is aligned**, unless the read claims more than there is. -/
theorem aligned_start {buffer : Bytes} {valid : Nat} (h : valid ≤ buffer.length) :
    (start buffer valid).Aligned where
  claim := h
  sound := rfl
  reach := by rw [start, List.length_take, Nat.zero_add, Nat.min_eq_left h]

namespace Aligned

/-- **An aligned cursor is at its end when nothing is left.** -/
theorem done_iff {c : Cursor} (hc : c.Aligned) :
    (c.failed ∨ c.valid ≤ c.offset) ↔ c.rest = [] := by
  rw [hc.sound, ← hc.reach, ← List.length_eq_zero_iff]
  simp only [Bool.false_eq_true, false_or]
  omega

/-- **A record taken off leaves the cursor aligned.** -/
theorem skip {c : Cursor} {r : Record} {region rest : Bytes} (hc : c.Aligned)
    (hrest : c.rest = r.header region.length ++ (region ++ rest)) :
    Aligned { c with
      offset := c.offset + (Record.headerSize + region.length)
      rest } where
  claim := hc.claim
  sound := hc.sound
  reach := by
    have hreach := hc.reach
    rw [hrest, List.length_append, List.length_append, Record.length_header] at hreach
    show c.offset + (Record.headerSize + region.length) + rest.length = c.valid
    omega

/-- **A cursor gives the fault that its bytes are**, where no record fits. -/
theorem items_leftover {c : Cursor} {fault : Option DecodeFault} (hc : c.Aligned)
    (h : Leftover c.offset c.rest fault) : c.items = fault.toList.map .error := by
  cases fault with
  | none =>
    have hempty : c.rest = [] := by
      generalize c.rest = bytes at h
      cases h
      rfl
    exact items_of_done (hc.done_iff.2 hempty)
  | some fault =>
    have hsome : c.rest ≠ [] := by
      generalize c.rest = bytes at h
      cases h with
      | header hsome _ => exact hsome
      | region _ _ => exact List.append_ne_nil_of_left_ne_nil (List.cons_ne_nil _ _) _
    exact items_of_fault (mt hc.done_iff.1 hsome) (advance_leftover hc.claim h)

/-- **A cursor gives the records packed in front of it**, then the fault of what is left. -/
theorem items_packed {rs : List Record} {front : Bytes} (h : Packed rs front) {c : Cursor}
    {rest : Bytes} {fault : Option DecodeFault} (hc : c.Aligned) (hrest : c.rest = front ++ rest)
    (hleft : Leftover (c.offset + front.length) rest fault) :
    c.items = rs.map .ok ++ fault.toList.map .error := by
  induction h generalizing c with
  | nil =>
    rw [List.nil_append] at hrest
    exact items_leftover hc (hrest ▸ hleft)
  | @cons r rs region tail hfills hlength _ ih =>
    rw [List.append_assoc, List.append_assoc] at hrest
    have hsome : c.rest ≠ [] := hrest ▸ List.append_ne_nil_of_left_ne_nil (List.cons_ne_nil _ _) _
    rw [items_of_advance (mt hc.done_iff.1 hsome) (advance_record hc.claim hfills hlength hrest),
      ih (hc.skip hrest) rfl]
    · rfl
    · rw [List.length_append, List.length_append, Record.length_header] at hleft
      show Leftover (c.offset + (Record.headerSize + region.length) + tail.length) rest fault
      rw [Nat.add_assoc, Nat.add_assoc]
      exact hleft

end Aligned
end Cursor

/-- **The records before the first fault.** -/
def leading : List (Except DecodeFault Record) → List Record
  | .ok r :: items => r :: leading items
  | _ => []

/-- **The first fault**, if there is one. -/
def firstFault : List (Except DecodeFault Record) → Option DecodeFault
  | [] => none
  | .ok _ :: items => firstFault items
  | .error fault :: _ => some fault

/-- **Records in front come before the first fault**, and then those before it behind them. -/
theorem leading_append (rs : List Record) (items : List (Except DecodeFault Record)) :
    leading (rs.map .ok ++ items) = rs ++ leading items := by
  induction rs with
  | nil => rfl
  | cons r rs ih => rw [List.map_cons, List.cons_append, leading, ih, List.cons_append]

/-- **Where there is no fault, all records come before it.** -/
theorem leading_records (rs : List Record) : leading (rs.map .ok) = rs := by
  have happend := leading_append rs []
  simpa only [List.append_nil, leading] using happend

/-- **Among records there is no fault.** -/
theorem firstFault_records (rs : List Record) : firstFault (rs.map .ok) = none := by
  induction rs with
  | nil => rfl
  | cons r rs ih => rw [List.map_cons, firstFault, ih]

/-- **A claim beyond the buffer is the only item.** -/
theorem events_overclaimed {buffer : Bytes} {valid : Nat} (h : buffer.length < valid) :
    events buffer valid = [.error (.overclaimed valid buffer.length)] := by
  have hdone : ¬((Cursor.start buffer valid).failed ∨
      (Cursor.start buffer valid).valid ≤ (Cursor.start buffer valid).offset) := by
    simp only [Cursor.start, Bool.false_eq_true, false_or]
    omega
  refine Cursor.items_of_fault hdone ?_
  rw [Cursor.advance]
  exact if_pos h

/-- **The items in a buffer are the records packed in front**, then the fault of what is left. -/
theorem events_packed {buffer front rest : Bytes} {valid : Nat} {rs : List Record}
    {fault : Option DecodeFault} (h : valid ≤ buffer.length) (hpacked : Packed rs front)
    (hsplit : buffer.take valid = front ++ rest) (hleft : Leftover front.length rest fault) :
    events buffer valid = rs.map .ok ++ fault.toList.map .error := by
  refine (Cursor.aligned_start h).items_packed hpacked hsplit ?_
  show Leftover (0 + front.length) rest fault
  rwa [Nat.zero_add]

/-- **Records with a fault behind them are collected to the fault**, without one to the records. -/
theorem mapM_outcomes (rs : List Record) (fault : Option DecodeFault) :
    (rs.map Except.ok ++ fault.toList.map Except.error).mapM id =
      fault.elim (.ok rs) .error := by
  induction rs with
  | nil => cases fault <;> rfl
  | cons r rs ih =>
    rw [List.map_cons, List.cons_append, List.mapM_cons, ih]
    cases fault <;> rfl

/-- **A claim beyond the buffer does not decode.** -/
theorem decode_overclaimed {buffer : Bytes} {valid : Nat} (h : buffer.length < valid) :
    decode buffer valid = .error (.overclaimed valid buffer.length) := by
  rw [decode, events_overclaimed h]
  exact mapM_outcomes [] (some _)

/-- **Packed records decode to themselves**, unless something is left behind them. -/
theorem decode_packed {buffer front rest : Bytes} {valid : Nat} {rs : List Record}
    {fault : Option DecodeFault} (h : valid ≤ buffer.length) (hpacked : Packed rs front)
    (hsplit : buffer.take valid = front ++ rest) (hleft : Leftover front.length rest fault) :
    decode buffer valid = fault.elim (.ok rs) .error := by
  rw [decode, events_packed h hpacked hsplit hleft, mapM_outcomes]

/-- **A buffer decodes to records exactly when its valid bytes are these records, packed.** -/
theorem decode_eq_ok_iff {buffer : Bytes} {valid : Nat} {rs : List Record} :
    decode buffer valid = .ok rs ↔ valid ≤ buffer.length ∧ Packed rs (buffer.take valid) := by
  constructor
  · intro hok
    rcases Nat.lt_or_ge buffer.length valid with hover | h
    · rw [decode_overclaimed hover] at hok
      cases hok
    obtain ⟨rs', front, rest, fault, hsplit, hpacked, hleft⟩ :=
      Packed.exists_split (buffer.take valid)
    rw [decode_packed h hpacked hsplit hleft] at hok
    cases hleft with
    | nothing =>
      obtain rfl := Except.ok.inj hok
      rw [List.append_nil] at hsplit
      exact ⟨h, hsplit ▸ hpacked⟩
    | header _ _ => cases hok
    | region _ _ => cases hok
  · rintro ⟨h, hpacked⟩
    exact decode_packed h hpacked (List.append_nil _).symm .nothing

/-- **Reading accepts exactly the packed form.** Asking for the next item any number of times gives the
items and then nothing. A claim beyond the buffer is the one item. Else the items are the records of
the longest packing in front of the valid bytes, then the fault of what is left behind it. -/
theorem events_longest_packed (buffer : Bytes) (valid : Nat) :
    (∀ n, (Cursor.start buffer valid).nexts n =
      ((events buffer valid).map some ++ List.replicate n none).take n) ∧
    (buffer.length < valid ∧
        events buffer valid = [.error (.overclaimed valid buffer.length)] ∧
        decode buffer valid = .error (.overclaimed valid buffer.length) ∨
      valid ≤ buffer.length ∧ ∃ rs front rest fault,
        buffer.take valid = front ++ rest ∧ front.length + rest.length = valid ∧ Packed rs front ∧
        (∀ rs' front', Packed rs' front' → front' <+: buffer.take valid →
          rs' <+: rs ∧ front' <+: front) ∧
        Leftover front.length rest fault ∧
        events buffer valid = rs.map .ok ++ fault.toList.map .error ∧
        decode buffer valid = fault.elim (.ok rs) .error) := by
  refine ⟨fun n => Cursor.nexts_eq _ n, ?_⟩
  rcases Nat.lt_or_ge buffer.length valid with hover | h
  · exact Or.inl ⟨hover, events_overclaimed hover, decode_overclaimed hover⟩
  obtain ⟨rs, front, rest, fault, hsplit, hpacked, hleft⟩ :=
    Packed.exists_leftover 0 (buffer.take valid)
  rw [Nat.zero_add] at hleft
  refine Or.inr ⟨h, rs, front, rest, fault, hsplit, ?_, hpacked, ?_, hleft,
    events_packed h hpacked hsplit hleft, decode_packed h hpacked hsplit hleft⟩
  · rw [← List.length_append, ← hsplit, List.length_take, Nat.min_eq_left h]
  · rintro rs' front' hpacked' ⟨rest', heq⟩
    exact hpacked.isPrefix hleft hpacked' (heq.trans hsplit)

end Inotify
