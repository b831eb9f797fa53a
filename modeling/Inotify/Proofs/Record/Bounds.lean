/- # Reading within bounds

A machine does not hold what is left of a buffer, as a cursor does. It holds the whole buffer and a
position in it, reckons with words of 64 bits and cuts out the bytes between two positions. A sum may
then be too large for a word, a difference below zero, a cut outside the bytes. A `Reader` is a cursor
of this kind whose every operation is checked:

| operation | may fail with |
| --- | --- |
| `valid - offset`, and that less a header | `difference` |
| the positions behind the header, behind a header word, behind the region | `sum` |
| header, header words, region, name without its padding | `range` |
| four bytes put together to a word | `size` |

None of them ever fails. A position never passes the valid bytes, and these never pass a buffer that
is read at all; so the bytes left in front of a reader are those that the cursor at its place holds
(`Reader.cursor`), and what the cursor finds there, a header or too little for one, tells that the next
cut lies inside (`Reader.advance_spec`). As the two also go on alike (`Reader.next_spec`), what holds
of one question holds of any number of them (`Reader.nexts_spec`).
-/

import Inotify.Proofs.Record.Reading
import Mathlib.Logic.Function.Iterate

namespace Inotify

/-- Why an operation on words and bytes is refused. -/
inductive Trap where
  /-- The sum does not fit into a word. -/
  | sum
  /-- The difference is below zero. -/
  | difference
  /-- The cut ends in front of its beginning, or behind the bytes. -/
  | range
  /-- There are not as many bytes as a word has. -/
  | size
deriving DecidableEq, Repr

namespace Checked

/-- The sum of two words. -/
def add (a b : UInt64) : Except Trap UInt64 :=
  if a.toNat + b.toNat < UInt64.size then .ok (a + b) else .error .sum

/-- The difference of two words. -/
def sub (a b : UInt64) : Except Trap UInt64 := if b ≤ a then .ok (a - b) else .error .difference

/-- The bytes between two positions. -/
def cut (bytes : Bytes) (first last : UInt64) : Except Trap Bytes :=
  if first ≤ last ∧ last.toNat ≤ bytes.length then
    .ok ((bytes.take last.toNat).drop first.toNat)
  else .error .range

/-- The header word at a place. -/
def word (header : Bytes) (place : UInt64) : Except Trap UInt32 := do
  let behind ← add place 4
  match ← cut header place behind with
  | [a, b, c, d] => .ok (Word.ofBytes a b c d)
  | _ => .error .size

/-- The bytes of a region before its first NUL, or all of them. -/
def trim (region : Bytes) : Except Trap Bytes :=
  match region.findIdx? (· = 0) with
  | some place => cut region 0 (UInt64.ofNat place)
  | none => .ok region

/-- The name in a region of the given length: nothing if it is empty. -/
def name (buffer : Bytes) (first length : UInt64) : Except Trap (Option Bytes) :=
  if length = 0 then .ok none
  else do
    let behind ← add first length
    let region ← cut buffer first behind
    let name ← trim region
    return some name

/-- **An operation that gives something goes on with it.** -/
@[simp] theorem ok_bind {α β : Type} (a : α) (f : α → Except Trap β) : (.ok a >>= f) = f a := rfl

/-- **A sum that fits is the sum.** -/
theorem add_spec {a b : UInt64} (h : a.toNat + b.toNat < UInt64.size) :
    ∃ s, add a b = .ok s ∧ s.toNat = a.toNat + b.toNat :=
  ⟨a + b, if_pos h, (UInt64.toNat_add a b).trans (Nat.mod_eq_of_lt h)⟩

/-- **A difference from the larger one is the difference.** -/
theorem sub_spec {a b : UInt64} (h : b.toNat ≤ a.toNat) :
    ∃ d, sub a b = .ok d ∧ d.toNat = a.toNat - b.toNat :=
  have hle : b ≤ a := UInt64.le_iff_toNat_le.2 h
  ⟨a - b, if_pos hle, UInt64.toNat_sub_of_le a b hle⟩

/-- **A cut where some bytes lie gives these bytes.** -/
theorem cut_spec {front middle back : Bytes} {first last : UInt64}
    (hfirst : first.toNat = front.length) (hlast : last.toNat = front.length + middle.length) :
    cut (front ++ (middle ++ back)) first last = .ok middle := by
  have hinside : first ≤ last ∧ last.toNat ≤ (front ++ (middle ++ back)).length := by
    rw [UInt64.le_iff_toNat_le, List.length_append, List.length_append]
    omega
  rw [cut, if_pos hinside, hfirst, hlast, ← List.append_assoc,
    List.take_left' (List.length_append), List.drop_left]

/-- **A word is read where its bytes lie.** -/
theorem word_spec (front back : Bytes) {w : UInt32} {place : UInt64}
    (hplace : place.toNat = front.length) (hfits : place.toNat + 4 < UInt64.size) :
    word (front ++ (Word.bytes w ++ back)) place = .ok w := by
  obtain ⟨behind, hadd, hbehind⟩ := add_spec (a := place) (b := 4) hfits
  rw [hplace] at hbehind
  rw [word, hadd, ok_bind, cut_spec hplace hbehind, ok_bind]
  exact congrArg Except.ok (Word.ofBytes_bytes w)

/-- **A region is trimmed to the bytes before its first NUL.** -/
theorem trim_spec {region : Bytes} (h : region.length < UInt64.size) :
    trim region = .ok (region.takeWhile (· ≠ 0)) := by
  rw [trim]
  split
  · next place hfound =>
    obtain ⟨hinside, hplace⟩ := List.findIdx?_eq_some_iff_findIdx_eq.1 hfound
    have hword : (UInt64.ofNat place).toNat = place := UInt64.toNat_ofNat_of_lt' (hinside.trans h)
    have hlength : (region.take place).length = place := List.length_take_of_le hinside.le
    have hcut : cut ([] ++ (region.take place ++ region.drop place)) 0 (UInt64.ofNat place) =
        .ok (region.take place) :=
      cut_spec rfl (by rw [hword, hlength, List.length_nil, Nat.zero_add])
    rw [List.nil_append, List.take_append_drop] at hcut
    rw [hcut, List.takeWhile_eq_take_findIdx_not]
    simp only [decide_not, Bool.not_not, hplace]
  · next hnone =>
    have hall := List.findIdx?_eq_none_iff.1 hnone
    refine congrArg Except.ok (List.takeWhile_eq_self_iff.2 fun b hb => ?_).symm
    simpa using hall b hb

/-- **A name is the one of the region where it lies.** -/
theorem name_spec {front region back : Bytes} {first length : UInt64}
    (hfirst : first.toNat = front.length) (hlength : length.toNat = region.length)
    (hfits : front.length + region.length < UInt64.size) :
    name (front ++ (region ++ back)) first length = .ok (Record.nameOfRegion region) := by
  have hempty : length = 0 ↔ region.isEmpty = true := by
    rw [← UInt64.toNat_inj, hlength, List.isEmpty_iff, ← List.length_eq_zero_iff]
    rfl
  rw [name, Record.nameOfRegion]
  by_cases hzero : length = 0
  · rw [if_pos hzero, if_pos (hempty.1 hzero)]
  · obtain ⟨behind, hadd, hbehind⟩ := add_spec (a := first) (b := length) (by omega)
    rw [if_neg hzero, if_neg (mt hempty.2 hzero), hadd, ok_bind, cut_spec hfirst (by omega), ok_bind,
      trim_spec (by omega), ok_bind]
    rfl

/-- **The four words of a header are read off it.** -/
theorem word_header (r : Record) (length : Nat) :
    word (r.header length) 0 = .ok r.watch.number.toUInt32 ∧
      word (r.header length) 4 = .ok r.mask.bits ∧
      word (r.header length) 8 = .ok r.cookie ∧
      word (r.header length) 12 = .ok (UInt32.ofNat length) :=
  ⟨word_spec [] _ rfl (by decide),
    word_spec (Word.bytes r.watch.number.toUInt32) _ rfl (by decide),
    word_spec (Word.bytes r.watch.number.toUInt32 ++ Word.bytes r.mask.bits) _ rfl (by decide),
    word_spec (Word.bytes r.watch.number.toUInt32 ++ Word.bytes r.mask.bits ++ Word.bytes r.cookie) []
      rfl (by decide)⟩

end Checked

/-- A cursor that holds a position in the whole buffer and reckons with words. -/
structure Reader where
  /-- The buffer. -/
  buffer : Bytes
  /-- How many bytes of it the read claims to have filled. -/
  valid : UInt64
  /-- Where the next record begins. -/
  offset : UInt64
  /-- Whether a fault has been reported. -/
  failed : Bool
deriving DecidableEq, Repr

namespace Reader

/-- The size of a header as a word. -/
def headerSize : UInt64 := UInt64.ofNat Record.headerSize

/-- The start of the first `valid` bytes of a buffer. -/
def start (buffer : Bytes) (valid : UInt64) : Reader := ⟨buffer, valid, 0, false⟩

/-- The header in front: a record still without its name, and the length of its region. -/
def header (c : Reader) : Except Trap (Record × UInt32) := do
  let behind ← Checked.add c.offset headerSize
  let header ← Checked.cut c.buffer c.offset behind
  let watch ← Checked.word header 0
  let mask ← Checked.word header 4
  let cookie ← Checked.word header 8
  let length ← Checked.word header 12
  return (⟨⟨watch.toInt32⟩, ⟨mask⟩, cookie, none⟩, length)

/-- The region behind the header in front: the record with its name, and the reader behind it. -/
def region (c : Reader) (r : Record) (length : UInt64) : Except Trap (Record × Reader) := do
  let first ← Checked.add c.offset headerSize
  let name ← Checked.name c.buffer first length
  let next ← Checked.add first length
  return ({ r with name }, { c with offset := next })

/-- **Takes one record off the front**, with every operation checked. -/
def advance (c : Reader) : Except Trap (Except DecodeFault (Record × Reader)) :=
  if c.buffer.length < c.valid.toNat then
    .ok (.error (.overclaimed c.valid.toNat c.buffer.length))
  else do
    let remaining ← Checked.sub c.valid c.offset
    if remaining < headerSize then
      return .error (.shortHeader c.offset.toNat remaining.toNat)
    else
      let (r, length) ← c.header
      let body ← Checked.sub remaining headerSize
      if body < length.toUInt64 then
        return .error (.shortRegion c.offset.toNat length.toNat body.toNat)
      else .ok <$> c.region r length.toUInt64

/-- **The next item, and the reader after it.** -/
def next (c : Reader) : Except Trap (Option (Except DecodeFault Record) × Reader) :=
  if c.failed ∨ c.valid ≤ c.offset then .ok (none, c)
  else do
    match ← c.advance with
    | .ok (r, c') => return (some (.ok r), c')
    | .error fault => return (some (.error fault), { c with failed := true })

/-- The results of asking `n` times for the next item, and the reader after that. -/
def nexts : Nat → Reader → Except Trap (List (Option (Except DecodeFault Record)) × Reader)
  | 0, c => .ok ([], c)
  | n + 1, c => do
    let (answer, c') ← c.next
    let (answers, c'') ← nexts n c'
    return (answer :: answers, c'')

/-- The cursor at the place of a reader. -/
def cursor (c : Reader) : Cursor :=
  ⟨c.buffer.length, c.valid.toNat, c.offset.toNat,
    (c.buffer.take c.valid.toNat).drop c.offset.toNat, c.failed⟩

/-- **The size of a header is sixteen.** -/
@[simp] theorem toNat_headerSize : headerSize.toNat = Record.headerSize := rfl

variable {c : Reader} {r : Record} {length : Nat} {front body back : Bytes}

/-- **A header is read where it lies.** -/
theorem header_spec (hbuffer : c.buffer = front ++ (r.header length ++ back))
    (hplace : c.offset.toNat = front.length)
    (hfits : c.offset.toNat + Record.headerSize < UInt64.size) :
    c.header = .ok ({ r with name := none }, UInt32.ofNat length) := by
  obtain ⟨behind, hadd, hbehind⟩ := Checked.add_spec (a := c.offset) (b := headerSize) hfits
  have hcut : Checked.cut c.buffer c.offset behind = .ok (r.header length) := by
    rw [hbuffer]
    exact Checked.cut_spec hplace (by rw [hbehind, hplace, toNat_headerSize, Record.length_header])
  obtain ⟨hwatch, hmask, hcookie, hlength⟩ := Checked.word_header r length
  simp only [header, hadd, hcut, hwatch, hmask, hcookie, hlength, Checked.ok_bind,
    Int32.toInt32_toUInt32]
  rfl

/-- **A region is read where it lies.** -/
theorem region_spec {size : UInt64} {region : Bytes} (hbuffer : c.buffer = front ++ (region ++ back))
    (hplace : c.offset.toNat + Record.headerSize = front.length) (hsize : size.toNat = region.length)
    (hfits : front.length + region.length < UInt64.size) :
    c.region r size = .ok ({ r with name := Record.nameOfRegion region },
      { c with offset := UInt64.ofNat (front.length + region.length) }) := by
  obtain ⟨first, hadd, hfirst⟩ := Checked.add_spec (a := c.offset) (b := headerSize)
    (by rw [toNat_headerSize]; omega)
  rw [toNat_headerSize, hplace] at hfirst
  have hname : Checked.name c.buffer first size = .ok (Record.nameOfRegion region) := by
    rw [hbuffer]
    exact Checked.name_spec hfirst hsize hfits
  obtain ⟨next, hadd', hnext⟩ := Checked.add_spec (a := first) (b := size)
    (by rw [hfirst, hsize]; exact hfits)
  rw [hfirst, hsize] at hnext
  rw [← hnext, UInt64.ofNat_toNat]
  simp only [Reader.region, hadd, hname, hadd', Checked.ok_bind]
  rfl

/-- **What is left in front of a reader lies at its position in the buffer.** -/
theorem exists_front (hclaim : c.valid.toNat ≤ c.buffer.length) (hinside : c.offset ≤ c.valid) :
    ∃ front back, c.buffer = front ++ (c.cursor.rest ++ back) ∧ front.length = c.offset.toNat ∧
      c.offset.toNat + c.cursor.rest.length = c.valid.toNat := by
  have hvalid : (c.buffer.take c.valid.toNat).length = c.valid.toNat := List.length_take_of_le hclaim
  have hle := UInt64.le_iff_toNat_le.1 hinside
  refine ⟨(c.buffer.take c.valid.toNat).take c.offset.toNat, c.buffer.drop c.valid.toNat, ?_, ?_, ?_⟩
  · rw [cursor, ← List.append_assoc, List.take_append_drop, List.take_append_drop]
  · rw [List.length_take, hvalid, Nat.min_eq_left hle]
  · rw [cursor, List.length_drop, hvalid, Nat.add_sub_cancel' hle]

/-- **Too little for a header is reported as that.** -/
theorem advance_short (hclaim : c.valid.toNat ≤ c.buffer.length) (hinside : c.offset ≤ c.valid)
    (hshort : c.cursor.rest.length < Record.headerSize) :
    c.advance = .ok (.error (.shortHeader c.offset.toNat c.cursor.rest.length)) := by
  obtain ⟨-, -, -, -, hreach⟩ := exists_front hclaim hinside
  obtain ⟨remaining, hsub, hremaining⟩ := Checked.sub_spec (UInt64.le_iff_toNat_le.1 hinside)
  have hleft : remaining.toNat = c.cursor.rest.length := by omega
  have hless : remaining < headerSize := by
    rw [UInt64.lt_iff_toNat_lt, hleft]
    exact hshort
  rw [advance, if_neg (Nat.not_lt.2 hclaim), hsub, Checked.ok_bind, if_pos hless, hleft]
  rfl

/-- **At a header, what is left behind it decides whether its region is read.** -/
theorem advance_header (hclaim : c.valid.toNat ≤ c.buffer.length) (hinside : c.offset ≤ c.valid)
    (hlength : length < UInt32.size) (hrest : c.cursor.rest = r.header length ++ body) :
    c.advance =
      if body.length < length then .ok (.error (.shortRegion c.offset.toNat length body.length))
      else .ok <$> c.region { r with name := none } (UInt32.ofNat length).toUInt64 := by
  obtain ⟨front, back, hbuffer, hfront, hreach⟩ := exists_front hclaim hinside
  have hsmall := c.valid.toNat_lt_size
  rw [hrest, List.append_assoc] at hbuffer
  rw [hrest, List.length_append, Record.length_header] at hreach
  obtain ⟨remaining, hsub, hremaining⟩ := Checked.sub_spec (UInt64.le_iff_toNat_le.1 hinside)
  have hheader := header_spec hbuffer hfront.symm (by omega)
  obtain ⟨left, hsub', hleft⟩ := Checked.sub_spec (a := remaining) (b := headerSize)
    (by rw [toNat_headerSize]; omega)
  rw [toNat_headerSize] at hleft
  have hlong : ¬remaining < headerSize := by
    rw [UInt64.lt_iff_toNat_lt, toNat_headerSize]
    omega
  have hdeclared : (UInt32.ofNat length).toNat = length := UInt32.toNat_ofNat_of_lt' hlength
  have hbody : left.toNat = body.length := by omega
  have hover : left < (UInt32.ofNat length).toUInt64 ↔ body.length < length := by
    rw [UInt64.lt_iff_toNat_lt, UInt32.toNat_toUInt64, hdeclared, hbody]
  rw [advance, if_neg (Nat.not_lt.2 hclaim)]
  simp only [hsub, hlong, hheader, hsub', hover, hdeclared, hbody, Checked.ok_bind, if_false]
  rfl

/-- **The region behind a header is read if it fits**, and the reader goes on behind it. -/
theorem region_header (hclaim : c.valid.toNat ≤ c.buffer.length) (hinside : c.offset ≤ c.valid)
    (hlength : length < UInt32.size) (hrest : c.cursor.rest = r.header length ++ body)
    (hfits : length ≤ body.length) :
    c.region { r with name := none } (UInt32.ofNat length).toUInt64 =
      .ok ({ r with name := Record.nameOfRegion (body.take length) },
        { c with offset := UInt64.ofNat (c.offset.toNat + (Record.headerSize + length)) }) := by
  obtain ⟨front, back, hbuffer, hfront, hreach⟩ := exists_front hclaim hinside
  have hsmall := c.valid.toNat_lt_size
  have htake : (body.take length).length = length := List.length_take_of_le hfits
  have hplace : (front ++ r.header length).length = c.offset.toNat + Record.headerSize := by
    rw [List.length_append, hfront, Record.length_header]
  have hsplit : c.buffer =
      (front ++ r.header length) ++ (body.take length ++ (body.drop length ++ back)) := by
    rw [hbuffer, hrest, ← List.append_assoc (body.take length), List.take_append_drop]
    simp only [List.append_assoc]
  rw [hrest, List.length_append, Record.length_header] at hreach
  rw [region_spec hsplit hplace.symm, hplace, htake, Nat.add_assoc]
  · rw [htake, UInt32.toNat_toUInt64, UInt32.toNat_ofNat_of_lt' hlength]
  · rw [htake, hplace]
    omega

/-- **As far as a reader goes on, so far does the cursor at its place.** -/
theorem cursor_skip {far : Nat} (hsmall : c.offset.toNat + far < UInt64.size) :
    cursor { c with offset := UInt64.ofNat (c.offset.toNat + far) } =
      { c.cursor with offset := c.offset.toNat + far, rest := c.cursor.rest.drop far } := by
  simp only [cursor, UInt64.toNat_ofNat_of_lt' hsmall, List.drop_drop]

/-- A reader so far on in the same valid bytes, at least, and not behind them. -/
structure Onward (c : Reader) (far : Nat) (c' : Reader) : Prop where
  /-- The buffer is the same. -/
  buffer : c'.buffer = c.buffer
  /-- As many bytes of it are valid. -/
  valid : c'.valid = c.valid
  /-- The position has grown. -/
  grows : c.offset.toNat + far ≤ c'.offset.toNat
  /-- It has not passed the valid bytes. -/
  inside : c'.offset ≤ c'.valid

/-- **Ways add up.** -/
theorem Onward.trans {far far' : Nat} {c₁ c₂ : Reader} (h : c.Onward far c₁)
    (h' : c₁.Onward far' c₂) : c.Onward (far + far') c₂ where
  buffer := h'.buffer.trans h.buffer
  valid := h'.valid.trans h.valid
  grows := by
    have := h.grows
    have := h'.grows
    omega
  inside := h'.inside

/-- **A reader in front of valid bytes is not trapped**, and does what the cursor at its place does. -/
theorem advance_spec (hfront : c.offset < c.valid) :
    (∃ fault, c.advance = .ok (.error fault) ∧ c.cursor.advance = .error fault) ∨
      ∃ r c', c.advance = .ok (.ok (r, c')) ∧ c.cursor.advance = .ok (r, c'.cursor) ∧
        c.Onward Record.headerSize c' := by
  -- Behind the check of the claim all bytes that are left lie in the buffer, and their front decides:
  -- too little for a header, a header whose region is too long, or a record.
  rcases Nat.lt_or_ge c.buffer.length c.valid.toNat with hover | hclaim
  · refine Or.inl ⟨.overclaimed c.valid.toNat c.buffer.length, ?_, ?_⟩
    · rw [advance, if_pos hover]
    · rw [Cursor.advance]
      exact if_pos hover
  have hinside : c.offset ≤ c.valid := UInt64.le_of_lt hfront
  obtain ⟨-, -, -, -, hreach⟩ := exists_front hclaim hinside
  have hless := UInt64.lt_iff_toNat_lt.1 hfront
  rcases Record.short_or_header c.cursor.rest with hshort | ⟨r, length, body, hlength, hrest⟩
  · have hsome : c.cursor.rest ≠ [] := List.ne_nil_of_length_pos (by omega)
    exact Or.inl ⟨_, advance_short hclaim hinside hshort,
      Cursor.advance_leftover hclaim (.header hsome hshort)⟩
  have hreader := advance_header hclaim hinside hlength hrest
  have hcursor := Cursor.advance_header (c := c.cursor) hclaim hlength hrest
  by_cases hfits : body.length < length
  · rw [if_pos hfits] at hreader hcursor
    exact Or.inl ⟨_, hreader, hcursor⟩
  rw [if_neg hfits, region_header hclaim hinside hlength hrest (Nat.not_lt.1 hfits)] at hreader
  rw [if_neg hfits] at hcursor
  have hbody : body.drop length = c.cursor.rest.drop (Record.headerSize + length) := by
    rw [hrest, ← List.drop_drop, List.drop_left' (Record.length_header r length)]
  rw [hrest, List.length_append, Record.length_header] at hreach
  have hsmall : c.offset.toNat + (Record.headerSize + length) < UInt64.size := by
    have := c.valid.toNat_lt_size
    omega
  have hnext := UInt64.toNat_ofNat_of_lt' hsmall
  refine Or.inr ⟨_, _, hreader, ?_, rfl, rfl, ?_, ?_⟩
  · rw [hcursor, hbody, cursor_skip hsmall]
    rfl
  · rw [hnext, ← Nat.add_assoc]
    exact Nat.le_add_right _ _
  · rw [UInt64.le_iff_toNat_le, hnext]
    show c.offset.toNat + (Record.headerSize + length) ≤ c.valid.toNat
    omega

/-- **At its end a reader stays**, however often it is asked. -/
theorem nexts_of_done (hdone : c.failed ∨ c.valid ≤ c.offset) (n : Nat) :
    c.nexts n = .ok (List.replicate n none, c) := by
  induction n with
  | zero => rfl
  | succ n ih =>
    rw [nexts, next, if_pos hdone, Checked.ok_bind]
    show (c.nexts n >>= _) = _
    rw [ih]
    rfl

/-- How far an answer moves a reader at least: a record takes a header. -/
def stride : Option (Except DecodeFault Record) → Nat
  | some (.ok _) => 16
  | some (.error _) => 0
  | none => 0

/-- **What comes of one question to a reader.** -/
structure Asked (c : Reader) (answer : Option (Except DecodeFault Record)) (c' : Reader) : Prop where
  /-- The reader is not trapped. -/
  next : c.next = .ok (answer, c')
  /-- The cursor at its place gives the same answer and goes to the same place. -/
  cursor : c.cursor.next = (answer, c'.cursor)
  /-- The position does not go back, goes on by sixteen with a record, and stays in the valid bytes. -/
  onward : c.Onward (stride answer) c'
  /-- After any answer but a record there is no other, and the reader stays as it is. -/
  last : (∀ r, answer ≠ some (.ok r)) → ∀ n, c'.nexts n = .ok (List.replicate n none, c')

/-- **Every question is answered.** -/
theorem next_spec (hinside : c.offset ≤ c.valid) : ∃ answer c', c.Asked answer c' := by
  have hdone_iff : (c.cursor.failed ∨ c.cursor.valid ≤ c.cursor.offset) ↔
      (c.failed ∨ c.valid ≤ c.offset) := or_congr_right UInt64.le_iff_toNat_le.symm
  by_cases hdone : c.failed ∨ c.valid ≤ c.offset
  · refine ⟨none, c, ?_, ?_, ⟨rfl, rfl, le_rfl, hinside⟩, fun _ => nexts_of_done hdone⟩
    · rw [next, if_pos hdone]
    · rw [Cursor.next, if_pos (hdone_iff.2 hdone)]
  have hfront : c.offset < c.valid := UInt64.not_le.1 fun h => hdone (Or.inr h)
  rcases advance_spec hfront with ⟨fault, hreader, hcursor⟩ | ⟨r, c', hreader, hcursor, honward⟩
  · refine ⟨some (.error fault), { c with failed := true }, ?_, ?_, ⟨rfl, rfl, le_rfl, hinside⟩,
      fun _ => nexts_of_done (Or.inl rfl)⟩
    · rw [next, if_neg hdone, hreader]
      rfl
    · rw [Cursor.next, if_neg (mt hdone_iff.1 hdone), hcursor]
      rfl
  · refine ⟨some (.ok r), c', ?_, ?_, honward, fun hnone => absurd rfl (hnone r)⟩
    · rw [next, if_neg hdone, hreader]
      rfl
    · rw [Cursor.next, if_neg (mt hdone_iff.1 hdone), hcursor]

/-- **What comes of any number of questions to a reader.** -/
structure Answered (c : Reader) (n : Nat) (answers : List (Option (Except DecodeFault Record)))
    (c' : Reader) : Prop where
  /-- The reader is not trapped. -/
  nexts : c.nexts n = .ok (answers, c')
  /-- The cursor at its place gives the same answers. -/
  agrees : c.cursor.nexts n = answers
  /-- It goes to the same place. -/
  cursor : (fun k : Cursor => k.next.2)^[n] c.cursor = c'.cursor
  /-- The answers are records, then at most one fault, then nothing any more, and each record has
  moved the position by a header at least. -/
  bounded : ∃ (rs : List Record) (fault : Option DecodeFault) (k : Nat),
    answers = (rs.map Except.ok ++ fault.toList.map Except.error).map some ++ List.replicate k none ∧
      c.Onward (16 * rs.length) c'

/-- **A question in front** of others that are answered. -/
theorem Asked.answered {answer : Option (Except DecodeFault Record)} {c₁ c₂ : Reader} {n : Nat}
    {answers : List (Option (Except DecodeFault Record))} (hfirst : c.Asked answer c₁)
    (hothers : c₁.Answered n answers c₂) : c.Answered (n + 1) (answer :: answers) c₂ where
  nexts := by
    rw [Reader.nexts, hfirst.next, Checked.ok_bind]
    show (c₁.nexts n >>= _) = _
    rw [hothers.nexts]
    rfl
  agrees := by rw [Cursor.nexts, hfirst.cursor, hothers.agrees]
  cursor := by rw [Function.iterate_succ_apply, hfirst.cursor, hothers.cursor]
  bounded := by
    obtain ⟨-, -, honward, hlast⟩ := hfirst
    -- Behind an answer that is no record nothing comes, so the others say nothing.
    have hstays (hnone : ∀ r, answer ≠ some (.ok r)) : answers = List.replicate n none ∧ c₂ = c₁ :=
      Prod.mk.inj (Except.ok.inj (hothers.nexts.symm.trans (hlast hnone n)))
    cases answer with
    | none =>
      obtain ⟨rfl, rfl⟩ := hstays (by rintro r ⟨⟩)
      exact ⟨[], none, n + 1, rfl, honward⟩
    | some outcome =>
      cases outcome with
      | error fault =>
        obtain ⟨rfl, rfl⟩ := hstays (by rintro r ⟨⟩)
        exact ⟨[], some fault, n, rfl, honward⟩
      | ok r =>
        obtain ⟨rs, fault, k, rfl, honward'⟩ := hothers.bounded
        refine ⟨r :: rs, fault, k, rfl, ?_⟩
        rw [List.length_cons, Nat.mul_succ, Nat.add_comm]
        exact honward.trans honward'

/-- **Any number of questions is answered.** -/
theorem nexts_spec (hinside : c.offset ≤ c.valid) (n : Nat) :
    ∃ answers c', c.Answered n answers c' := by
  induction n generalizing c with
  | zero => exact ⟨[], c, rfl, rfl, rfl, [], none, 0, rfl, rfl, rfl, le_rfl, hinside⟩
  | succ n ih =>
    obtain ⟨answer, c₁, hfirst⟩ := next_spec hinside
    obtain ⟨answers, c₂, hothers⟩ := ih hfirst.onward.inside
    exact ⟨answer :: answers, c₂, hfirst.answered hothers⟩

/-- **Reading stays within bounds, whatever the bytes are and however many of them are claimed.**
However often a reader is asked, no sum, difference, cut or word fails, and a cursor gives the same
answers and stands at the same place. The answers are records, at most one for sixteen valid bytes,
then at most one fault, then nothing any more. The position has not passed the valid bytes. One more
question does not take it back or past them, and takes it on by sixteen bytes at least if the answer
is a record. If the answer is none, all later ones are nothing and leave the reader as it is. -/
theorem nexts_within (buffer : Bytes) (valid : UInt64) (n : Nat) :
    ∃ answers c,
      (start buffer valid).nexts n = .ok (answers, c) ∧
      (Cursor.start buffer valid.toNat).nexts n = answers ∧
      (fun k : Cursor => k.next.2)^[n] (Cursor.start buffer valid.toNat) = c.cursor ∧
      (∃ (rs : List Record) (fault : Option DecodeFault) (k : Nat),
        answers =
            (rs.map Except.ok ++ fault.toList.map Except.error).map some ++ List.replicate k none ∧
          rs.length ≤ valid.toNat / 16) ∧
      c.buffer = buffer ∧ c.valid = valid ∧ c.offset ≤ valid ∧
      ∃ answer c', c.Asked answer c' := by
  have hstart : (start buffer valid).cursor = Cursor.start buffer valid.toNat := rfl
  have hfirst : (start buffer valid).offset ≤ (start buffer valid).valid := UInt64.zero_le
  obtain ⟨answers, c, hnexts, hagrees, hcursor, rs, fault, k, hanswers, honward⟩ :=
    nexts_spec hfirst n
  have hvalid : c.valid = valid := honward.valid
  have hinside : c.offset ≤ valid := hvalid ▸ honward.inside
  have hrecords : rs.length ≤ valid.toNat / 16 := by
    have hgrows : 0 + 16 * rs.length ≤ c.offset.toNat := honward.grows
    have hreach := UInt64.le_iff_toNat_le.1 hinside
    omega
  rw [hstart] at hagrees hcursor
  exact ⟨answers, c, hnexts, hagrees, hcursor, ⟨rs, fault, k, hanswers, hrecords⟩, honward.buffer,
    hvalid, hinside, next_spec honward.inside⟩

/-- A header that declares the longest region, and one byte behind it. -/
example :
    (start [1, 0, 0, 0, 0, 1, 0, 0, 0, 0, 0, 0, 255, 255, 255, 255, 97] 17).nexts 3 =
      .ok ([some (.error (.shortRegion 0 4294967295 1)), none, none],
        ⟨[1, 0, 0, 0, 0, 1, 0, 0, 0, 0, 0, 0, 255, 255, 255, 255, 97], 17, 0, true⟩) := by
  decide +kernel

end Reader
end Inotify
