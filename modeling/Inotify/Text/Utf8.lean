/- # UTF-8, strict and lossy

Bytes that come from outside (file names, paths, file contents) need not be UTF-8. One scanner reads
them from the left and yields a character for each well-formed sequence and a gap for each *maximal
subpart* of an ill-formed one: the longest run of bytes that begins some well-formed sequence, or a
single byte that begins none. The first byte of a sequence fixes its shape:

| first byte | continuation bytes | range of the first of them |
| --- | ---: | --- |
| `00`–`7F` | 0 | |
| `C2`–`DF` | 1 | `80`–`BF` |
| `E0` | 2 | `A0`–`BF` |
| `E1`–`EC`, `EE`, `EF` | 2 | `80`–`BF` |
| `ED` | 2 | `80`–`9F` |
| `F0` | 3 | `90`–`BF` |
| `F1`–`F3` | 3 | `80`–`BF` |
| `F4` | 3 | `80`–`8F` |

`lossy` writes U+FFFD for every gap; `decode?` refuses a text that has one.
-/

namespace Inotify

/-- A run of bytes. -/
abbrev Bytes := List UInt8

namespace Utf8

/-- The UTF-8 bytes of a text. -/
def encode (s : String) : Bytes := s.toUTF8.data.toList

/-- **Encoding respects concatenation.** -/
@[simp] theorem encode_append (s t : String) : encode (s ++ t) = encode s ++ encode t := by
  simp [encode]

/-- **Two texts with the same bytes are the same text.** -/
theorem encode_injective {s t : String} (h : encode s = encode t) : s = t := by
  have h' : s.toUTF8.data = t.toUTF8.data := Array.ext' h
  exact String.toByteArray_inj.1 (ByteArray.ext h')

/-- What the first byte of a longer sequence says about the rest of it. -/
structure Lead where
  /-- How many continuation bytes follow. -/
  tail : Nat
  /-- Least value of the first of them. -/
  low : UInt8
  /-- Greatest value of the first of them. -/
  high : UInt8
  /-- The bits of the code point that the first byte holds. -/
  bits : Nat

/-- The shape that a byte from `80` on announces, if it begins a sequence at all. -/
def lead? (b : UInt8) : Option Lead :=
  if b < 0xC2 then none
  else if b < 0xE0 then some ⟨1, 0x80, 0xBF, b.toNat - 0xC0⟩
  else if b = 0xE0 then some ⟨2, 0xA0, 0xBF, 0⟩
  else if b = 0xED then some ⟨2, 0x80, 0x9F, 0xD⟩
  else if b < 0xF0 then some ⟨2, 0x80, 0xBF, b.toNat - 0xE0⟩
  else if b = 0xF0 then some ⟨3, 0x90, 0xBF, 0⟩
  else if b < 0xF4 then some ⟨3, 0x80, 0xBF, b.toNat - 0xF0⟩
  else if b = 0xF4 then some ⟨3, 0x80, 0x8F, 4⟩
  else none

/-- Reads the continuation bytes of a sequence, six bits each; stops in front of the first byte
that is out of range. -/
def continuation : Nat → UInt8 → UInt8 → Nat → Bytes → Option Nat × Bytes
  | 0, _, _, bits, rest => (some bits, rest)
  | _ + 1, _, _, _, [] => (none, [])
  | n + 1, low, high, bits, b :: rest =>
    if low ≤ b ∧ b ≤ high then continuation n 0x80 0xBF (bits * 64 + (b.toNat - 0x80)) rest
    else (none, b :: rest)

/-- **Reading continuation bytes adds no bytes.** -/
theorem length_continuation_le (n : Nat) (low high : UInt8) (bits : Nat) (bs : Bytes) :
    (continuation n low high bits bs).2.length ≤ bs.length := by
  induction n generalizing low high bits bs with
  | zero => simp [continuation]
  | succ n ih =>
    cases bs with
    | nil => simp [continuation]
    | cons b bs =>
      unfold continuation
      split
      · exact Nat.le_succ_of_le (ih _ _ _ _)
      · exact Nat.le_refl _

/-- **The characters of a run of bytes**, `none` for each maximal subpart that is no character. -/
def scan : Bytes → List (Option Char)
  | [] => []
  | b :: bs =>
    if b < 0x80 then some (Char.ofNat b.toNat) :: scan bs
    else match lead? b with
      | none => none :: scan bs
      | some l =>
        let found := continuation l.tail l.low l.high l.bits bs
        found.1.map Char.ofNat :: scan found.2
termination_by bs => bs.length
decreasing_by
  · simp
  · simp
  · exact Nat.lt_succ_of_le (length_continuation_le ..)

/-- The text of a run of bytes, U+FFFD for each maximal subpart that is no character. -/
def lossy (bs : Bytes) : String := String.ofList ((scan bs).map (·.getD '\uFFFD'))

/-- The text of a run of bytes, if it is well-formed throughout. -/
def decode? (bs : Bytes) : Option String := ((scan bs).mapM id).map String.ofList

end Utf8
end Inotify
