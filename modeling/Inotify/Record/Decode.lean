/- # Reading records back

A read fills the front of a buffer and says how many bytes it put there. A *cursor* walks those valid
bytes: each step takes one record off the front. It stops for good at the end of the valid bytes, or
after reporting the one fault that ended the walk early:

| fault | when |
| --- | --- |
| `overclaimed` | the read claims more bytes than the buffer has |
| `shortHeader` | fewer than sixteen valid bytes are left, but some |
| `shortRegion` | the declared name region is longer than what is left |

The lengths come from outside and are trusted for nothing: a step looks only at valid bytes.
-/

import Inotify.Record

namespace Inotify

/-- Why a buffer is not a sequence of whole records. -/
inductive DecodeFault where
  /-- The read claims `valid` bytes but the buffer has `capacity`. -/
  | overclaimed (valid capacity : Nat)
  /-- Only `remaining` bytes are left at `offset`, too few for a header. -/
  | shortHeader (offset remaining : Nat)
  /-- The record at `offset` declares a region of `length` bytes, but only `remaining` bytes follow
  its header. -/
  | shortRegion (offset length remaining : Nat)
deriving DecidableEq, Repr

namespace DecodeFault

/-- The wording of a decode fault. -/
def message : DecodeFault → String
  | overclaimed valid capacity =>
    "read returned " ++ Numeral.decimal valid ++ " bytes but the buffer holds only "
      ++ Numeral.decimal capacity
  | shortHeader offset remaining =>
    "truncated record header at offset " ++ Numeral.decimal offset ++ ": "
      ++ Numeral.decimal remaining ++ " bytes left, need " ++ Numeral.decimal Record.headerSize
  | shortRegion offset length remaining =>
    "record at offset " ++ Numeral.decimal offset ++ " declares a " ++ Numeral.decimal length
      ++ "-byte name but only " ++ Numeral.decimal remaining ++ " bytes follow its header"

end DecodeFault

namespace Record

/-- The name stored in a region: nothing if the region is empty, else its bytes before the first
NUL. -/
def nameOfRegion (region : Bytes) : Option Bytes :=
  if region.isEmpty then none else some (region.takeWhile (· ≠ 0))

end Record

/-- A position in the valid bytes of a buffer. -/
structure Cursor where
  /-- The size of the buffer. -/
  capacity : Nat
  /-- How many bytes of it the read claims to have filled. -/
  valid : Nat
  /-- Where the next record begins. -/
  offset : Nat
  /-- The valid bytes from `offset` on. -/
  rest : Bytes
  /-- Whether a fault has been reported. -/
  failed : Bool
deriving DecidableEq, Repr

namespace Cursor

/-- The start of the first `valid` bytes of a buffer. -/
def start (buffer : Bytes) (valid : Nat) : Cursor :=
  ⟨buffer.length, valid, 0, buffer.take valid, false⟩

/-- **Takes one record off the front.** The cursor after it begins right behind its name region. -/
def advance (c : Cursor) : Except DecodeFault (Record × Cursor) :=
  if c.capacity < c.valid then .error (.overclaimed c.valid c.capacity)
  else match c.rest with
    | w₀ :: w₁ :: w₂ :: w₃ :: m₀ :: m₁ :: m₂ :: m₃ :: k₀ :: k₁ :: k₂ :: k₃
        :: n₀ :: n₁ :: n₂ :: n₃ :: body =>
      let length := (Word.ofBytes n₀ n₁ n₂ n₃).toNat
      let region := body.take length
      if region.length < length then .error (.shortRegion c.offset length body.length)
      else .ok
        ({ watch := ⟨(Word.ofBytes w₀ w₁ w₂ w₃).toInt32⟩
           mask := ⟨Word.ofBytes m₀ m₁ m₂ m₃⟩
           cookie := Word.ofBytes k₀ k₁ k₂ k₃
           name := Record.nameOfRegion region },
         { c with
           offset := c.offset + (Record.headerSize + length)
           rest := body.drop length })
    | short => .error (.shortHeader c.offset short.length)

/-- **A step takes a header at least.** -/
theorem length_rest_of_advance {c c' : Cursor} {r : Record} (h : c.advance = .ok (r, c')) :
    c'.rest.length + Record.headerSize ≤ c.rest.length := by
  unfold advance at h
  split at h
  · simp at h
  · split at h
    · next hrest =>
      dsimp only at h
      split at h
      · simp at h
      · simp only [Except.ok.injEq, Prod.mk.injEq] at h
        obtain ⟨-, rfl⟩ := h
        simp [hrest, Record.headerSize]
    · simp at h

/-- **The next item, and the cursor after it.** At the end, and after a fault, there is none, and the
cursor stays as it is. -/
def next (c : Cursor) : Option (Except DecodeFault Record) × Cursor :=
  if c.failed ∨ c.valid ≤ c.offset then (none, c)
  else match c.advance with
    | .ok (r, c') => (some (.ok r), c')
    | .error e => (some (.error e), { c with failed := true })

/-- The results of asking `n` times for the next item. -/
def nexts : Nat → Cursor → List (Option (Except DecodeFault Record))
  | 0, _ => []
  | n + 1, c => c.next.1 :: nexts n c.next.2

/-- **All items from a cursor on**: records, then at most one fault. -/
def items (c : Cursor) : List (Except DecodeFault Record) :=
  if c.failed ∨ c.valid ≤ c.offset then []
  else match h : c.advance with
    | .ok (r, c') =>
      have : c'.rest.length + 16 ≤ c.rest.length := length_rest_of_advance h
      .ok r :: items c'
    | .error e => [.error e]
termination_by c.rest.length

end Cursor

/-- The items in the first `valid` bytes of a buffer: records, then at most one fault. -/
def events (buffer : Bytes) (valid : Nat) : List (Except DecodeFault Record) :=
  (Cursor.start buffer valid).items

/-- The records in the first `valid` bytes of a buffer, or the fault that ends them. -/
def decode (buffer : Bytes) (valid : Nat) : Except DecodeFault (List Record) :=
  (events buffer valid).mapM id

end Inotify
