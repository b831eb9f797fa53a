/- # Event records and their layout

A record is one event: the watch that reported it, the kinds of the event, a cookie that ties the two
halves of a move together, and the name of the entry concerned, if the event is about an entry of a
watched directory.

On the wire a record is a header of four words and a *name region*:

| offset | bytes | holds |
| ---: | ---: | --- |
| 0 | 4 | number of the watch, signed |
| 4 | 4 | mask |
| 8 | 4 | cookie |
| 12 | 4 | length `n` of the name region |
| 16 | `n` | name, NUL bytes up to the end of the region |

Records are stored back to back. A record without a name has an empty region; a name is stored either
bare, its region as long as itself, or with at least one NUL and the region rounded up to a multiple
of an alignment.
-/

import Inotify.Mask
import Inotify.Word

namespace Inotify

/-- The number of a watch. -/
structure Watch where
  /-- The number itself. -/
  number : Int32
deriving DecidableEq, Repr

namespace Watch

/-- The number of a watch in hexadecimal. -/
def hex (w : Watch) : String := Numeral.hexWord w.number

/-- The diagnostic text of a watch. -/
def describe (w : Watch) : String := "WatchId(" ++ Numeral.signed w.number.toInt ++ ")"

end Watch

/-- One event. -/
structure Record where
  /-- The watch that reported the event. -/
  watch : Watch
  /-- The kinds of the event. -/
  mask : Mask
  /-- Ties the two halves of a move together; zero when unused. -/
  cookie : UInt32
  /-- The name of the entry inside a watched directory. -/
  name : Option Bytes
deriving DecidableEq, Repr

/-- How the name of a record is stored. -/
inductive Layout where
  /-- The region is the name and nothing more. -/
  | bare
  /-- The region holds the name and a NUL and is rounded up to a multiple of `align`; an alignment
  of zero counts as one. -/
  | padded (align : Nat)
deriving DecidableEq, Repr

namespace Record

/-- The size of the header. -/
def headerSize : Nat := 16

/-- The length of the longest name. -/
def longestName : Nat := 255

/-- The size of the largest record: the header, the longest name and its NUL. -/
def maxSize : Nat := headerSize + longestName + 1

/-- `n` rounded up to a multiple of `step`. -/
def roundUp (n step : Nat) : Nat := (n + (step - 1)) / step * step

/-- **Rounding up loses nothing.** -/
theorem le_roundUp (n : Nat) {step : Nat} (h : 0 < step) : n ≤ roundUp n step := by
  unfold roundUp
  have := Nat.div_add_mod (n + (step - 1)) step
  have := Nat.mod_lt (n + (step - 1)) h
  rw [Nat.mul_comm]
  omega

/-- **Rounding up adds less than a step.** -/
theorem roundUp_lt (n : Nat) {step : Nat} (h : 0 < step) : roundUp n step < n + step := by
  unfold roundUp
  have := Nat.div_mul_le_self (n + (step - 1)) step
  omega

/-- The length of the name region that a layout gives a name. -/
def regionSize : Layout → Option Bytes → Nat
  | _, none => 0
  | .bare, some name => name.length
  | .padded align, some name => roundUp (name.length + 1) (max align 1)

/-- **A region has room for its name.** -/
theorem length_le_regionSize (layout : Layout) (name : Bytes) :
    name.length ≤ regionSize layout (some name) := by
  cases layout with
  | bare => exact Nat.le_refl _
  | padded align =>
    exact Nat.le_trans (Nat.le_succ _) (le_roundUp _ (Nat.lt_of_lt_of_le Nat.one_pos (Nat.le_max_right _ _)))

/-- The name region: the name, then NUL bytes up to the length that the layout gives it. -/
def region (layout : Layout) (name : Option Bytes) : Bytes :=
  let stored := name.getD []
  stored ++ List.replicate (regionSize layout name - stored.length) 0

/-- **The region has the length that the layout gives it.** -/
@[simp] theorem length_region (layout : Layout) (name : Option Bytes) :
    (region layout name).length = regionSize layout name := by
  cases name with
  | none => simp [region, regionSize]
  | some name =>
    have := length_le_regionSize layout name
    simp [region]
    omega

/-- The header of a record whose name region has the given length. -/
def header (r : Record) (length : Nat) : Bytes :=
  Word.bytes r.watch.number.toUInt32 ++ Word.bytes r.mask.bits ++ Word.bytes r.cookie
    ++ Word.bytes (UInt32.ofNat length)

/-- **A header has sixteen bytes.** -/
@[simp] theorem length_header (r : Record) (length : Nat) :
    (r.header length).length = headerSize := rfl

/-- **The bytes of a record** in a layout: header, then name region. -/
def encode (r : Record) (layout : Layout) : Bytes :=
  r.header (regionSize layout r.name) ++ region layout r.name

/-- The layout that the kernel uses: regions are multiples of the header's size. -/
def kernelLayout : Layout := .padded headerSize

/-- The bytes of records back to back, each in a layout of its own. -/
def encodeList (rs : List (Record × Layout)) : Bytes := rs.flatMap fun (r, layout) => r.encode layout

/-- The bytes `out` with records appended one after another, each in a layout of its own. -/
def encodeOnto (out : Bytes) (rs : List (Record × Layout)) : Bytes :=
  rs.foldl (fun out (r, layout) => out ++ r.encode layout) out

/-- **Appending records one after another appends their bytes.** -/
theorem encodeOnto_eq (out : Bytes) (rs : List (Record × Layout)) :
    encodeOnto out rs = out ++ encodeList rs := by
  induction rs generalizing out with
  | nil => exact (List.append_nil out).symm
  | cons p rs ih =>
    rw [encodeOnto, List.foldl_cons, encodeList, List.flatMap_cons, ← List.append_assoc]
    exact ih (out ++ p.1.encode p.2)

/-- **A record takes its header and its region.** -/
@[simp] theorem length_encode (r : Record) (layout : Layout) :
    (r.encode layout).length = headerSize + regionSize layout r.name := by
  simp [encode]

end Record
end Inotify
