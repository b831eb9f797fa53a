/- # Header words

A record begins with four 32-bit words, each stored as four bytes with the lowest first. Writing and
reading a word undo each other.
-/

import Inotify.Text.Utf8

namespace Inotify
namespace Word

/-- The four bytes of a word, lowest first. -/
def bytes (w : UInt32) : Bytes :=
  [UInt8.ofNat w.toNat, UInt8.ofNat (w.toNat / 0x100), UInt8.ofNat (w.toNat / 0x10000),
   UInt8.ofNat (w.toNat / 0x1000000)]

/-- The word of four bytes, lowest first. -/
def ofBytes (a b c d : UInt8) : UInt32 :=
  UInt32.ofNat (a.toNat + 0x100 * b.toNat + 0x10000 * c.toNat + 0x1000000 * d.toNat)

/-- **A word has four bytes.** -/
@[simp] theorem length_bytes (w : UInt32) : (bytes w).length = 4 := rfl

/-- **The number of a word is read off its bytes.** -/
theorem toNat_ofBytes (a b c d : UInt8) :
    (ofBytes a b c d).toNat =
      a.toNat + 0x100 * b.toNat + 0x10000 * c.toNat + 0x1000000 * d.toNat := by
  have := a.toNat_lt; have := b.toNat_lt; have := c.toNat_lt; have := d.toNat_lt
  simp only [ofBytes, UInt32.toNat_ofNat']
  omega

/-- **Reading the bytes of a word gives the word back.** -/
theorem ofBytes_bytes (w : UInt32) :
    ofBytes (UInt8.ofNat w.toNat) (UInt8.ofNat (w.toNat / 0x100)) (UInt8.ofNat (w.toNat / 0x10000))
      (UInt8.ofNat (w.toNat / 0x1000000)) = w := by
  have := w.toNat_lt
  apply UInt32.toNat_inj.1
  simp only [toNat_ofBytes, UInt8.toNat_ofNat']
  omega

/-- **Writing the word of four bytes gives the bytes back.** -/
theorem bytes_ofBytes (a b c d : UInt8) : bytes (ofBytes a b c d) = [a, b, c, d] := by
  have ha := a.toNat_lt; have hb := b.toNat_lt; have hc := c.toNat_lt; have hd := d.toNat_lt
  simp only [bytes, toNat_ofBytes, List.cons.injEq, and_true]
  refine ⟨?_, ?_, ?_, ?_⟩ <;> apply UInt8.toNat_inj.1 <;> simp only [UInt8.toNat_ofNat'] <;> omega

end Word
end Inotify
