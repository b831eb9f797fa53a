/- # Text lines

A text line can be read back. It is a run of fields: the number of the watch, the cookie if it is not zero,
the kinds, and the name if there is one.

| field | begins with | written as |
| --- | --- | --- |
| watch | `Inotify event: wd = 0x` | hexadecimal digits |
| cookie | `; cookie = 0x` | hexadecimal digits |
| kinds | `; mask = ` | names with blanks between them |
| name | `; name = ` | any bytes, up to the end |

Only a name can hold a semicolon, and it is the last field, so each of the others ends with the first
semicolon (`TextLine.field_append`) and a name cannot be taken for another field, whatever is in it. As
numerals and names of kinds read as what they were written for, the line of an event reads as the event, save
for the undeclared bits of its mask (`TextLine.read?_textLine`), and says nothing of these
(`Record.textLine_truncate`).
-/

import Inotify.Line
import Inotify.Proofs.Record.Kinds
import Inotify.Proofs.Text.Numeral
import Inotify.Proofs.Text.Utf8

namespace Inotify

namespace TextLine

/-! ## A reader of text lines -/

/-- The byte that every field but the first begins with. -/
def semicolon : UInt8 := 0x3b

/-- What stands behind a text, if the line begins with it. -/
def behind? (text : String) (line : Bytes) : Option Bytes :=
  if Utf8.encode text <+: line then some (line.drop (Utf8.encode text).length) else none

/-- The bytes up to the next semicolon, and the bytes from it on. -/
def field (line : Bytes) : Bytes × Bytes :=
  (line.takeWhile (· ≠ semicolon), line.dropWhile (· ≠ semicolon))

/-- The number that a field writes in hexadecimal. -/
def number? (bytes : Bytes) : Option UInt32 :=
  (Utf8.decode? bytes).map fun s => UInt32.ofNat (Toml.numberOf 16 s.toList)

/-- The mask of the kinds that a field names. -/
def mask? (bytes : Bytes) : Option Mask :=
  (Utf8.decode? bytes).map fun s => Mask.ofNames ((s.toList.splitOn ' ').map String.ofList)

/-- The cookie, which may be missing, and what is left of the line. -/
def cookie? (line : Bytes) : Option (UInt32 × Bytes) :=
  match behind? "; cookie = 0x" line with
  | none => some (0, line)
  | some rest => (number? (field rest).1).map (·, (field rest).2)

/-- **The event of a text line.** -/
def read? (line : Bytes) : Option Record := do
  let rest ← behind? "Inotify event: wd = 0x" line
  let number ← number? (field rest).1
  let (cookie, rest) ← cookie? (field rest).2
  let rest ← behind? "; mask = " rest
  let mask ← mask? (field rest).1
  some ⟨⟨number.toInt32⟩, mask, cookie, behind? "; name = " (field rest).2⟩

/-! ## What it reads -/

variable {bytes rest : Bytes}

/-- **Behind a text stands what was put there.** -/
theorem behind?_append (text : String) : behind? text (Utf8.encode text ++ rest) = some rest := by
  simp [behind?]

/-- **No semicolon**, no end of a field. -/
theorem field_append (hbytes : semicolon ∉ bytes) (hrest : ∀ b ∈ rest.head?, b = semicolon) :
    field (bytes ++ rest) = (bytes, rest) := by
  have hrun : ∀ b ∈ bytes, decide (b ≠ semicolon) = true := by
    intro b hb
    refine decide_eq_true ?_
    rintro rfl
    exact hbytes hb
  have hstop : ∀ b ∈ rest.head?, decide (b ≠ semicolon) = false := by
    intro b hb
    simp [hrest b hb]
  obtain ⟨htake, hdrop⟩ := cut_append hrun hstop
  rw [field, htake, hdrop]

/-- A letter, a digit or the underscore. -/
def isWord (c : Char) : Bool := c.isAlphanum || c = '_'

/-- **A hexadecimal numeral is a word.** -/
theorem isWord_hex {n : Nat} {c : Char} (h : c ∈ (Numeral.hex n).toList) : isWord c = true := by
  rw [Numeral.hex, String.toList_ofList] at h
  obtain ⟨d, hd, rfl⟩ := Numeral.exists_of_mem_toDigits (by decide) h
  have hall : ∀ d < 16, isWord (Nat.digitChar d) = true := by decide
  exact hall d hd

/-- **The name of a kind is a word.** -/
theorem isWord_name (k : Kind) : ∀ c ∈ k.name.toList, isWord c = true := by
  have hall : k.name.toList.all isWord = true := by cases k <;> decide
  exact List.all_eq_true.1 hall

/-- **The names of the kinds are words with blanks between them.** -/
theorem isWord_names {m : Mask} {c : Char} (h : c ∈ (" ".intercalate m.names).toList) :
    c = ' ' ∨ isWord c = true := by
  have hall : ∀ names : List String, (∀ name ∈ names, ∀ c ∈ name.toList, isWord c = true) →
      c ∈ (" ".intercalate names).toList → c = ' ' ∨ isWord c = true := by
    intro names hnames hc
    induction names with
    | nil => simp at hc
    | cons name names ih =>
      obtain ⟨hname, hmore⟩ := List.forall_mem_cons.1 hnames
      by_cases hnil : names = []
      · rw [hnil, String.intercalate_singleton] at hc
        exact .inr (hname c hc)
      · rw [String.intercalate_cons_of_ne_nil hnil, String.toList_append, String.toList_append,
          List.mem_append, List.mem_append] at hc
        rcases hc with (hfirst | hblank) | hrest
        · exact .inr (hname c hfirst)
        · exact .inl (by simpa using hblank)
        · exact ih hmore hrest
  refine hall m.names (fun name hname => ?_) h
  obtain ⟨k, -, rfl⟩ := List.mem_map.1 hname
  exact isWord_name k

/-- **A text without a semicolon** has none among its bytes. -/
theorem semicolon_notMem {s : String} (h : ';' ∉ s.toList) : semicolon ∉ Utf8.encode s := by
  rw [Utf8.mem_encode_iff (c := ';') (by decide) rfl]
  exact h

/-- **A hexadecimal numeral holds no semicolon.** -/
theorem semicolon_notMem_hex (n : Nat) : semicolon ∉ Utf8.encode (Numeral.hex n) :=
  semicolon_notMem fun h => absurd (isWord_hex h) (by decide)

/-- **The names of the kinds hold no semicolon.** -/
theorem semicolon_notMem_names (m : Mask) : semicolon ∉ Utf8.encode (" ".intercalate m.names) :=
  semicolon_notMem fun h => absurd (isWord_names h) (by decide)

/-- **A hexadecimal numeral reads as its number.** -/
theorem number?_hex (n : UInt32) : number? (Utf8.encode (Numeral.hex n.toNat)) = some n := by
  rw [number?, Utf8.decode?_encode, Option.map_some, Numeral.hex, String.toList_ofList,
    Numeral.numberOf_toDigits (by decide) (by decide), UInt32.ofNat_toNat]

/-- **The words between the blanks are the names of the kinds**, if there are any. -/
theorem splitOn_names {m : Mask} (h : m.names ≠ []) :
    ((" ".intercalate m.names).toList.splitOn ' ').map String.ofList = m.names := by
  have hblank : ∀ name ∈ m.names.map String.toList, ' ' ∉ name := by
    intro name hname
    obtain ⟨_, hmem, rfl⟩ := List.mem_map.1 hname
    obtain ⟨k, -, rfl⟩ := List.mem_map.1 hmem
    exact fun hc => absurd (isWord_name k _ hc) (by decide)
  rw [String.toList_intercalate, show " ".toList = [' '] from rfl,
    List.splitOn_intercalate ' ' hblank (by simpa using h)]
  simp

/-- **The names of the kinds read as the declared bits.** -/
theorem mask?_names (m : Mask) : mask? (Utf8.encode (" ".intercalate m.names)) = some m.truncate := by
  rw [mask?, Utf8.decode?_encode, Option.map_some, ← m.ofNames_names]
  by_cases hnone : m.names = []
  · -- No names at all read as one empty name, which is the name of no kind.
    rw [hnone]
    decide
  · rw [splitOn_names hnone]

/-- **A line that goes on with a text of another field** does not go on with this one. -/
theorem behind?_cookie_mask : behind? "; cookie = 0x" (Utf8.encode "; mask = " ++ rest) = none := by
  refine if_neg ?_
  rintro ⟨more, hmore⟩
  have hthree := congrArg (List.take 3) hmore
  rw [List.take_append_of_le_length (by decide), List.take_append_of_le_length (by decide)] at hthree
  exact absurd hthree (by decide)

/-! ## Reading a line back -/

variable (r : Record)

/-- The name of an event as the end of its line. -/
def nameOnward : Bytes :=
  match r.name with
  | none => []
  | some name => Utf8.encode "; name = " ++ name

/-- The line of an event from its kinds on. -/
def kindsOnward : Bytes :=
  Utf8.encode "; mask = " ++ (Utf8.encode (" ".intercalate r.mask.names) ++ nameOnward r)

/-- The line of an event from its cookie on. -/
def cookieOnward : Bytes :=
  if r.cookie = 0 then kindsOnward r
  else Utf8.encode "; cookie = 0x" ++ (Utf8.encode (Numeral.hex r.cookie.toNat) ++ kindsOnward r)

/-- **A text line is its watch and what follows.** -/
theorem textLine_eq :
    r.textLine = Utf8.encode "Inotify event: wd = 0x" ++ (Utf8.encode r.watch.hex ++ cookieOnward r) := by
  rw [Record.textLine, cookieOnward, kindsOnward]
  by_cases hzero : r.cookie = 0
  · simp only [hzero, if_true, Utf8.encode_append, List.append_assoc, List.nil_append]
    rfl
  · simp only [hzero, if_false, Utf8.encode_append, List.append_assoc]
    rfl

/-- **The name reads as the name.** -/
theorem behind?_nameOnward : behind? "; name = " (nameOnward r) = r.name := by
  rw [nameOnward]
  rcases r.name with _ | name
  · decide
  · exact behind?_append _

/-- **The kinds end with the line or at a semicolon.** -/
theorem field_nameOnward :
    field (Utf8.encode (" ".intercalate r.mask.names) ++ nameOnward r) =
      (Utf8.encode (" ".intercalate r.mask.names), nameOnward r) := by
  refine field_append (semicolon_notMem_names r.mask) fun b hb => ?_
  rcases hname : r.name with _ | name
  · rw [nameOnward, hname] at hb
    cases hb
  · rw [nameOnward, hname] at hb
    exact (Option.some.inj hb).symm

/-- **A field in front of the kinds ends at a semicolon.** -/
theorem field_kindsOnward (h : semicolon ∉ bytes) :
    field (bytes ++ kindsOnward r) = (bytes, kindsOnward r) :=
  field_append h fun _ hb => (Option.some.inj hb).symm

/-- **The cookie reads as the cookie**, also if it is left out. -/
theorem cookie?_cookieOnward : cookie? (cookieOnward r) = some (r.cookie, kindsOnward r) := by
  rw [cookieOnward, cookie?]
  by_cases hzero : r.cookie = 0
  · rw [if_pos hzero, kindsOnward, behind?_cookie_mask, hzero]
  · rw [if_neg hzero, behind?_append]
    dsimp only
    rw [field_kindsOnward r (semicolon_notMem_hex _), number?_hex]
    rfl

/-- **The watch ends at a semicolon**, whether there is a cookie or not. -/
theorem field_cookieOnward : field (Utf8.encode r.watch.hex ++ cookieOnward r) =
    (Utf8.encode r.watch.hex, cookieOnward r) := by
  have hhex : semicolon ∉ Utf8.encode r.watch.hex := semicolon_notMem_hex _
  rw [cookieOnward]
  split
  · exact field_kindsOnward r hhex
  · exact field_append hhex fun _ hb => (Option.some.inj hb).symm

/-- **The line of an event reads as the event**, save for the undeclared bits of its mask. -/
theorem read?_textLine : read? r.textLine = some { r with mask := r.mask.truncate } := by
  have hnumber : number? (Utf8.encode r.watch.hex) = some r.watch.number.toUInt32 := number?_hex _
  -- Field by field from the front; what is left after each is the line from the next field on.
  rw [textLine_eq, read?, behind?_append]
  simp only [Option.bind_eq_bind, Option.bind_some]
  rw [field_cookieOnward, hnumber]
  simp only [Option.bind_some]
  rw [cookie?_cookieOnward]
  simp only [Option.bind_some]
  rw [kindsOnward, behind?_append]
  simp only [Option.bind_some]
  rw [field_nameOnward, mask?_names]
  simp only [Option.bind_some]
  rw [behind?_nameOnward, Int32.toInt32_toUInt32]

end TextLine

namespace Record

/-- **A text line says nothing of undeclared bits.** -/
theorem textLine_truncate (r : Record) : { r with mask := r.mask.truncate }.textLine = r.textLine := by
  simp only [textLine, Mask.names_truncate]

/-- **The text line identifies the event.** Two events have the same line exactly if they have the same watch,
the same cookie, the same declared bits in their masks and the same name; an event without a name and one with
the empty name have different lines. -/
theorem textLine_eq_iff (a b : Record) :
    a.textLine = b.textLine ↔
      a.watch = b.watch ∧ a.cookie = b.cookie ∧ a.mask.truncate = b.mask.truncate ∧ a.name = b.name := by
  constructor
  · intro h
    have hread := TextLine.read?_textLine a
    rw [h, TextLine.read?_textLine b] at hread
    obtain ⟨hwatch, hmask, hcookie, hname⟩ := Record.mk.inj (Option.some.inj hread)
    exact ⟨hwatch.symm, hcookie.symm, hmask.symm, hname.symm⟩
  · rintro ⟨hwatch, hcookie, hmask, hname⟩
    rw [← a.textLine_truncate, ← b.textLine_truncate, hwatch, hcookie, hmask, hname]

end Record
end Inotify
