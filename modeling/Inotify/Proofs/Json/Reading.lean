/- # Reading JSON back

A reader of JSON texts (RFC 8259) for the values that there are: `null`, numbers without fraction and
exponent, strings, arrays and objects. It is stricter than the texts written here need. Blanks may stand
around every token, a string may hold any escape and a character beyond U+FFFF as two numbered ones; a control
character in a string, a leading zero, a comma too many and anything behind the value are refused.

The reader undoes the writer (`read?_chars`), so a text is the text of one value. The proof follows the value.
Each part is read whatever stands behind it, a number if that is no digit: an escape (`unit_escape`), a
string (`string_escaped`), a number (`number_signed`), a sequence between commas if its items are read
(`enclosed_sequence`), and so a value if the values in it are (`value_chars`).
-/

import Inotify.Json
import Inotify.Toml.Text
import Inotify.Proofs.Text.Numeral

namespace Inotify
namespace Json

open Toml (Reader)

namespace Read

/-- Whether a character is blank. -/
def isBlank (c : Char) : Bool := c = ' ' || c = '\t' || c = '\n' || c = '\r'

/-- Takes blanks off the front. -/
def skip (cs : List Char) : List Char := cs.dropWhile isBlank

/-- Takes a character off the front, and blanks in front of it. -/
def mark (c : Char) : Reader Unit := fun cs =>
  match skip cs with
  | d :: rest => if d = c then some ((), rest) else none
  | [] => none

/-- The number that four hexadecimal digits write. -/
def fourDigits : Reader Nat
  | a :: b :: c :: d :: rest =>
    if [a, b, c, d].all fun x => (Toml.hexValue? x).isSome then
      some (Toml.numberOf 16 [a, b, c, d], rest)
    else none
  | _ => none

/-- The character of a numbered escape, behind `u`. A number of the first half of a pair has that of the
second half behind it, in an escape of its own. -/
def numbered : Reader Char := fun cs => do
  let (n, rest) ← fourDigits cs
  if n.isValidChar then some (Char.ofNat n, rest)
  else
    match rest with
    | '\\' :: 'u' :: rest =>
      let (m, rest) ← fourDigits rest
      if n < 0xDC00 ∧ 0xDC00 ≤ m ∧ m < 0xE000 then
        some (Char.ofNat (0x10000 + (n - 0xD800) * 0x400 + (m - 0xDC00)), rest)
      else none
    | _ => none

/-- The character that a letter behind a backslash stands for. -/
def letter? (c : Char) : Option Char :=
  if c = '"' ∨ c = '\\' ∨ c = '/' then some c
  else if c = 'b' then some '\x08'
  else if c = 'f' then some '\x0c'
  else if c = 'n' then some '\n'
  else if c = 'r' then some '\r'
  else if c = 't' then some '\t'
  else none

/-- One character of a string: itself or an escape. -/
def unit : Reader Char
  | '\\' :: 'u' :: rest => numbered rest
  | '\\' :: c :: rest => (letter? c).map (·, rest)
  | c :: rest => if c ≠ '"' ∧ c ≠ '\\' ∧ 0x20 ≤ c.toNat then some (c, rest) else none
  | [] => none

/-- The end of a string. -/
def quote : Reader Unit
  | '"' :: rest => some ((), rest)
  | _ => none

/-- A string, behind its opening quote. -/
def string : Reader String := fun cs =>
  (Reader.upTo quote unit.strict (Reader.takes_strict unit) cs).map fun ((s, _), rest) =>
    (String.ofList s, rest)

/-- A natural number without a leading zero. -/
def natural : Reader Nat := fun cs =>
  match cs.takeWhile Char.isDigit with
  | [] => none
  | '0' :: _ :: _ => none
  | digits => some (Toml.numberOf 10 digits, cs.dropWhile Char.isDigit)

/-- An integer. -/
def number : Reader Int
  | '-' :: rest => (natural rest).map fun (n, rest) => (-n, rest)
  | cs => (natural cs).map fun (n, rest) => (n, rest)

section
variable {α : Type}

/-- An item with a comma in front. -/
def behindComma (item : Reader α) : Reader α := fun cs =>
  (mark ',' cs).bind fun (_, rest) => item rest

/-- Items with commas between them, up to a character that closes them. -/
def enclosed (close : Char) (item : Reader α) : Reader (List α) := fun cs =>
  match mark close cs with
  | some (_, rest) => some ([], rest)
  | none => do
    let (a, rest) ← item cs
    let ((as, _), rest) ←
      Reader.upTo (mark close) (behindComma item).strict (Reader.takes_strict (behindComma item)) rest
    some (a :: as, rest)

end

/-- A member of an object. -/
def member (value : Reader Json) : Reader (String × Json) := fun cs => do
  let (_, rest) ← mark '"' cs
  let (key, rest) ← string rest
  let (_, rest) ← mark ':' rest
  let (v, rest) ← value rest
  some ((key, v), rest)

/-- A value with arrays and objects nested less than so deep. -/
def value : Nat → Reader Json
  | 0, _ => none
  | depth + 1, cs =>
    match skip cs with
    | 'n' :: 'u' :: 'l' :: 'l' :: rest => some (.null, rest)
    | '"' :: rest => (string rest).map fun (s, rest) => (.text s, rest)
    | '[' :: rest => (enclosed ']' (value depth) rest).map fun (items, rest) => (.list items, rest)
    | '\x7b' :: rest =>
      (enclosed '\x7d' (member (value depth)) rest).map fun (members, rest) => (.object members, rest)
    | cs => (number cs).map fun (n, rest) => (.integer n, rest)

end Read

/-- **The value of a JSON text.** A text of a length has no value nested deeper. -/
def read? (cs : List Char) : Option Json :=
  match Read.value cs.length cs with
  | some (v, rest) => if Read.skip rest = [] then some v else none
  | none => none

/-- **Induction on values**: a list has what its items have, an object what the values in it have. -/
@[elab_as_elim]
theorem induct {P : Json → Prop} (null : P null) (integer : ∀ n, P (integer n)) (text : ∀ s, P (text s))
    (list : ∀ items, (∀ v ∈ items, P v) → P (list items))
    (object : ∀ members, (∀ m ∈ members, P m.2) → P (object members)) (v : Json) : P v :=
  @Json.rec P (fun items => ∀ v ∈ items, P v) (fun members => ∀ m ∈ members, P m.2) (fun m => P m.2)
    null integer text list object
    (fun _ hv => by cases hv) (fun _ _ h hs => List.forall_mem_cons.2 ⟨h, hs⟩)
    (fun _ hm => by cases hm) (fun _ _ h hs => List.forall_mem_cons.2 ⟨h, hs⟩)
    (fun _ _ h => h) v

/-! ## What the parts of a text are read as -/

namespace Read

variable {c close : Char} {cs rest : List Char} {α : Type}

/-- **Units are read one after the other**, if each is read in front of the others and none of them is the
end. -/
theorem upTo_flatMap {β : Type} {ending : Reader β} {item : Reader α} {text : α → List Char} {as : List α}
    {last : List Char} {b : β} (hlast : ending last = some (b, rest))
    (hmore : ∀ a ∈ as, ∀ more, ending (text a ++ more) = none) (hsome : ∀ a ∈ as, text a ≠ [])
    (hread : ∀ a ∈ as, ∀ bs : List α,
      item (text a ++ (bs.flatMap text ++ last)) = some (a, bs.flatMap text ++ last)) :
    Reader.upTo ending item.strict (Reader.takes_strict item) (as.flatMap text ++ last) =
      some ((as, b), rest) := by
  induction as with
  | nil => exact Reader.upTo_of_close _ hlast
  | cons a as ih =>
    obtain ⟨hmore, hmores⟩ := List.forall_mem_cons.1 hmore
    obtain ⟨hsome, hsomes⟩ := List.forall_mem_cons.1 hsome
    obtain ⟨hread, hreads⟩ := List.forall_mem_cons.1 hread
    have hless : (as.flatMap text ++ last).length < (text a ++ (as.flatMap text ++ last)).length := by
      have hpositive := List.length_pos_iff.2 hsome
      simp only [List.length_append]
      omega
    rw [List.flatMap_cons, List.append_assoc,
      Reader.upTo_of_unit _ (hmore _) (Reader.strict_eq (hread as) hless), ih hmores hsomes hreads]
    rfl

/-- **In front of what is not blank nothing is skipped.** -/
theorem skip_cons (h : isBlank c = false) : skip (c :: rest) = c :: rest := by
  simp [skip, h]

/-- **A character stands for itself.** -/
theorem mark_self (h : isBlank c = false) : mark c (c :: rest) = some ((), rest) := by
  simp [mark, skip_cons h]

/-- **Another character does not stand for it.** -/
theorem mark_other (h : isBlank c = false) (hne : c ≠ close) : mark close (c :: rest) = none := by
  simp [mark, skip_cons h, hne]

/-- **A control character is escaped by its number.** -/
theorem numbered_control (h : c.toNat < 0x20) :
    numbered ('0' :: '0' :: Nat.digitChar (c.toNat / 16) :: Nat.digitChar (c.toNat % 16) :: rest) =
      some (c, rest) := by
  have hvalid : c.toNat.isValidChar := c.valid
  have hnumber : 16 * (c.toNat / 16) + c.toNat % 16 = c.toNat := Nat.div_add_mod _ _
  have hhigh := Numeral.hexValue?_digitChar (d := c.toNat / 16) (by omega)
  have hlow := Numeral.hexValue?_digitChar (d := c.toNat % 16) (by omega)
  have hzero : Toml.hexValue? '0' = some 0 := by decide
  have hdigits : fourDigits
      ('0' :: '0' :: Nat.digitChar (c.toNat / 16) :: Nat.digitChar (c.toNat % 16) :: rest) =
        some (c.toNat, rest) := by
    simp [fourDigits, Toml.numberOf, hhigh, hlow, hzero, hnumber]
  simp [numbered, hdigits, hvalid]

/-- **How a character is written**: by a letter that stands for it, by its number if it is a control
character, or as itself. -/
theorem escape_cases (c : Char) :
    (∃ l, escape c = ['\\', l] ∧ letter? l = some c ∧ 0x20 ≤ l.toNat) ∨
      (c.toNat < 0x20 ∧ escape c =
        ['\\', 'u', '0', '0', Nat.digitChar (c.toNat / 16), Nat.digitChar (c.toNat % 16)]) ∨
      (c ≠ '"' ∧ c ≠ '\\' ∧ 0x20 ≤ c.toNat ∧ escape c = [c]) := by
  by_cases hspecial : c = '"' ∨ c = '\\' ∨ c = '\x08' ∨ c = '\x0c' ∨ c = '\n' ∨ c = '\r' ∨ c = '\t'
  · left
    rcases hspecial with rfl | rfl | rfl | rfl | rfl | rfl | rfl <;>
      exact ⟨_, rfl, by decide, by decide⟩
  · right
    simp only [not_or] at hspecial
    obtain ⟨hquote, hslash, hb, hf, hn, hr, ht⟩ := hspecial
    by_cases hcontrol : c.toNat < 0x20
    · exact .inl ⟨hcontrol, by simp [escape, hquote, hslash, hb, hf, hn, hr, ht, hcontrol]⟩
    · exact .inr ⟨hquote, hslash, by omega, by simp [escape, hquote, hslash, hb, hf, hn, hr, ht, hcontrol]⟩

/-- **A character of a string is read back.** -/
theorem unit_escape (c : Char) (rest : List Char) : unit (escape c ++ rest) = some (c, rest) := by
  rcases escape_cases c with ⟨l, hl, hletter, -⟩ | ⟨hcontrol, hnumber⟩ | ⟨hquote, hslash, hvisible, hself⟩
  · have hu : l ≠ 'u' := by
      rintro rfl
      cases hletter
    rw [hl]
    simp [unit, hletter]
  · rw [hnumber]
    exact numbered_control hcontrol
  · rw [hself]
    simp [unit, hquote, hslash, hvisible]

/-- **A character of a string does not end it.** -/
theorem quote_escape (c : Char) (rest : List Char) : quote (escape c ++ rest) = none := by
  rcases escape_cases c with ⟨l, hl, -⟩ | ⟨-, hnumber⟩ | ⟨hquote, -, -, hself⟩
  · rw [hl]
    rfl
  · rw [hnumber]
    rfl
  · rw [hself]
    simp [quote, hquote]

/-- **No character is written as nothing.** -/
theorem escape_ne_nil (c : Char) : escape c ≠ [] := by
  rcases escape_cases c with ⟨l, hl, -⟩ | ⟨-, hnumber⟩ | ⟨-, -, -, hself⟩
  · simp [hl]
  · simp [hnumber]
  · simp [hself]

/-- **A string is read back**, behind its opening quote. -/
theorem string_escaped (s : String) (rest : List Char) :
    string (s.toList.flatMap escape ++ '"' :: rest) = some (s, rest) := by
  have hend : quote ('"' :: rest) = some ((), rest) := rfl
  rw [string, upTo_flatMap hend (fun c _ => quote_escape c) (fun c _ => escape_ne_nil c)
    fun c _ _ => unit_escape c _]
  simp

/-- What does not begin with a digit. -/
def NoDigit (cs : List Char) : Prop := ∀ d ∈ cs.head?, d.isDigit = false

/-- **A natural number is read back** in front of what is no digit. -/
theorem natural_decimal (n : Nat) (hrest : NoDigit rest) :
    natural (Nat.toDigits 10 n ++ rest) = some (n, rest) := by
  have hdigits : ∀ d ∈ Nat.toDigits 10 n, d.isDigit = true := fun d hd =>
    Nat.isDigit_of_mem_toDigits (by decide) (by decide) hd
  obtain ⟨htake, hdrop⟩ := cut_append hdigits hrest
  rw [natural, htake, hdrop]
  split
  · next h => exact absurd h Nat.toDigits_ne_nil
  · next h =>
    obtain rfl := Numeral.eq_zero_of_toDigits (by decide) (by decide) h
    cases h
  · rw [Numeral.numberOf_toDigits (by decide) (by decide)]

/-- **An integer is read back** in front of what is no digit. -/
theorem number_signed (n : Int) (hrest : NoDigit rest) :
    number ((Numeral.signed n).toList ++ rest) = some (n, rest) := by
  have hnatural := natural_decimal n.natAbs hrest
  rw [Numeral.signed]
  split
  · have hvalue : -(n.natAbs : Int) = n := by omega
    have htext : ("-" ++ Numeral.decimal n.natAbs).toList ++ rest =
        '-' :: (Nat.toDigits 10 n.natAbs ++ rest) := by
      simp [Numeral.decimal]
    rw [htext, number, hnatural, Option.map_some]
    dsimp only
    rw [hvalue]
  · have hvalue : (n.natAbs : Int) = n := by omega
    obtain ⟨d, ds, hds, hdigit⟩ := Numeral.toDigits_ten_cons n.natAbs
    have hminus : d ≠ '-' := by
      rintro rfl
      cases hdigit
    have hnumber : number (d :: (ds ++ rest)) =
        (natural (d :: (ds ++ rest))).map fun (n, rest) => (n, rest) := by
      rw [number]
      rintro cs hcs
      exact hminus (List.cons.inj hcs).1
    rw [hds, List.cons_append] at hnatural
    rw [Numeral.decimal, String.toList_ofList, hds, List.cons_append, hnumber, hnatural, ← hvalue]
    rfl

/-- A text with a comma in front. -/
def continued (text : α → List Char) (a : α) : List Char := ',' :: text a

/-- Texts with commas between them. -/
def sequence (text : α → List Char) : List α → List Char
  | [] => []
  | a :: as => text a ++ as.flatMap (continued text)

/-- **No text is longer than a sequence that it is in.** -/
theorem length_le_sequence {text : α → List Char} {a : α} {as : List α} (h : a ∈ as) :
    (text a).length ≤ (sequence text as).length := by
  rcases as with _ | ⟨b, bs⟩
  · cases h
  rw [sequence, List.length_append]
  rcases List.mem_cons.1 h with rfl | hmem
  · exact Nat.le_add_right _ _
  · have hpart : (continued text a).length ≤ (bs.flatMap (continued text)).length :=
      (List.sublist_flatten_of_mem (List.mem_map_of_mem hmem)).length_le
    rw [continued, List.length_cons] at hpart
    omega

/-- **Behind an item is a comma or the end**, and neither is a digit. -/
theorem noDigit_continued {text : α → List Char} (hdigit : close.isDigit = false) (as : List α) :
    NoDigit (as.flatMap (continued text) ++ close :: rest) := by
  intro d hd
  rcases as with _ | ⟨a, as⟩
  · obtain rfl : close = d := by simpa using hd
    exact hdigit
  · obtain rfl : ',' = d := by simpa [continued] using hd
    rfl

/-- **A sequence is read back** up to the character that closes it, if its items are. -/
theorem enclosed_sequence {item : Reader α} {text : α → List Char} {as : List α}
    (hblank : isBlank close = false) (hcomma : close ≠ ',') (hdigit : close.isDigit = false)
    (hopen : ∀ a ∈ as, ∀ more, mark close (text a ++ more) = none)
    (hitem : ∀ a ∈ as, ∀ more, NoDigit more → item (text a ++ more) = some (a, more)) :
    enclosed close item (sequence text as ++ close :: rest) = some (as, rest) := by
  rcases as with _ | ⟨a, as⟩
  · rw [enclosed, sequence, List.nil_append, mark_self hblank]
  obtain ⟨hopen, -⟩ := List.forall_mem_cons.1 hopen
  obtain ⟨hfirst, hitems⟩ := List.forall_mem_cons.1 hitem
  have hmore : Reader.upTo (mark close) (behindComma item).strict (Reader.takes_strict (behindComma item))
      (as.flatMap (continued text) ++ close :: rest) = some ((as, ()), rest) := by
    refine upTo_flatMap (mark_self hblank) (fun b _ more => ?_) (fun b _ => List.cons_ne_nil _ _)
      fun b hb bs => ?_
    · exact mark_other rfl hcomma.symm
    · rw [continued, List.cons_append, behindComma, mark_self rfl]
      exact hitems b hb _ (noDigit_continued hdigit bs)
  rw [enclosed, sequence, List.append_assoc, hopen, hfirst _ (noDigit_continued hdigit as)]
  simp only [Option.bind_eq_bind, Option.bind_some]
  rw [hmore]
  rfl

end Read

/-! ## What a whole text is read as -/

/-- The text of a member of an object. -/
def charsOfMember (m : String × Json) : List Char := quoted m.1 ++ ':' :: m.2.chars

/-- **The items of a list are a sequence.** -/
theorem charsOfItems_eq (items : List Json) : charsOfItems items = Read.sequence chars items := by
  rcases items with _ | ⟨v, vs⟩
  · rfl
  · induction vs generalizing v with
    | nil => simp [charsOfItems, Read.sequence]
    | cons w vs ih => simp [charsOfItems, ih w, Read.sequence, Read.continued]

/-- **The members of an object are a sequence.** -/
theorem charsOfMembers_eq (members : List (String × Json)) :
    charsOfMembers members = Read.sequence charsOfMember members := by
  rcases members with _ | ⟨m, ms⟩
  · rfl
  · induction ms generalizing m with
    | nil => simp [charsOfMembers, Read.sequence, charsOfMember]
    | cons m' ms ih => simp [charsOfMembers, ih m', Read.sequence, Read.continued, charsOfMember]

/-- **The text of a value begins with a character that is neither blank nor a closing bracket.** -/
theorem chars_cons (v : Json) : ∃ c cs, v.chars = c :: cs ∧ Read.isBlank c = false ∧ c ≠ ']' := by
  cases v with
  | null => exact ⟨_, _, rfl, by decide, by decide⟩
  | text s => exact ⟨_, _, by rw [chars, quoted]; rfl, by decide, by decide⟩
  | list items => exact ⟨_, _, by rw [chars]; rfl, by decide, by decide⟩
  | object members => exact ⟨_, _, by rw [chars]; rfl, by decide, by decide⟩
  | integer n =>
    obtain ⟨c, cs, hcs, hc⟩ := Numeral.signed_cons n
    refine ⟨c, cs, by rw [chars, hcs], ?_, ?_⟩
    · rcases hc with rfl | hdigit
      · rfl
      · simp only [Read.isBlank, Bool.or_eq_false_iff, decide_eq_false_iff_not]
        refine ⟨⟨⟨?_, ?_⟩, ?_⟩, ?_⟩ <;> rintro rfl <;> cases hdigit
    · rintro rfl
      rcases hc with h | h <;> cases h

/-- **A member is read back**, if its value is. -/
theorem member_chars {value : Reader Json} {m : String × Json} {rest : List Char}
    (hvalue : value (m.2.chars ++ rest) = some (m.2, rest)) :
    Read.member value (charsOfMember m ++ rest) = some (m, rest) := by
  have htext : charsOfMember m ++ rest =
      '"' :: (m.1.toList.flatMap escape ++ '"' :: ':' :: (m.2.chars ++ rest)) := by
    simp [charsOfMember, quoted]
  rw [htext, Read.member, Read.mark_self rfl]
  simp only [Option.bind_eq_bind, Option.bind_some]
  rw [Read.string_escaped, Option.bind_some, Read.mark_self rfl, Option.bind_some, hvalue]
  rfl

/-- **What begins like a number is read as one.** -/
theorem value_number {c : Char} {cs : List Char} (depth : Nat) (hc : c = '-' ∨ c.isDigit = true) :
    Read.value (depth + 1) (c :: cs) =
      (Read.number (c :: cs)).map fun (n, rest) => (.integer n, rest) := by
  have hother : ∀ d : Char, d ≠ '-' → d.isDigit = false → c ≠ d := by
    rintro d hminus hdigit rfl
    rcases hc with rfl | h
    · exact hminus rfl
    · rw [hdigit] at h
      cases h
  have hskip : Read.skip (c :: cs) = c :: cs := by
    refine Read.skip_cons ?_
    simp [Read.isBlank, hother]
  rw [Read.value, hskip]
  split
  · next h => exact absurd (List.cons.inj h).1 (hother _ (by decide) (by decide))
  · next h => exact absurd (List.cons.inj h).1 (hother _ (by decide) (by decide))
  · next h => exact absurd (List.cons.inj h).1 (hother _ (by decide) (by decide))
  · next h => exact absurd (List.cons.inj h).1 (hother _ (by decide) (by decide))
  · rfl

/-- **Behind a quote a string is read.** -/
theorem value_quote (depth : Nat) (cs : List Char) :
    Read.value (depth + 1) ('"' :: cs) = (Read.string cs).map fun (s, rest) => (.text s, rest) := rfl

/-- **Behind a bracket items are read.** -/
theorem value_bracket (depth : Nat) (cs : List Char) :
    Read.value (depth + 1) ('[' :: cs) =
      (Read.enclosed ']' (Read.value depth) cs).map fun (items, rest) => (.list items, rest) := rfl

/-- **Behind a brace members are read.** -/
theorem value_brace (depth : Nat) (cs : List Char) :
    Read.value (depth + 1) ('\x7b' :: cs) =
      (Read.enclosed '\x7d' (Read.member (Read.value depth)) cs).map
        fun (members, rest) => (.object members, rest) := rfl

/-- **No text is empty**, so a value is nested less deep than its text is long. -/
theorem exists_depth {v : Json} {depth : Nat} (h : v.chars.length ≤ depth) : ∃ d, depth = d + 1 := by
  obtain ⟨c, cs, hcs, -⟩ := v.chars_cons
  rw [hcs, List.length_cons] at h
  exact ⟨depth - 1, by omega⟩

/-- **A value is read back** in front of what is no digit. -/
theorem value_chars (v : Json) {depth : Nat} {rest : List Char} (hdepth : v.chars.length ≤ depth)
    (hrest : Read.NoDigit rest) : Read.value depth (v.chars ++ rest) = some (v, rest) := by
  obtain ⟨depth, rfl⟩ := exists_depth hdepth
  -- By induction on the value: the depth has to stay above the length of the text, and what stands behind
  -- an item is not what stands behind the list.
  induction v using induct generalizing depth rest with
  | null => rfl
  | integer n =>
    obtain ⟨d, ds, hds, hd⟩ := Numeral.signed_cons n
    have hnumber := Read.number_signed n hrest
    rw [hds, List.cons_append] at hnumber
    rw [chars, hds, List.cons_append, value_number depth hd, hnumber]
    rfl
  | text s =>
    have htext : (text s).chars ++ rest = '"' :: (s.toList.flatMap escape ++ '"' :: rest) := by
      simp [chars, quoted]
    rw [htext, value_quote, Read.string_escaped]
    rfl
  | list items ih =>
    have htext : (list items).chars ++ rest = '[' :: (Read.sequence chars items ++ ']' :: rest) := by
      simp [chars, charsOfItems_eq]
    have hopen : ∀ v ∈ items, ∀ more, Read.mark ']' (v.chars ++ more) = none := by
      intro v hv more
      obtain ⟨c, cs, hcs, hblank, hclose⟩ := v.chars_cons
      rw [hcs]
      exact Read.mark_other hblank hclose
    have hitem : ∀ v ∈ items, ∀ more, Read.NoDigit more →
        Read.value depth (v.chars ++ more) = some (v, more) := by
      intro v hv more hmore
      -- An item is shorter than its list, so the smaller depth is enough for it.
      have hless : v.chars.length ≤ depth := by
        have hlength : v.chars.length ≤ (Read.sequence chars items).length := Read.length_le_sequence hv
        simp only [chars, charsOfItems_eq, List.length_append, List.length_cons] at hdepth
        omega
      obtain ⟨inner, rfl⟩ := exists_depth hless
      exact ih v hv hmore inner hless
    rw [htext, value_bracket, Read.enclosed_sequence rfl (by decide) rfl hopen hitem]
    rfl
  | object members ih =>
    have htext : (object members).chars ++ rest =
        '\x7b' :: (Read.sequence charsOfMember members ++ '\x7d' :: rest) := by
      simp [chars, charsOfMembers_eq]
    have hopen : ∀ m ∈ members, ∀ more, Read.mark '\x7d' (charsOfMember m ++ more) = none := by
      intro m _ more
      rw [charsOfMember, quoted]
      exact Read.mark_other rfl (by decide)
    have hmember : ∀ m ∈ members, ∀ more, Read.NoDigit more →
        Read.member (Read.value depth) (charsOfMember m ++ more) = some (m, more) := by
      intro m hm more hmore
      have hless : m.2.chars.length ≤ depth := by
        have hlength : (charsOfMember m).length ≤ (Read.sequence charsOfMember members).length :=
          Read.length_le_sequence hm
        simp only [chars, charsOfMembers_eq, List.length_append, List.length_cons] at hdepth
        simp only [charsOfMember, List.length_append, List.length_cons] at hlength
        omega
      obtain ⟨inner, rfl⟩ := exists_depth hless
      exact member_chars (ih m hm hmore inner hless)
    rw [htext, value_brace, Read.enclosed_sequence rfl (by decide) rfl hopen hmember]
    rfl

/-- **The text of a value is read as that value**, and so as no other. -/
theorem read?_chars (v : Json) : read? v.chars = some v := by
  have hend : Read.NoDigit [] := fun d hd => by cases hd
  have hread := value_chars v (Nat.le_refl _) hend
  rw [List.append_nil] at hread
  rw [read?, hread]
  rfl

-- A comma too many is refused.
example : read? "[1,]".toList = none := by cbv

/-- **Two values with the same text are the same value.** -/
theorem chars_injective {v w : Json} (h : v.chars = w.chars) : v = w := by
  have hread := read?_chars v
  rw [h, read?_chars w] at hread
  exact (Option.some.inj hread).symm

/-! ## What a text is made of -/

/-- **The text of a character is visible.** -/
theorem visible_escape {c d : Char} (h : d ∈ escape c) : 0x20 ≤ d.toNat := by
  have hdigit : ∀ n < 16, 0x20 ≤ (Nat.digitChar n).toNat := by decide
  rcases Read.escape_cases c with ⟨l, hl, -, hvisible⟩ | ⟨hcontrol, hnumber⟩ | ⟨-, -, hvisible, hself⟩
  · rw [hl] at h
    rcases List.mem_cons.1 h with rfl | hmem
    · decide
    · rwa [List.mem_singleton.1 hmem]
  · rw [hnumber] at h
    simp only [List.mem_cons, List.not_mem_nil, or_false] at h
    rcases h with rfl | rfl | rfl | rfl | rfl | rfl
    · decide
    · decide
    · decide
    · decide
    · exact hdigit _ (by omega)
    · exact hdigit _ (by omega)
  · rw [hself] at h
    rwa [List.mem_singleton.1 h]

/-- **The text of a string is visible.** -/
theorem visible_quoted {s : String} {c : Char} (h : c ∈ quoted s) : 0x20 ≤ c.toNat := by
  simp only [quoted, List.cons_append, List.mem_cons, List.mem_append, List.mem_flatMap, List.not_mem_nil,
    or_false] at h
  rcases h with rfl | ⟨d, -, hd⟩ | rfl
  · decide
  · exact visible_escape hd
  · decide

/-- **A sequence is visible** if its items are. -/
theorem visible_sequence {α : Type} {text : α → List Char} {as : List α} {c : Char}
    (hitems : ∀ a ∈ as, ∀ c ∈ text a, 0x20 ≤ c.toNat) (h : c ∈ Read.sequence text as) :
    0x20 ≤ c.toNat := by
  rcases as with _ | ⟨a, as⟩
  · cases h
  · simp only [Read.sequence, Read.continued, List.mem_append, List.mem_flatMap, List.mem_cons] at h
    rcases h with hfirst | ⟨b, hb, rfl | hc⟩
    · exact hitems a List.mem_cons_self c hfirst
    · decide
    · exact hitems b (List.mem_cons_of_mem _ hb) c hc

/-- **The text of a value holds no control character.** -/
theorem visible_chars (v : Json) : ∀ c ∈ v.chars, 0x20 ≤ c.toNat := by
  induction v using induct with
  | null =>
    have hall : (chars null).all (fun c => decide (0x20 ≤ c.toNat)) = true := by decide
    exact fun c hc => of_decide_eq_true (List.all_eq_true.1 hall c hc)
  | integer n =>
    intro c hc
    rw [chars] at hc
    rcases Numeral.mem_signed hc with rfl | hdigit
    · decide
    · simp only [Char.isDigit, Bool.and_eq_true, decide_eq_true_eq, ge_iff_le,
        UInt32.le_iff_toNat_le] at hdigit
      exact Nat.le_trans (by decide) hdigit.1
  | text s => exact fun c hc => visible_quoted hc
  | list items ih =>
    intro c hc
    simp only [chars, charsOfItems_eq, List.cons_append, List.mem_cons, List.mem_append, List.not_mem_nil,
      or_false] at hc
    rcases hc with rfl | hc | rfl
    · decide
    · exact visible_sequence ih hc
    · decide
  | object members ih =>
    intro c hc
    simp only [chars, charsOfMembers_eq, List.cons_append, List.mem_cons, List.mem_append, List.not_mem_nil,
      or_false] at hc
    rcases hc with rfl | hc | rfl
    · decide
    · refine visible_sequence (fun m hm c hc => ?_) hc
      rcases List.mem_append.1 hc with hkey | hvalue
      · exact visible_quoted hkey
      · rcases List.mem_cons.1 hvalue with rfl | hmem
        · decide
        · exact ih m hm c hmem
    · decide

end Json
end Inotify
