/- # How strings and integers are spelled

The spellings of strings between double quotes and of integers, said without a reader:

| what | spelled as |
| --- | --- |
| a character of a string | itself, unless it is a quote, a backslash or a control character |
| | a backslash and a letter |
| | a backslash, `u` or `U`, and the number of the character in four or eight digits |
| a string | the spellings of its characters between quotes |
| digits | the digits, with single underscores between some of them |
| an integer | decimal digits without a leading zero, with a sign or without |
| | `0x`, `0o` or `0b`, and digits in that base |

Every spelling is read as what it spells, in front of a blank, a comment, a line end or the end of the text
(`Toml.value_spelled`). For a string this goes character by character, as no spelling begins with a quote. An
integer could be the beginning of a moment or of a real; but a moment has a dash or a colon behind its first
digits (`Toml.moment_of_notMem`), and a real has a point or an exponent behind its decimal integer
(`Toml.writtenReal_of_decimal`). Every string and every integer has a spelling (`Toml.spellsString_quoted`,
`Toml.spellsInteger_signed`).
-/

import Inotify.Toml.Statement
import Inotify.Proofs.Text.Numeral
import Mathlib.Data.List.Forall2

namespace Inotify
namespace Toml

/-! ## Spellings -/

/-- The letters that stand for characters behind a backslash. -/
def escapeLetters : List (Char × Char) :=
  [('b', '\x08'), ('t', '\t'), ('n', '\n'), ('f', '\x0c'), ('r', '\r'), ('"', '"'), ('\\', '\\')]

/-- Hexadecimal digits that write the number of a character. -/
structure Numbers (ds : List Char) (c : Char) : Prop where
  /-- They are hexadecimal digits. -/
  digits : ∀ d ∈ ds, (hexValue? d).isSome = true
  /-- Their number is that of the character. -/
  number : numberOf 16 ds = c.toNat

/-- **A spelling of a character** of a string between double quotes. -/
inductive SpellsChar (c : Char) : List Char → Prop where
  | itself (quote : c ≠ '"') (slash : c ≠ '\\') (visible : isVisible c = true) : SpellsChar c [c]
  | letter (l : Char) (stands : (l, c) ∈ escapeLetters) : SpellsChar c ['\\', l]
  | short (ds : List Char) (four : ds.length = 4) (numbers : Numbers ds c) :
      SpellsChar c ('\\' :: 'u' :: ds)
  | long (ds : List Char) (eight : ds.length = 8) (numbers : Numbers ds c) :
      SpellsChar c ('\\' :: 'U' :: ds)

/-- **A spelling of a string** between double quotes. -/
def SpellsString (s : String) (text : List Char) : Prop :=
  ∃ parts, List.Forall₂ SpellsChar s.toList parts ∧ text = '"' :: (parts.flatten ++ ['"'])

/-- **A spelling of digits**: there may be an underscore between two of them. -/
inductive SpellsDigits (isDigit : Char → Bool) : List Char → List Char → Prop where
  | last (d : Char) (digit : isDigit d = true) : SpellsDigits isDigit [d] [d]
  | next {ds text : List Char} (d : Char) (digit : isDigit d = true)
      (more : SpellsDigits isDigit ds text) : SpellsDigits isDigit (d :: ds) (d :: text)
  | spaced {ds text : List Char} (d : Char) (digit : isDigit d = true)
      (more : SpellsDigits isDigit ds text) : SpellsDigits isDigit (d :: ds) (d :: '_' :: text)

/-- A base in which integers may be spelled behind a mark. -/
structure Base where
  /-- The letter behind the zero. -/
  mark : Char
  /-- How many digits there are. -/
  size : Nat
  /-- Which characters are digits. -/
  isDigit : Char → Bool

/-- The bases that have a mark. -/
def bases : List Base :=
  [⟨'x', 16, fun c => (hexValue? c).isSome⟩, ⟨'o', 8, fun c => '0' ≤ c && c ≤ '7'⟩,
    ⟨'b', 2, fun c => c = '0' || c = '1'⟩]

/-- The signs that a decimal number may have, and whether each is a minus. -/
def signs : List (List Char × Bool) := [([], false), (['+'], false), (['-'], true)]

/-- **A spelling of an integer**: decimal, and then without a leading zero, or behind the mark of a base. -/
inductive SpellsInteger : Int → List Char → Prop where
  | decimal {ds text signed : List Char} {negative : Bool} (known : (signed, negative) ∈ signs)
      (spelled : SpellsDigits Char.isDigit ds text) (zero : ds.head? = some '0' → ds = ['0']) :
      SpellsInteger (if negative then -(numberOf 10 ds : Int) else numberOf 10 ds) (signed ++ text)
  | based {ds text : List Char} {base : Base} (known : base ∈ bases)
      (spelled : SpellsDigits base.isDigit ds text) :
      SpellsInteger (numberOf base.size ds) ('0' :: base.mark :: text)

/-- **A spelling of a value**, for strings and for integers of 64 bits. -/
inductive SpellsValue : Value → List Char → Prop where
  | text {s : String} {text : List Char} (spelled : SpellsString s text) : SpellsValue (.text s) text
  | integer {n : Int} {text : List Char} (spelled : SpellsInteger n text) (word : fits n = true) :
      SpellsValue (.integer n) text

/-- The characters that may stand behind a value: blanks, the sign of a comment and those of a line end. -/
def endings : List Char := [' ', '\t', '#', '\n', '\r']

/-- What may stand behind the value of a line, if anything does. -/
def AtEnd (rest : List Char) : Prop := ∀ c ∈ rest.head?, c ∈ endings

/-! ## Strings are read back -/

variable {c d : Char} {cs ds rest text word : List Char}

/-- **Digits that number a character are read as it.** -/
theorem charOfHex?_of_numbers (h : Numbers ds c) : charOfHex? ds = some c := by
  have hvalues : ∀ ds : List Char, (∀ d ∈ ds, (hexValue? d).isSome = true) →
      ds.mapM hexValue? = some (ds.map fun d => (hexValue? d).getD 0) := by
    intro ds hds
    induction ds with
    | nil => rfl
    | cons d ds ih =>
      obtain ⟨hd, hmore⟩ := List.forall_mem_cons.1 hds
      obtain ⟨n, hn⟩ := Option.isSome_iff_exists.1 hd
      simp [hn, ih hmore]
  have hvalid : c.toNat.isValidChar := c.valid
  have hnumber : (ds.map fun d => (hexValue? d).getD 0).foldl (fun n d => 16 * n + d) 0 = c.toNat := by
    rw [List.foldl_map, ← h.number, numberOf]
  simp [charOfHex?, hvalues ds h.digits, hnumber, hvalid]

/-- **A character of a string is read back.** -/
theorem basicChar_spelled (h : SpellsChar c word) (rest : List Char) :
    basicChar (word ++ rest) = some (c, rest) := by
  cases h with
  | itself hquote hslash hvisible => simp [basicChar, hquote, hvisible]
  | letter l hl =>
    simp only [escapeLetters, List.mem_cons, Prod.mk.injEq, List.not_mem_nil, or_false] at hl
    rcases hl with ⟨rfl, rfl⟩ | ⟨rfl, rfl⟩ | ⟨rfl, rfl⟩ | ⟨rfl, rfl⟩ | ⟨rfl, rfl⟩ | ⟨rfl, rfl⟩ |
      ⟨rfl, rfl⟩ <;> rfl
  | short ds hfour hnumbers =>
    have hlength : 4 ≤ (ds ++ rest).length := by simp [hfour]
    have htake : (ds ++ rest).take 4 = ds := List.take_left' hfour
    have hdrop : (ds ++ rest).drop 4 = rest := List.drop_left' hfour
    simp only [List.cons_append, basicChar, escape, if_pos hlength, htake, hdrop,
      charOfHex?_of_numbers hnumbers, Option.map_some]
  | long ds height hnumbers =>
    have hlength : 8 ≤ (ds ++ rest).length := by simp [height]
    have htake : (ds ++ rest).take 8 = ds := List.take_left' height
    have hdrop : (ds ++ rest).drop 8 = rest := List.drop_left' height
    simp only [List.cons_append, basicChar, escape, if_pos hlength, htake, hdrop,
      charOfHex?_of_numbers hnumbers, Option.map_some]

/-- **A spelling begins with something else than a quote.** -/
theorem SpellsChar.exists_cons (h : SpellsChar c word) : ∃ d ds, word = d :: ds ∧ d ≠ '"' := by
  cases h with
  | itself hquote => exact ⟨c, [], rfl, hquote⟩
  | letter | short | long => exact ⟨'\\', _, rfl, by decide⟩

/-- **A string is read back**, behind its opening quote. -/
theorem basicString_spelled {parts : List (List Char)} (h : List.Forall₂ SpellsChar cs parts)
    (rest : List Char) : basicString (parts.flatten ++ '"' :: rest) = some (cs, rest) := by
  have hchars : Reader.upTo (closeShort '"') basicChar takes_basicChar (parts.flatten ++ '"' :: rest) =
      some ((cs, ()), rest) := by
    induction h with
    | nil => exact Reader.upTo_of_close _ rfl
    | @cons c word cs parts hc _ ih =>
      have hopen : closeShort '"' (word ++ (parts.flatten ++ '"' :: rest)) = none := by
        obtain ⟨d, ds, rfl, hd⟩ := hc.exists_cons
        simp [closeShort, hd]
      rw [List.flatten_cons, List.append_assoc, Reader.upTo_of_unit _ hopen (basicChar_spelled hc _), ih]
      rfl
  rw [basicString, hchars]
  rfl

/-- **A spelled string is read as a string on one line**, as nothing after it is a quote. -/
theorem anyString_spelled {s : String} (h : SpellsString s text) (hrest : AtEnd rest) :
    anyString (text ++ rest) = some (s.toList, rest) := by
  obtain ⟨parts, hparts, rfl⟩ := h
  generalize s.toList = cs at hparts ⊢
  have hread := basicString_spelled hparts rest
  have htext : '"' :: (parts.flatten ++ ['"']) ++ rest = '"' :: (parts.flatten ++ '"' :: rest) := by
    simp
  rw [htext]
  -- Three quotes would need a character that is spelled with one, or a quote behind the string.
  have hlong : ∀ more, parts.flatten ++ '"' :: rest ≠ '"' :: '"' :: more := by
    intro more heq
    cases hparts with
    | nil =>
      have hhead : rest.head? = some '"' := by
        rw [List.flatten_nil, List.nil_append, List.cons.injEq] at heq
        rw [heq.2]
        rfl
      exact absurd (hrest _ hhead) (by decide)
    | cons hc _ =>
      obtain ⟨d, ds, rfl, hd⟩ := hc.exists_cons
      rw [List.flatten_cons, List.cons_append, List.cons_append, List.cons.injEq] at heq
      exact hd heq.1
  rw [anyString]
  · exact hread
  · exact hlong

/-! ## Digits are read back -/

variable {isDigit : Char → Bool}

/-- **Digits begin with a digit.** -/
theorem SpellsDigits.exists_cons (h : SpellsDigits isDigit ds text) :
    ∃ d more others, isDigit d = true ∧ ds = d :: more ∧ text = d :: others := by
  cases h with
  | last d hd => exact ⟨d, [], [], hd, rfl, rfl⟩
  | next d hd _ => exact ⟨d, _, _, hd, rfl, rfl⟩
  | spaced d hd _ => exact ⟨d, _, _, hd, rfl, rfl⟩

/-- **Spelled digits hold nothing but digits and underscores.** -/
theorem SpellsDigits.mem (h : SpellsDigits isDigit ds text) (hc : c ∈ text) :
    isDigit c = true ∨ c = '_' := by
  induction h with
  | last d hd =>
    obtain rfl := List.mem_singleton.1 hc
    exact .inl hd
  | next d hd _ ih =>
    rcases List.mem_cons.1 hc with rfl | hc
    · exact .inl hd
    · exact ih hc
  | spaced d hd _ ih =>
    rcases List.mem_cons.1 hc with rfl | hc
    · exact .inl hd
    rcases List.mem_cons.1 hc with rfl | hc
    · exact .inr rfl
    · exact ih hc

/-- **What is neither a digit nor an underscore** is not among spelled digits. -/
theorem SpellsDigits.notMem (h : SpellsDigits isDigit ds text) (hdigit : isDigit c = false)
    (hscore : c ≠ '_') : c ∉ text := by
  intro hc
  rcases h.mem hc with hmem | rfl
  · rw [hdigit] at hmem
    cases hmem
  · exact hscore rfl

/-- What no further digit can be read from. -/
def NoMore (isDigit : Char → Bool) (rest : List Char) : Prop :=
  ∀ c ∈ rest.head?, isDigit c = false ∧ c ≠ '_'

/-- **A digit is taken**, and then the others. -/
theorem digitRun_cons (hd : isDigit d = true) (hscore : isDigit '_' = false) :
    digitRun isDigit (d :: cs) = (d :: (digitRun isDigit cs).1, (digitRun isDigit cs).2) := by
  rw [digitRun]
  · exact if_pos hd
  · rintro e rest rfl
    rw [hscore] at hd
    cases hd

/-- **An underscore in front of a digit** counts for nothing. -/
theorem digitRun_score (hd : isDigit d = true) (hscore : isDigit '_' = false) :
    digitRun isDigit ('_' :: d :: cs) = digitRun isDigit (d :: cs) := by
  rw [digitRun, if_pos hd, digitRun_cons hd hscore]

/-- **Spelled digits are read back**, in front of what is none. -/
theorem digitRun_spelled (h : SpellsDigits isDigit ds text)
    (hscore : isDigit '_' = false) (hrest : NoMore isDigit rest) :
    digitRun isDigit (text ++ rest) = (ds, rest) := by
  have hstop : digitRun isDigit rest = ([], rest) := by
    cases rest with
    | nil => rfl
    | cons c rest =>
      obtain ⟨hdigit, hne⟩ := hrest c rfl
      rw [digitRun]
      · simp [hdigit]
      · rintro e more rfl
        exact absurd rfl hne
  induction h with
  | last d hd => rw [List.singleton_append, digitRun_cons hd hscore, hstop]
  | next d hd _ ih => rw [List.cons_append, digitRun_cons hd hscore, ih]
  | spaced d hd hmore ih =>
    obtain ⟨e, more, others, he, rfl, rfl⟩ := hmore.exists_cons
    rw [List.cons_append] at ih
    rw [List.cons_append, digitRun_cons hd hscore, List.cons_append, List.cons_append,
      digitRun_score he hscore, ih]

/-- **Spelled digits are read back as digits.** -/
theorem digits_spelled (h : SpellsDigits isDigit ds text)
    (hscore : isDigit '_' = false) (hrest : NoMore isDigit rest) :
    digits isDigit (text ++ rest) = some (ds, rest) := by
  have hrun := digitRun_spelled h hscore hrest
  obtain ⟨d, _, others, hd, -, rfl⟩ := h.exists_cons
  rw [List.cons_append] at hrun ⊢
  rw [digits, if_pos hd, hrun]

/-- **What does not stand at the end** is not what stands there. -/
theorem AtEnd.ne (h : AtEnd rest) (hc : c ∈ rest.head?) {e : Char} (he : e ∉ endings) : c ≠ e := by
  rintro rfl
  exact he (h c hc)

/-- **At the end there are no more digits**, if nothing is one that stands there. -/
theorem AtEnd.noMore (h : AtEnd rest)
    (hends : endings.any isDigit = false) : NoMore isDigit rest := by
  intro c hc
  exact ⟨by simpa using List.any_eq_false.1 hends c (h c hc), h.ne hc (by decide)⟩

/-! ## Integers are no moments and no reals -/

/-- **Behind so many digits** comes a character of the text that is not its first, or the end. -/
theorem mem_tail_of_fixed {count low high n : Nat} {after : List Char} (hrest : AtEnd rest)
    (h : fixed (count + 1) low high (text ++ rest) = some (n, after)) (hc : c ∈ after.head?) :
    c ∈ text.tail ∨ c ∈ endings := by
  rw [fixed] at h
  split at h
  case isFalse => cases h
  case isTrue hfixed =>
    obtain ⟨hlength, hall, -, -⟩ := hfixed
    obtain ⟨-, rfl⟩ := Prod.mk.inj (Option.some.inj h)
    rcases Nat.lt_trichotomy (count + 1) text.length with hless | heq | hmore
    · rw [List.drop_append_of_le_length (by omega), List.drop_eq_getElem_cons hless, List.cons_append,
        List.head?_cons] at hc
      obtain rfl := Option.some.inj hc
      left
      rw [List.mem_iff_getElem]
      exact ⟨count, by simp; omega, by simp⟩
    · rw [heq, List.drop_left] at hc
      exact .inr (hrest c hc)
    · -- What stands behind the text would be one of the digits.
      exfalso
      cases rest with
      | nil =>
        simp only [List.append_nil, List.length_take] at hlength
        omega
      | cons e rest =>
        have hmem : e ∈ (text ++ e :: rest).take (count + 1) := by
          rw [List.take_append, List.mem_append]
          right
          obtain ⟨k, hk⟩ := Nat.exists_eq_add_of_lt hmore
          rw [show count + 1 - text.length = k + 1 by omega, List.take_succ_cons]
          exact List.mem_cons_self
        have hdigit := List.all_eq_true.1 hall e hmem
        have hends : endings.any Char.isDigit = false := by decide
        exact absurd hdigit (List.any_eq_false.1 hends e (hrest e rfl))

/-- **A moment has a dash or a colon** behind its first character. -/
theorem moment_of_notMem (hrest : AtEnd rest) (hdash : '-' ∉ text.tail) (hcolon : ':' ∉ text.tail) :
    moment (text ++ rest) = none := by
  have hmark : ∀ {mark : Char} {after : List Char} {count low high n : Nat}, mark ∉ text.tail →
      mark ∉ endings → fixed (count + 1) low high (text ++ rest) = some (n, after) →
      Reader.exactly [mark] after = none := by
    intro mark after count low high n hmem hend hfixed
    rw [Reader.exactly, if_neg]
    intro hpre
    cases after with
    | nil => cases hpre
    | cons e after =>
      obtain rfl : mark = e := by simpa using hpre
      exact (mem_tail_of_fixed hrest hfixed rfl).elim hmem hend
  have hdate : date (text ++ rest) = none := by
    rw [date]
    cases hyear : fixed 4 0 9999 (text ++ rest) with
    | none => rfl
    | some p => simp [hmark hdash (by decide) hyear]
  have htime : time (text ++ rest) = none := by
    rw [time]
    cases hhour : fixed 2 0 23 (text ++ rest) with
    | none => rfl
    | some p => simp [hmark hcolon (by decide) hhour]
  simp [moment, hdate, htime]

/-- **A real has a point or an exponent** behind its decimal integer. -/
theorem writtenReal_of_decimal {negative : Bool} (h : decimal cs = some ((negative, ds), rest))
    (hrest : ∀ c ∈ rest.head?, c ≠ '.' ∧ c ≠ 'e' ∧ c ≠ 'E') : writtenReal cs = none := by
  have hparts : fraction rest = none ∧ exponent rest = none := by
    cases rest with
    | nil => exact ⟨rfl, rfl⟩
    | cons c rest =>
      obtain ⟨hpoint, hlower, hupper⟩ := hrest c rfl
      simp [fraction, exponent, hpoint, hlower, hupper]
  simp [writtenReal, h, Reader.orElse, hparts]

/-- **What begins with a digit is no word.** -/
theorem namedReal_of_isDigit {negative : Bool} (h : sign cs = (negative, d :: rest))
    (hd : d.isDigit = true) : namedReal cs = none := by
  rw [namedReal, h]
  dsimp only
  split
  · next heq =>
    obtain ⟨rfl, -⟩ := List.cons.inj heq
    cases hd
  · next heq =>
    obtain ⟨rfl, -⟩ := List.cons.inj heq
    cases hd
  · rfl

/-- **What is read as an integer and as nothing else** is one: it begins with a sign or a digit, and is
neither a moment nor a real. -/
theorem scalar_of_integer {n : Int} (hfirst : d = '+' ∨ d = '-' ∨ d.isDigit = true)
    (hmoment : moment (d :: cs) = none) (hreal : real (d :: cs) = none)
    (hinteger : integer (d :: cs) = some (n, rest)) : scalar (d :: cs) = some (.integer n, rest) := by
  have hne : ∀ e : Char, e.isDigit = false → e ≠ '+' → e ≠ '-' → d ≠ e := by
    rintro e he hplus hminus rfl
    rcases hfirst with h | h | h
    · exact hplus h
    · exact hminus h
    · rw [he] at h
      cases h
  have hdouble : d ≠ '"' := hne _ (by decide) (by decide) (by decide)
  have hsingle : d ≠ '\'' := hne _ (by decide) (by decide) (by decide)
  have htrue : d ≠ 't' := hne _ (by decide) (by decide) (by decide)
  have hfalse : d ≠ 'f' := hne _ (by decide) (by decide) (by decide)
  have hstring : anyString (d :: cs) = none := by simp [anyString, hdouble, hsingle]
  have hboolean : boolean (d :: cs) = none := by
    simp [boolean, Reader.exactly, htrue.symm, hfalse.symm]
  simp [scalar, hstring, hboolean, hmoment, hreal, hinteger]

/-! ## Integers are read back -/

variable {signed : List Char} {negative : Bool}

/-- **A sign is missing, a plus or a minus.** -/
theorem cases_of_mem_signs (h : (signed, negative) ∈ signs) :
    (signed = [] ∧ negative = false) ∨ (signed = ['+'] ∧ negative = false) ∨
      (signed = ['-'] ∧ negative = true) := by
  simpa [signs] using h

/-- **A sign is read in front of a digit.** -/
theorem sign_spelled (h : (signed, negative) ∈ signs) (hd : d.isDigit = true) (cs : List Char) :
    sign (signed ++ d :: cs) = (negative, d :: cs) := by
  rcases cases_of_mem_signs h with ⟨rfl, rfl⟩ | ⟨rfl, rfl⟩ | ⟨rfl, rfl⟩
  · rw [List.nil_append, sign]
    · rintro rest heq
      obtain ⟨rfl, -⟩ := List.cons.inj heq
      cases hd
    · rintro rest heq
      obtain ⟨rfl, -⟩ := List.cons.inj heq
      cases hd
  · rfl
  · rfl

/-- **A leading zero is all there is.** -/
theorem eq_of_zero (h : SpellsDigits Char.isDigit ds text) (hzero : ds.head? = some '0' → ds = ['0'])
    (htext : text.head? = some '0') : ds = ['0'] ∧ text = ['0'] := by
  cases h with
  | last d =>
    obtain rfl := Option.some.inj htext
    exact ⟨rfl, rfl⟩
  | next d _ hmore =>
    obtain rfl := Option.some.inj htext
    obtain ⟨-, rfl⟩ := List.cons.inj (hzero rfl)
    cases hmore
  | spaced d _ hmore =>
    obtain rfl := Option.some.inj htext
    obtain ⟨-, rfl⟩ := List.cons.inj (hzero rfl)
    cases hmore

/-- **A signed number begins with its sign or a digit.** -/
theorem exists_cons_of_sign (hsign : (signed, negative) ∈ signs) (h : SpellsDigits Char.isDigit ds text)
    (rest : List Char) : ∃ d others, signed ++ (text ++ rest) = d :: others ∧
      (d = '+' ∨ d = '-' ∨ d.isDigit = true) := by
  obtain ⟨d, more, others, hd, -, rfl⟩ := h.exists_cons
  rcases cases_of_mem_signs hsign with ⟨rfl, -⟩ | ⟨rfl, -⟩ | ⟨rfl, -⟩
  · exact ⟨d, others ++ rest, rfl, .inr (.inr hd)⟩
  · exact ⟨'+', d :: others ++ rest, rfl, .inl rfl⟩
  · exact ⟨'-', d :: others ++ rest, rfl, .inr (.inl rfl)⟩

/-- **Behind the first character of a signed number** come digits and underscores. -/
theorem notMem_tail_of_sign (hsign : (signed, negative) ∈ signs) (h : SpellsDigits Char.isDigit ds text)
    (hdigit : c.isDigit = false) (hscore : c ≠ '_') : c ∉ (signed ++ text).tail := by
  have hc := h.notMem hdigit hscore
  rcases cases_of_mem_signs hsign with ⟨rfl, -⟩ | ⟨rfl, -⟩ | ⟨rfl, -⟩
  · exact fun hmem => hc (List.mem_of_mem_tail hmem)
  · exact hc
  · exact hc

/-- **Behind a zero in front of a decimal number** stands what stands behind the number. -/
theorem eq_of_append_eq_zero {more : List Char} (hsign : (signed, negative) ∈ signs)
    (h : SpellsDigits Char.isDigit ds text) (hzero : ds.head? = some '0' → ds = ['0'])
    (heq : signed ++ (text ++ rest) = '0' :: more) : more = rest := by
  obtain ⟨d, digits, others, -, -, rfl⟩ := h.exists_cons
  rcases cases_of_mem_signs hsign with ⟨rfl, -⟩ | ⟨rfl, -⟩ | ⟨rfl, -⟩
  · obtain ⟨rfl, rfl⟩ := List.cons.inj heq
    obtain ⟨-, hothers⟩ := eq_of_zero h hzero rfl
    rw [(List.cons.inj hothers).2]
    rfl
  · cases (List.cons.inj heq).1
  · cases (List.cons.inj heq).1

/-- **A decimal number is read back.** -/
theorem decimal_spelled (hsign : (signed, negative) ∈ signs) (h : SpellsDigits Char.isDigit ds text)
    (hzero : ds.head? = some '0' → ds = ['0']) (hrest : AtEnd rest) :
    decimal (signed ++ (text ++ rest)) = some ((negative, ds), rest) := by
  have hdigits := digits_spelled h (by decide) (hrest.noMore (by decide))
  obtain ⟨d, more, others, hd, -, rfl⟩ := h.exists_cons
  have hread : sign (signed ++ (d :: others ++ rest)) = (negative, d :: others ++ rest) :=
    sign_spelled hsign hd _
  rw [decimal, hread]
  dsimp only
  split
  · next more heq =>
    obtain ⟨rfl, hmore⟩ := List.cons.inj heq
    obtain ⟨rfl, hothers⟩ := eq_of_zero h hzero rfl
    obtain rfl : others = [] := (List.cons.inj hothers).2
    rw [← hmore]
    rfl
  · rw [hdigits]
    rfl

/-- **A decimal number is no real.** -/
theorem real_decimal (hsign : (signed, negative) ∈ signs) (h : SpellsDigits Char.isDigit ds text)
    (hzero : ds.head? = some '0' → ds = ['0']) (hrest : AtEnd rest) :
    real (signed ++ (text ++ rest)) = none := by
  have hdecimal := decimal_spelled hsign h hzero hrest
  have hwritten := writtenReal_of_decimal hdecimal fun c hc =>
    ⟨hrest.ne hc (by decide), hrest.ne hc (by decide), hrest.ne hc (by decide)⟩
  obtain ⟨d, more, others, hd, -, rfl⟩ := h.exists_cons
  have hnamed := namedReal_of_isDigit (sign_spelled hsign hd (others ++ rest)) hd
  rw [real, hwritten]
  exact hnamed

/-- **A decimal number is read as an integer.** -/
theorem integer_decimal (hsign : (signed, negative) ∈ signs) (h : SpellsDigits Char.isDigit ds text)
    (hzero : ds.head? = some '0' → ds = ['0']) (hrest : AtEnd rest)
    (hfits : fits (if negative then -(numberOf 10 ds : Int) else numberOf 10 ds) = true) :
    integer (signed ++ (text ++ rest)) =
      some (if negative then -(numberOf 10 ds : Int) else numberOf 10 ds, rest) := by
  -- A zero in front is the whole number, so there is no mark behind it.
  have hmark : ∀ mark more, mark ∉ endings → signed ++ (text ++ rest) ≠ '0' :: mark :: more := by
    intro mark more hend heq
    obtain rfl := eq_of_append_eq_zero hsign h hzero heq
    exact hrest.ne rfl hend rfl
  rw [integer]
  · simp [decimal_spelled hsign h hzero hrest, hfits]
  · exact fun more => hmark _ more (by decide)
  · exact fun more => hmark _ more (by decide)
  · exact fun more => hmark _ more (by decide)

/-- **An integer with a sign is read back**, or one without. -/
theorem scalar_decimal (hsign : (signed, negative) ∈ signs) (h : SpellsDigits Char.isDigit ds text)
    (hzero : ds.head? = some '0' → ds = ['0']) (hrest : AtEnd rest)
    (hfits : fits (if negative then -(numberOf 10 ds : Int) else numberOf 10 ds) = true) :
    scalar (signed ++ (text ++ rest)) =
      some (.integer (if negative then -(numberOf 10 ds : Int) else numberOf 10 ds), rest) := by
  have hreal := real_decimal hsign h hzero hrest
  have hinteger := integer_decimal hsign h hzero hrest hfits
  have hmoment : moment (signed ++ (text ++ rest)) = none := by
    rw [← List.append_assoc]
    exact moment_of_notMem hrest (notMem_tail_of_sign hsign h (by decide) (by decide))
      (notMem_tail_of_sign hsign h (by decide) (by decide))
  obtain ⟨d, others, heq, hd⟩ := exists_cons_of_sign hsign h rest
  rw [heq] at hmoment hreal hinteger ⊢
  exact scalar_of_integer hd hmoment hreal hinteger

/-- **A digit of a base** is none of the marks of other values. -/
theorem bases_spec : ∀ base ∈ bases, base.isDigit '_' = false ∧
    endings.any base.isDigit = false ∧ base.isDigit '-' = false ∧ base.isDigit ':' = false ∧
    base.mark ≠ '-' ∧ base.mark ≠ ':' ∧ base.mark ≠ '.' ∧ base.mark ≠ 'e' ∧ base.mark ≠ 'E' := by
  decide

/-- **An integer behind the mark of its base is read back.** -/
theorem scalar_based {base : Base} (hbase : base ∈ bases) (h : SpellsDigits base.isDigit ds text)
    (hrest : AtEnd rest) (hfits : fits (numberOf base.size ds) = true) :
    scalar ('0' :: base.mark :: (text ++ rest)) = some (.integer (numberOf base.size ds), rest) := by
  obtain ⟨hscore, hends, hdash, hcolon, hmark, hmark', hpoint, hlower, hupper⟩ := bases_spec base hbase
  have hmoment : moment ('0' :: base.mark :: (text ++ rest)) = none := by
    have hnotMem : ∀ e : Char, base.isDigit e = false → e ≠ '_' → base.mark ≠ e →
        e ∉ ('0' :: base.mark :: text).tail := by
      intro e he hne hmark
      exact List.not_mem_cons_of_ne_of_not_mem hmark.symm (h.notMem he hne)
    exact moment_of_notMem hrest (hnotMem _ hdash (by decide) hmark)
      (hnotMem _ hcolon (by decide) hmark')
  have hreal : real ('0' :: base.mark :: (text ++ rest)) = none := by
    have hdecimal : decimal ('0' :: base.mark :: (text ++ rest)) =
        some ((false, ['0']), base.mark :: (text ++ rest)) := rfl
    have hwritten := writtenReal_of_decimal hdecimal fun c hc => by
      obtain rfl := Option.some.inj hc
      exact ⟨hpoint, hlower, hupper⟩
    rw [real, hwritten]
    rfl
  have hinteger : integer ('0' :: base.mark :: (text ++ rest)) =
      some ((numberOf base.size ds : Int), rest) := by
    have hdigits := digits_spelled h hscore (hrest.noMore hends)
    simp only [bases, List.mem_cons, List.not_mem_nil, or_false] at hbase
    rcases hbase with rfl | rfl | rfl <;> simp [integer, based, hdigits, hfits]
  exact scalar_of_integer (.inr (.inr rfl)) hmoment hreal hinteger

/-- **An integer is read back**, at the end of a line. -/
theorem scalar_spelled {n : Int} (h : SpellsInteger n text) (hfits : fits n = true)
    (hrest : AtEnd rest) : scalar (text ++ rest) = some (.integer n, rest) := by
  cases h with
  | decimal hsign hspelled hzero =>
    rw [List.append_assoc]
    exact scalar_decimal hsign hspelled hzero hrest hfits
  | based hbase hspelled => exact scalar_based hbase hspelled hrest hfits

/-! ## Values are read back -/

/-- **A spelled value begins with a quote, a sign or a digit.** -/
theorem SpellsValue.exists_cons {v : Value} (h : SpellsValue v text) (rest : List Char) :
    ∃ d others, text ++ rest = d :: others ∧ (d = '"' ∨ d = '+' ∨ d = '-' ∨ d.isDigit = true) := by
  cases h with
  | text hspelled =>
    obtain ⟨parts, -, rfl⟩ := hspelled
    exact ⟨'"', _, rfl, .inl rfl⟩
  | integer hspelled _ =>
    cases hspelled with
    | decimal hsign hdigits _ =>
      obtain ⟨d, others, heq, hd⟩ := exists_cons_of_sign hsign hdigits rest
      rw [List.append_assoc]
      exact ⟨d, others, heq, .inr hd⟩
    | based _ _ => exact ⟨'0', _, rfl, .inr (.inr (.inr rfl))⟩

/-- **A value is read back**, at the end of a line. -/
theorem value_spelled {v : Value} (h : SpellsValue v text) (hrest : AtEnd rest) :
    value depthBound (text ++ rest) = some (v, rest) := by
  have hscalar : scalar (text ++ rest) = some (v, rest) := by
    cases h with
    | text hspelled => simp [scalar, anyString_spelled hspelled hrest]
    | integer hspelled hfits => exact scalar_spelled hspelled hfits hrest
  obtain ⟨d, others, heq, hd⟩ := h.exists_cons rest
  have harray : d ≠ '[' := by
    rintro rfl
    exact absurd hd (by decide)
  have htable : d ≠ '\x7b' := by
    rintro rfl
    exact absurd hd (by decide)
  rw [heq] at hscalar ⊢
  simp [depthBound, value, oneChar, harray, htable, hscalar]

/-! ## Everything can be spelled -/

/-- A character as itself, or by its number if it must not stand for itself. -/
def plainly (c : Char) : List Char :=
  if c ≠ '"' ∧ c ≠ '\\' ∧ isVisible c = true then [c]
  else ['\\', 'u', '0', '0', Nat.digitChar (c.toNat / 16), Nat.digitChar (c.toNat % 16)]

/-- A string with quotes, backslashes and control characters escaped. -/
def quoted (s : String) : List Char := '"' :: ((s.toList.map plainly).flatten ++ ['"'])

/-- **Every character has a spelling**: those that must not stand for themselves have small numbers. -/
theorem spellsChar_plainly (c : Char) : SpellsChar c (plainly c) := by
  rw [plainly]
  split
  · next h => exact .itself h.1 h.2.1 h.2.2
  · next h =>
    have hsmall : c.toNat < 0x80 := by
      by_cases hquote : c = '"'
      · subst hquote
        decide
      by_cases hslash : c = '\\'
      · subst hslash
        decide
      have hcontrol : isVisible c = false := by simpa [hquote, hslash] using h
      simp only [isVisible, Bool.or_eq_false_iff, Bool.and_eq_false_iff, decide_eq_false_iff_not] at hcontrol
      omega
    have hhigh : hexValue? (Nat.digitChar (c.toNat / 16)) = some (c.toNat / 16) :=
      Numeral.hexValue?_digitChar (by omega)
    have hlow : hexValue? (Nat.digitChar (c.toNat % 16)) = some (c.toNat % 16) :=
      Numeral.hexValue?_digitChar (by omega)
    have hzero : hexValue? '0' = some 0 := rfl
    refine .short _ rfl ⟨?_, ?_⟩
    · simp [hhigh, hlow, hzero]
    · simp only [numberOf, List.foldl_cons, List.foldl_nil, hhigh, hlow, hzero, Option.getD_some]
      omega

/-- **Every string has a spelling.** -/
theorem spellsString_quoted (s : String) : SpellsString s (quoted s) := by
  refine ⟨s.toList.map plainly, ?_, rfl⟩
  rw [List.forall₂_map_right_iff, List.forall₂_same]
  exact fun c _ => spellsChar_plainly c

/-- **Digits spell themselves.** -/
theorem spellsDigits_self (h : ∀ e ∈ d :: cs, isDigit e = true) :
    SpellsDigits isDigit (d :: cs) (d :: cs) := by
  induction cs generalizing d with
  | nil => exact .last d (h d List.mem_cons_self)
  | cons e cs ih =>
    obtain ⟨hd, hmore⟩ := List.forall_mem_cons.1 h
    exact .next d hd (ih hmore)

/-- **Every integer is spelled by its numeral.** -/
theorem spellsInteger_signed (i : Int) : SpellsInteger i (Numeral.signed i).toList := by
  have hnumber : numberOf 10 (Nat.toDigits 10 i.natAbs) = i.natAbs :=
    Numeral.numberOf_toDigits (by decide) (by decide)
  have hspelled : SpellsDigits Char.isDigit (Nat.toDigits 10 i.natAbs) (Nat.toDigits 10 i.natAbs) := by
    obtain ⟨d, ds, hds, -⟩ := Numeral.toDigits_ten_cons i.natAbs
    have hall : ∀ e ∈ Nat.toDigits 10 i.natAbs, e.isDigit = true := fun e he =>
      Nat.isDigit_of_mem_toDigits (by decide) (by decide) he
    rw [hds] at hall ⊢
    exact spellsDigits_self hall
  have hzero : (Nat.toDigits 10 i.natAbs).head? = some '0' → Nat.toDigits 10 i.natAbs = ['0'] := by
    intro h
    obtain ⟨ds, hds⟩ := List.head?_eq_some_iff.1 h
    rw [Numeral.eq_zero_of_toDigits (by decide) (by decide) hds]
    rfl
  rw [Numeral.signed, Numeral.decimal]
  split
  · next hneg =>
    have h : SpellsInteger (-(numberOf 10 (Nat.toDigits 10 i.natAbs) : Int))
        (['-'] ++ Nat.toDigits 10 i.natAbs) :=
      .decimal (show (['-'], true) ∈ signs by decide) hspelled hzero
    rw [hnumber, Int.ofNat_natAbs_of_nonpos (by omega), Int.neg_neg] at h
    rwa [String.toList_append, String.toList_ofList, String.toList_ofList]
  · next hpos =>
    have h : SpellsInteger (numberOf 10 (Nat.toDigits 10 i.natAbs) : Int)
        ([] ++ Nat.toDigits 10 i.natAbs) :=
      .decimal (show ([], false) ∈ signs by decide) hspelled hzero
    rw [hnumber, Int.natAbs_of_nonneg (by omega)] at h
    rwa [String.toList_ofList]

end Toml
end Inotify
