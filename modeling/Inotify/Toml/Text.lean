/- # TOML strings

Four kinds of string: *basic* ones with escapes, between double quotes, and *literal* ones without,
between single quotes; each on one line, or between three quotes each on several lines. In a string on
several lines a line end directly behind the opening quotes is left out, the others are read as line
feeds, and one or two quotes may stand anywhere, also right before the closing ones.
-/

import Inotify.Toml.Value

namespace Inotify
namespace Toml

/-- The value of a hexadecimal digit. -/
def hexValue? (c : Char) : Option Nat :=
  if '0' ≤ c ∧ c ≤ '9' then some (c.toNat - '0'.toNat)
  else if 'a' ≤ c ∧ c ≤ 'f' then some (c.toNat - 'a'.toNat + 10)
  else if 'A' ≤ c ∧ c ≤ 'F' then some (c.toNat - 'A'.toNat + 10)
  else none

/-- The character with the number that a run of hexadecimal digits writes, if there is one. -/
def charOfHex? (digits : List Char) : Option Char := do
  let n := (← digits.mapM hexValue?).foldl (fun n d => 16 * n + d) 0
  if n.isValidChar then some (Char.ofNat n) else none

/-- The character of an escape, behind its backslash. -/
def escape : Reader Char
  | 'b' :: rest => some ('\x08', rest)
  | 't' :: rest => some ('\t', rest)
  | 'n' :: rest => some ('\n', rest)
  | 'f' :: rest => some ('\x0c', rest)
  | 'r' :: rest => some ('\r', rest)
  | '"' :: rest => some ('"', rest)
  | '\\' :: rest => some ('\\', rest)
  | 'u' :: rest =>
    if 4 ≤ rest.length then (charOfHex? (rest.take 4)).map (·, rest.drop 4) else none
  | 'U' :: rest =>
    if 8 ≤ rest.length then (charOfHex? (rest.take 8)).map (·, rest.drop 8) else none
  | _ => none

/-- One character of a basic string: itself or an escape. -/
def basicChar : Reader Char
  | '\\' :: rest => escape rest
  | c :: rest => if c ≠ '"' ∧ isVisible c then some (c, rest) else none
  | [] => none

/-- **An escape takes something.** -/
theorem takes_escape : Reader.Takes escape := by
  intro cs rest c h
  unfold escape at h
  split at h
  case h_8 digits | h_9 digits =>
    split at h
    · obtain ⟨d, -, hd⟩ := Option.map_eq_some_iff.mp h
      cases hd
      simp only [List.length_cons, List.length_drop]
      omega
    · cases h
  case h_10 => cases h
  all_goals
    cases h
    simp

/-- **A character of a basic string takes something.** -/
theorem takes_basicChar : Reader.Takes basicChar := by
  intro cs rest c h
  unfold basicChar at h
  split at h
  · have := takes_escape _ _ _ h
    simp only [List.length_cons]
    omega
  · split at h
    · cases h
      simp
    · cases h
  · cases h

/-- One character of a literal string. -/
def literalChar : Reader Char
  | c :: rest => if c ≠ '\'' ∧ isVisible c then some (c, rest) else none
  | [] => none

/-- **A character of a literal string takes something.** -/
theorem takes_literalChar : Reader.Takes literalChar := by
  intro cs rest c h
  unfold literalChar at h
  split at h
  · split at h
    · cases h
      simp
    · cases h
  · cases h

/-- A backslash at the end of a line: it, the line end and all blanks and line ends behind it count
for nothing. -/
def foldedLine (cs : List Char) : Option (List Char) :=
  match cs with
  | '\\' :: rest =>
    (lineEnd (skipBlanks rest)).map fun (_, rest) =>
      go rest
  | _ => none
where
  /-- Leaves out blanks and line ends. -/
  go : List Char → List Char
    | '\r' :: '\n' :: rest => go rest
    | c :: rest => if c = ' ' || c = '\t' || c = '\n' then go rest else c :: rest
    | [] => []

/-- **Leaving out takes nothing back.** -/
theorem length_foldedLine_go (cs : List Char) : (foldedLine.go cs).length ≤ cs.length := by
  fun_induction foldedLine.go cs with
  | case1 rest ih =>
    simp only [List.length_cons]
    omega
  | case2 c rest _ _ ih =>
    simp only [List.length_cons]
    omega
  | case3 => exact Nat.le_refl _
  | case4 => exact Nat.le_refl _

/-- **A folded line takes something.** -/
theorem length_foldedLine {cs rest : List Char} (h : foldedLine cs = some rest) :
    rest.length < cs.length := by
  unfold foldedLine at h
  split at h
  · next inner =>
    obtain ⟨⟨u, after⟩, hl, rfl⟩ := Option.map_eq_some_iff.mp h
    have hafter := takes_lineEnd _ _ _ hl
    have hblank := length_skipBlanks inner
    have hgo := length_foldedLine_go after
    simp only [List.length_cons]
    omega
  · cases h

/-- One unit of a basic string on several lines: a character, a line end, a quote, or a folded line,
which gives no character. -/
def basicUnit : Reader (List Char) := fun cs =>
  match lineEnd cs with
  | some (_, rest) => some (['\n'], rest)
  | none =>
    match foldedLine cs with
    | some rest => some ([], rest)
    | none =>
      match cs with
      | '"' :: rest => some (['"'], rest)
      | _ => (basicChar cs).map fun (c, rest) => ([c], rest)

/-- **A unit of a basic string takes something.** -/
theorem takes_basicUnit : Reader.Takes basicUnit := by
  intro cs rest u h
  unfold basicUnit at h
  split at h
  · next hl =>
    cases h
    exact takes_lineEnd _ _ _ hl
  · split at h
    · next hf =>
      cases h
      exact length_foldedLine hf
    · split at h
      · cases h
        simp
      · obtain ⟨p, hp, hq⟩ := Option.map_eq_some_iff.mp h
        cases hq
        exact takes_basicChar _ _ _ hp

/-- One unit of a literal string on several lines: a character, a line end or a quote. -/
def literalUnit : Reader (List Char) := fun cs =>
  match lineEnd cs with
  | some (_, rest) => some (['\n'], rest)
  | none =>
    match cs with
    | '\'' :: rest => some (['\''], rest)
    | _ => (literalChar cs).map fun (c, rest) => ([c], rest)

/-- **A unit of a literal string takes something.** -/
theorem takes_literalUnit : Reader.Takes literalUnit := by
  intro cs rest u h
  unfold literalUnit at h
  split at h
  · next hl =>
    cases h
    exact takes_lineEnd _ _ _ hl
  · split at h
    · cases h
      simp
    · obtain ⟨p, hp, hq⟩ := Option.map_eq_some_iff.mp h
      cases hq
      exact takes_literalChar _ _ _ hp

/-- The end of a string on one line. -/
def closeShort (quote : Char) : Reader Unit
  | c :: rest => if c = quote then some ((), rest) else none
  | [] => none

/-- The end of a string on several lines: three quotes, and up to two more before them that belong to
the string. -/
def closeLong (quote : Char) : Reader (List Char) := fun cs =>
  let run := (cs.takeWhile (· = quote)).length
  if run < 3 then none
  else
    let kept := min (run - 3) 2
    some (List.replicate kept quote, cs.drop (kept + 3))

/-- A basic string on one line, behind its opening quote. -/
def basicString : Reader (List Char) := fun cs =>
  (Reader.upTo (closeShort '"') basicChar takes_basicChar cs).map fun ((s, _), rest) => (s, rest)

/-- A literal string on one line, behind its opening quote. -/
def literalString : Reader (List Char) := fun cs =>
  (Reader.upTo (closeShort '\'') literalChar takes_literalChar cs).map fun ((s, _), rest) => (s, rest)

/-- A string on several lines, behind its opening quotes. -/
def longString (quote : Char) (unit : Reader (List Char)) (h : unit.Takes) :
    Reader (List Char) := fun cs =>
  let body := match lineEnd cs with
    | some (_, rest) => rest
    | none => cs
  (Reader.upTo (closeLong quote) unit h body).map fun ((parts, quotes), rest) =>
    (parts.flatten ++ quotes, rest)

/-- **A string of any kind.** -/
def anyString : Reader (List Char)
  | '"' :: '"' :: '"' :: rest => longString '"' basicUnit takes_basicUnit rest
  | '\'' :: '\'' :: '\'' :: rest => longString '\'' literalUnit takes_literalUnit rest
  | '"' :: rest => basicString rest
  | '\'' :: rest => literalString rest
  | _ => none

end Toml
end Inotify
