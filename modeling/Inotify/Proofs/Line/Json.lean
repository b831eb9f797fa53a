/- # JSON lines

A JSON line is the text of an object, and reading it gives the object back, so the line holds all that the
object does: the numbers of the watch, the cookie and the whole mask, the names of the kinds, and the name as
text. Of a name the object holds the characters that its bytes are taken apart into, and U+FFFD for each gap
between them (`Record.nameValue_some`). If there are no gaps, that is all of it, and the line is the line of
no other event (`Record.eq_of_jsonLine`).
-/

import Inotify.Line
import Inotify.Proofs.Json.Reading
import Inotify.Proofs.Text.Utf8

namespace Inotify

namespace Record

/-- **An event whose name is a text**, if it has a name. -/
def Textual (r : Record) : Prop := ∀ name ∈ r.name, ∃ s, name = Utf8.encode s

/-- The name in the object of an event. -/
def nameValue (r : Record) : Json :=
  match r.name with
  | none => .null
  | some name => .text (Utf8.lossy name)

/-- **The name in an object is null exactly if there is none.** -/
theorem nameValue_eq_null {r : Record} : r.nameValue = .null ↔ r.name = none := by
  rw [nameValue]
  split <;> simp_all

/-- **The name in an object is the characters of the name**, and U+FFFD for what is no character. -/
theorem nameValue_some {r : Record} {name : Bytes} (h : r.name = some name) :
    ∃ parts, (∀ others, Utf8.Parts name others ↔ others = parts) ∧
      r.nameValue = .text (String.ofList (parts.map (·.getD '\uFFFD'))) := by
  refine ⟨Utf8.scan name, fun others => Utf8.parts_iff.trans eq_comm, ?_⟩
  rw [nameValue, h]
  rfl

/-- **The object of an event** has five members. -/
theorem toJson_eq (r : Record) :
    r.toJson = .object
      [("cookie", .integer r.cookie.toNat), ("kinds", .list (r.mask.names.map .text)),
       ("mask", .integer r.mask.bits.toNat), ("name", r.nameValue),
       ("wd", .integer r.watch.number.toInt)] := rfl

/-- **A line holds no control character.** -/
theorem le_of_mem_jsonLine {r : Record} {b : UInt8} (h : b ∈ Format.json.render r) : 0x20 ≤ b := by
  refine Utf8.le_of_mem_encode (fun c hc => ?_) h
  rw [jsonLine, Json.compact, String.toList_ofList] at hc
  exact r.toJson.visible_chars c hc

/-- **A line is read as the object of its event.** -/
theorem read?_jsonLine (r : Record) : Json.read? r.jsonLine.toList = some r.toJson := by
  rw [jsonLine, Json.compact, String.toList_ofList, Json.read?_chars]

/-- **Events with the same line** have the same watch, cookie and mask, and the same name in the object. -/
theorem fields_of_jsonLine {a b : Record} (h : a.jsonLine = b.jsonLine) :
    a.watch = b.watch ∧ a.cookie = b.cookie ∧ a.mask = b.mask ∧ a.nameValue = b.nameValue := by
  have hobject : a.toJson = b.toJson := by
    have hchars : a.toJson.chars = b.toJson.chars := String.ofList_injective h
    exact Json.chars_injective hchars
  rw [toJson_eq, toJson_eq] at hobject
  simp only [Json.object.injEq, List.cons.injEq, Prod.mk.injEq, Json.integer.injEq, true_and, and_true,
    Int.natCast_inj, UInt32.toNat_inj, Int32.toInt_inj] at hobject
  obtain ⟨hcookie, -, hmask, hname, hnumber⟩ := hobject
  exact ⟨congrArg Watch.mk hnumber, hcookie, congrArg Mask.mk hmask, hname⟩

/-- **Textual events with the same line are the same event.** -/
theorem eq_of_jsonLine {a b : Record} (ha : a.Textual) (hb : b.Textual) (h : a.jsonLine = b.jsonLine) :
    a = b := by
  obtain ⟨hwatch, hcookie, hmask, hvalue⟩ := fields_of_jsonLine h
  have hname : a.name = b.name := by
    rcases hname : a.name with _ | name
    · rw [nameValue_eq_null.2 hname] at hvalue
      exact (nameValue_eq_null.1 hvalue.symm).symm
    rcases hname' : b.name with _ | name'
    · rw [nameValue_eq_null.2 hname'] at hvalue
      rw [nameValue_eq_null.1 hvalue] at hname
      cases hname
    · obtain ⟨s, rfl⟩ := ha name hname
      obtain ⟨s', rfl⟩ := hb name' hname'
      simp only [nameValue, hname, hname', Utf8.lossy_encode, Json.text.injEq] at hvalue
      rw [hvalue]
  cases a
  cases b
  simp only [Record.mk.injEq]
  exact ⟨hwatch, hmask, hcookie, hname⟩

/-- **JSON lines are well formed and faithful.** The bytes of a line are those of a text and none is a
control character. The text is read as one object of five members, which say the watch, the cookie and the
whole mask, the names of the kinds, and the name: null exactly if there is none, and else the characters that
its bytes are taken apart into, which is possible in one way only, with U+FFFD for each gap. Of textual
events, each has a line of its own. -/
theorem jsonLine_faithful (r : Record) :
    (∀ b ∈ Format.json.render r, 0x20 ≤ b) ∧
      Utf8.decode? (Format.json.render r) = some r.jsonLine ∧
      (∃ name,
        Json.read? r.jsonLine.toList = some (.object
          [("cookie", .integer r.cookie.toNat), ("kinds", .list (r.mask.names.map .text)),
           ("mask", .integer r.mask.bits.toNat), ("name", name),
           ("wd", .integer r.watch.number.toInt)]) ∧
        (name = .null ↔ r.name = none) ∧
        ∀ bytes, r.name = some bytes → ∃ parts,
          (∀ others, Utf8.Parts bytes others ↔ others = parts) ∧
          name = .text (String.ofList (parts.map (·.getD '\uFFFD')))) ∧
      ∀ r' : Record, r.Textual → r'.Textual → r.jsonLine = r'.jsonLine → r = r' := by
  have hread : Json.read? r.jsonLine.toList = some (.object
      [("cookie", .integer r.cookie.toNat), ("kinds", .list (r.mask.names.map .text)),
       ("mask", .integer r.mask.bits.toNat), ("name", r.nameValue),
       ("wd", .integer r.watch.number.toInt)]) := by
    rw [read?_jsonLine, toJson_eq]
  exact ⟨fun _ => le_of_mem_jsonLine, Utf8.decode?_encode r.jsonLine,
    ⟨r.nameValue, hread, nameValue_eq_null, fun _ => nameValue_some⟩, fun _ => eq_of_jsonLine⟩

/-- A newline in a name is written as a backslash and a letter, and is not taken for these two: an event that
is named by a newline and one that is named by the two characters have different lines. -/
theorem jsonLine_faithful_newline :
    let newline : Record := ⟨⟨1⟩, ⟨0x100⟩, 0, some (Utf8.encode "\n")⟩
    let letters : Record := ⟨⟨1⟩, ⟨0x100⟩, 0, some (Utf8.encode "\\n")⟩
    newline.Textual ∧ letters.Textual ∧ newline.jsonLine ≠ letters.jsonLine := by
  intro newline letters
  have hnewline : newline.Textual := fun name hname => ⟨"\n", (Option.some.inj hname).symm⟩
  have hletters : letters.Textual := fun name hname => ⟨"\\n", (Option.some.inj hname).symm⟩
  refine ⟨hnewline, hletters, fun h => ?_⟩
  have hsame : newline = letters := (jsonLine_faithful newline).2.2.2 letters hnewline hletters h
  exact absurd hsame (by decide)

end Record
end Inotify
