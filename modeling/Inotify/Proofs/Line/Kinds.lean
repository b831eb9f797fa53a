/- # The kinds in an event line

Both formats list the kinds of the mask by name. In a text line the names are the words of the field behind
`mask =` (`TextLine.kinds?`), in a JSON line the texts of the member `kinds`. Reading either gives the names
of the mask back, in printing order, whatever else the event says (`TextLine.kinds?_textLine`,
`Record.kinds?_jsonLine`).
-/

import Inotify.Proofs.Line.Json
import Inotify.Proofs.Line.Text

namespace Inotify

namespace TextLine

/-- The words of a field. -/
def words? (bytes : Bytes) : Option (List String) :=
  (Utf8.decode? bytes).map fun s => ((s.toList.splitOn ' ').map String.ofList).filter (· ≠ "")

/-- **The names of the kinds that a text line lists.** -/
def kinds? (line : Bytes) : Option (List String) := do
  let rest ← behind? "Inotify event: wd = 0x" line
  let (_, rest) ← cookie? (field rest).2
  let rest ← behind? "; mask = " rest
  words? (field rest).1

/-- **The names of the kinds read as these names.** -/
theorem words?_names (m : Mask) : words? (Utf8.encode (" ".intercalate m.names)) = some m.names := by
  rw [words?, Utf8.decode?_encode, Option.map_some]
  by_cases hnone : m.names = []
  · rw [hnone]
    decide
  · rw [splitOn_names hnone]
    refine congrArg some (List.filter_eq_self.2 fun name hname => ?_)
    obtain ⟨k, -, rfl⟩ := List.mem_map.1 hname
    have hword : ∀ k : Kind, k.name ≠ "" := by
      intro k
      cases k <;> decide
    simpa using hword k

/-- **A text line lists the names of the kinds.** -/
theorem kinds?_textLine (r : Record) : kinds? r.textLine = some r.mask.names := by
  rw [textLine_eq, kinds?, behind?_append]
  simp only [Option.bind_eq_bind, Option.bind_some]
  rw [field_cookieOnward, cookie?_cookieOnward]
  simp only [Option.bind_some]
  rw [kindsOnward, behind?_append]
  simp only [Option.bind_some]
  rw [field_nameOnward, words?_names]

end TextLine

namespace Record

/-- The member `kinds` of the object that a JSON line writes. -/
def kinds? (line : String) : Option Json :=
  match Json.read? line.toList with
  | some (.object members) => members.lookup "kinds"
  | _ => none

/-- **A JSON line lists the names of the kinds.** -/
theorem kinds?_jsonLine (r : Record) : kinds? r.jsonLine = some (.list (r.mask.names.map .text)) := by
  rw [kinds?, read?_jsonLine, toJson_eq]
  rfl

end Record

namespace Mask

/-- **The names of the kinds are the declared bits of the mask.** They are listed in printing order, each
once: a kind is among them exactly if its bit is set, and their bits together are the declared bits of the
mask. Bits of no kind add no name, hide none and move none, so masks have the same names exactly if they
have the same declared bits. Up to their order the names are those of the kinds that are found by taking
bits away, and both formats of an event line list just them. -/
theorem names_agree (m : Mask) :
    m.names.Nodup ∧
    m.names.Sublist (Kind.printed.map Kind.name) ∧
    (∀ k : Kind, k.name ∈ m.names ↔ m.bits &&& k.bit ≠ 0) ∧
    (ofNames m.names).bits = m.bits &&& all.bits ∧
    (∀ n : Mask, (m.union n.undeclared).names = m.names ∧ (m.diff n.undeclared).names = m.names) ∧
    m.names.Perm ((m.walk m Kind.declared).map fun k => "IN_" ++ k.label) ∧
    (∀ n : Mask, m.names = n.names ↔ m.bits &&& all.bits = n.bits &&& all.bits) ∧
    ∀ r : Record, TextLine.kinds? { r with mask := m }.textLine = some m.names ∧
      Record.kinds? { r with mask := m }.jsonLine = some (.list (m.names.map .text)) := by
  have hnodup : m.names.Nodup := m.names_sublist.nodup (by decide)
  refine ⟨hnodup, m.names_sublist, fun k => (m.name_mem_names k).trans (m.has_iff k), ?_, fun n => ?_,
    m.names_perm_walk, fun n => ?_, fun r => ?_⟩
  · rw [ofNames_names]
    rfl
  · obtain ⟨hunion, hdiff⟩ := m.truncate_of_undeclared n
    exact ⟨(names_eq_iff _ _).2 hunion, (names_eq_iff _ _).2 hdiff⟩
  · rw [names_eq_iff, truncate, truncate, inter, inter, Mask.mk.injEq]
  · exact ⟨TextLine.kinds?_textLine { r with mask := m }, Record.kinds?_jsonLine { r with mask := m }⟩

/-- Among undeclared bits, two kinds that are printed in another order than they are declared. -/
example : names ⟨0x8003100a⟩ = ["IN_CLOSE_WRITE", "IN_MODIFY"] := by decide

end Mask
end Inotify
