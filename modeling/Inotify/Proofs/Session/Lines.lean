/- # Two ways to write a line

A line of text is printed in pieces, a line of bytes as one piece; both end with a line end of their own. As
the bytes of joined texts are the joined bytes, either way is the write of the whole line
(`Session.print_join`): the same bytes are taken, the same faults are met, and the outcome is the same,
wherever the text is cut and wherever a fault waits, also right in front of the line end.
-/

import Inotify.Proofs.Sink.Attempts

namespace Inotify

/-- **The bytes of joined texts are their bytes, joined.** -/
theorem Utf8.encode_join (ss : List String) : encode (String.join ss) = (ss.map encode).flatten := by
  induction ss with
  | nil => rfl
  | cons s ss ih => rw [String.join_cons, encode_append, ih, List.map_cons, List.flatten_cons]

namespace Session

/-- **Printing a text in pieces is printing its bytes.** -/
theorem print_join (s : Session) (pieces : List String) :
    s.print pieces = s.printBytes (Utf8.encode (String.join pieces)) := by
  rw [print_eq, printBytes_eq, Utf8.encode_join, lineOf]

/-- **A line is written in the same way in pieces and as bytes**, however the text is cut, whatever the sink
is, and however much it takes at a time. Of the session only the sink changes. Either the line is taken with
its line end, and nothing but interruptions was in the way, or a proper beginning of it is, up to the first
fault that is no interruption, and that fault is the failure. -/
theorem print_agrees (s : Session) (pieces : List String) (room room' : Sink → Bytes → Nat) :
    let text := Utf8.encode (String.join pieces)
    s.print pieces = s.printBytes text ∧
    ∃ result sink, s.print pieces = (result.mapError .output, { s with sink }) ∧
      s.sink.persistAll room (pieces.map Utf8.encode ++ [[newline]]) = (result, sink) ∧
      s.sink.persistAll room' [text, [newline]] = (result, sink) ∧
      (result = .ok () ∧ sink.output = s.sink.output ++ (text ++ [newline]) ∧
          (∀ front, front <+: text ++ [newline] → front ≠ text ++ [newline] →
            (s.sink.writeAll front).2.nextFault = none) ∨
        ∃ front fault, front <+: text ++ [newline] ∧ front ≠ text ++ [newline] ∧
          s.sink.StruckAfter front fault ∧ result = .error fault ∧
          sink.output = s.sink.output ++ front) := by
  intro text
  have hpieces : (pieces.map Utf8.encode ++ [[newline]]).flatten = text ++ [newline] := by
    rw [List.flatten_append, ← Utf8.encode_join]
    rfl
  refine ⟨print_join s pieces, (s.sink.writeAll (text ++ [newline])).1,
    (s.sink.writeAll (text ++ [newline])).2, ?_, ?_, ?_, s.sink.writeAll_cases _⟩
  · rw [print_join, printBytes_eq, written]
  · rw [Sink.persistAll_eq_writeAll, hpieces]
  · rw [Sink.persistAll_eq_writeAll]
    rfl

/-- Faults of every kind in front of a line end: an interruption, a write that takes nothing, and a fault of
the system behind it. A text of three bytes in two pieces is taken up to its line end, either way. -/
example :
    let faults : List SinkFault :=
      [⟨0, 3, .system 4, false⟩, ⟨0, 3, .writeZero, true⟩, ⟨0, 3, .system 28, false⟩]
    let s : Session := { channel := { descriptor := 3 }, sink := { faults } }
    (s.print ["", "ab", "c"]).1 = .error (.output .writeZero) ∧
      (s.print ["", "ab", "c"]).2.sink.output = [0x61, 0x62, 0x63] := by
  decide

end Session
end Inotify
