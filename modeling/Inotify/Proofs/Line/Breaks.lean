/- # Lines and newlines

What a loop prints about the events of a read is lines if it is cut behind every newline, and there is one way
to cut it (`Lines.unique`). One line for each event is what is wanted. A JSON line holds no newline
(`Record.newline_notMem_jsonLine`). A text line holds one exactly if the name does
(`Record.newline_mem_textLine`), as the name is copied: it ends the line there, and what follows in the name
makes lines of its own (`Format.lines_linesOf`). These can be any lines, also the line of an event that has
not happened.

So what is printed about a read is one line for each event if the format is JSON or no name holds a newline,
and not otherwise (`Loop.step_lines`).
-/

import Inotify.Proofs.Line.Json
import Inotify.Proofs.Line.Text
import Inotify.Proofs.Loop.Frame
import Inotify.Proofs.Record.Reading

namespace Inotify

/-! ## Lines -/

/-- **Bytes that are these lines**: in none is a newline, and behind each there is one. -/
structure Lines (bytes : Bytes) (lines : List Bytes) : Prop where
  /-- The bytes are the lines, with their ends. -/
  eq : bytes = lines.flatMap (· ++ [newline])
  /-- A line ends at the first newline. -/
  newline_notMem : ∀ line ∈ lines, newline ∉ line

/-- **Lines with their ends** are lines with newlines between them, and one behind the last. -/
theorem flatMap_newline {lines : List Bytes} (h : lines ≠ []) :
    lines.flatMap (· ++ [newline]) = [newline].intercalate lines ++ [newline] := by
  induction lines with
  | nil => exact absurd rfl h
  | cons line lines ih =>
    by_cases hnil : lines = []
    · simp [hnil]
    · rw [List.flatMap_cons, ih hnil, List.intercalate_cons_of_ne_nil hnil]
      simp

namespace Lines

variable {bytes bytes' : Bytes} {lines lines' : List Bytes}

/-- **Bytes are lines in one way only.** -/
theorem unique (h : Lines bytes lines) (h' : Lines bytes lines') : lines = lines' := by
  have heq : lines.flatMap (· ++ [newline]) = lines'.flatMap (· ++ [newline]) := h.eq.symm.trans h'.eq
  by_cases hnil : lines = []
  · subst hnil
    rcases lines' with _ | ⟨line, more⟩
    · rfl
    · simp at heq
  by_cases hnil' : lines' = []
  · subst hnil'
    rcases lines with _ | ⟨line, more⟩
    · rfl
    · simp at heq
  rw [flatMap_newline hnil, flatMap_newline hnil'] at heq
  have hjoined := List.append_cancel_right heq
  rw [← List.splitOn_intercalate newline h.newline_notMem hnil, hjoined,
    List.splitOn_intercalate newline h'.newline_notMem hnil']

/-- **Lines behind lines are lines.** -/
theorem append (h : Lines bytes lines) (h' : Lines bytes' lines') :
    Lines (bytes ++ bytes') (lines ++ lines') where
  eq := by rw [h.eq, h'.eq, List.flatMap_append]
  newline_notMem line hline := (List.mem_append.1 hline).elim (h.newline_notMem line) (h'.newline_notMem line)

/-- **What has no newline is one line.** -/
theorem single {line : Bytes} (h : newline ∉ line) : Lines (line ++ [newline]) [line] where
  eq := by simp
  newline_notMem := by simpa using h

/-- **What is in front of the first newline** belongs to the first line. -/
theorem prepend {front line : Bytes} (hfront : newline ∉ front) (h : Lines bytes (line :: lines)) :
    Lines (front ++ bytes) ((front ++ line) :: lines) where
  eq := by rw [h.eq, List.flatMap_cons, List.flatMap_cons]; simp
  newline_notMem := by
    obtain ⟨hline, hlines⟩ := List.forall_mem_cons.1 h.newline_notMem
    refine List.forall_mem_cons.2 ⟨?_, hlines⟩
    simp [hfront, hline]

/-- **Bytes are the lines between their newlines**, if one more ends the last. -/
theorem splitOn (bytes : Bytes) : Lines (bytes ++ [newline]) (bytes.splitOn newline) := by
  induction bytes with
  | nil => exact single List.not_mem_nil
  | cons b bytes ih =>
    by_cases hb : b = newline
    · rw [hb, List.splitOn_cons_eq_if_modifyHead, if_pos (beq_self_eq_true newline)]
      have hempty : Lines [newline] [[]] := single List.not_mem_nil
      exact hempty.append ih
    · have hne : ¬(b == newline) = true := by simpa using hb
      have hfront : newline ∉ [b] := by simpa using Ne.symm hb
      obtain ⟨line, lines, hlines⟩ := List.exists_cons_of_ne_nil (List.splitOn_ne_nil newline bytes)
      rw [List.splitOn_cons_eq_if_modifyHead, if_neg hne, hlines, List.modifyHead_cons]
      rw [hlines] at ih
      exact ih.prepend hfront

end Lines

namespace Record

/-- **Where no part of a text breaks the line**, the text does not. -/
theorem newline_notMem_encode {text s : String} (htext : '\n' ∉ text.toList) (hs : '\n' ∉ s.toList) :
    newline ∉ Utf8.encode (text ++ s) := by
  rw [Utf8.mem_encode_iff (c := '\n') (by decide) rfl, String.toList_append, List.mem_append, not_or]
  exact ⟨htext, hs⟩

/-- **A text line holds a newline exactly if the name does.** -/
theorem newline_mem_textLine {r : Record} :
    newline ∈ r.textLine ↔ ∃ name, r.name = some name ∧ newline ∈ name := by
  have hwatch : newline ∉ Utf8.encode ("Inotify event: wd = 0x" ++ r.watch.hex) :=
    newline_notMem_encode (by decide) fun h => absurd (TextLine.isWord_hex h) (by decide)
  have hcookie : newline ∉ Utf8.encode ("; cookie = 0x" ++ Numeral.hex r.cookie.toNat) :=
    newline_notMem_encode (by decide) fun h => absurd (TextLine.isWord_hex h) (by decide)
  have hkinds : newline ∉ Utf8.encode ("; mask = " ++ " ".intercalate r.mask.names) :=
    newline_notMem_encode (by decide) fun h => absurd (TextLine.isWord_names h) (by decide)
  have hmark : newline ∉ Utf8.encode "; name = " := by decide
  have hoptional : newline ∉
      if r.cookie = 0 then [] else Utf8.encode ("; cookie = 0x" ++ Numeral.hex r.cookie.toNat) := by
    split
    · exact List.not_mem_nil
    · exact hcookie
  rw [textLine]
  rcases r.name with _ | name
  · simp only [List.mem_append, hwatch, hoptional, hkinds, List.not_mem_nil, or_self, reduceCtorEq,
      false_and, exists_false]
  · simp only [List.mem_append, hwatch, hoptional, hkinds, hmark, false_or, Option.some.injEq,
      exists_eq_left']

/-- **A JSON line holds no newline**, whatever the name is. -/
theorem newline_notMem_jsonLine (r : Record) : newline ∉ Format.json.render r := by
  intro h
  exact absurd (le_of_mem_jsonLine h) (by decide)

/-- **A name is copied to the end of its text line.** -/
theorem textLine_name (r : Record) (name : Bytes) :
    { r with name := some name }.textLine = { r with name := some [] }.textLine ++ name := by
  simp [textLine]

end Record

namespace Format

/-- **The lines that an event comes to.** In text its name ends with the line at its first newline, and each
further part of the name is a line by itself. -/
def linesOf : Format → Record → List Bytes
  | json, r => [render json r]
  | text, r =>
    match r.name with
    | none => [r.textLine]
    | some name =>
      { r with name := some ((name.splitOn newline).headD []) }.textLine :: (name.splitOn newline).tail

/-- **An event comes to its lines.** -/
theorem lines_linesOf (format : Format) (r : Record) :
    Lines (format.render r ++ [newline]) (format.linesOf r) := by
  cases format with
  | json => exact Lines.single r.newline_notMem_jsonLine
  | text =>
    rw [linesOf, render]
    rcases hname : r.name with _ | name
    · have hnone : newline ∉ r.textLine := by
        rw [Record.newline_mem_textLine]
        rintro ⟨name, hsome, -⟩
        rw [hname] at hsome
        cases hsome
      exact Lines.single hnone
    · obtain ⟨line, lines, hlines⟩ := List.exists_cons_of_ne_nil (List.splitOn_ne_nil newline name)
      have hempty : newline ∉ { r with name := some [] }.textLine := by
        rw [Record.newline_mem_textLine]
        rintro ⟨_, ⟨⟩, h⟩
        cases h
      have hcut := Lines.splitOn name
      rw [hlines] at hcut
      have hself : r.textLine = { r with name := some [] }.textLine ++ name := by
        rw [← Record.textLine_name, ← hname]
      dsimp only
      rw [hlines, List.headD_cons, List.tail_cons, Record.textLine_name, hself, List.append_assoc]
      exact hcut.prepend hempty

/-- **Events come to their lines, one after the other.** -/
theorem lines_flatMap (format : Format) (rs : List Record) :
    Lines (format.lines rs) (rs.flatMap format.linesOf) := by
  induction rs with
  | nil => exact ⟨rfl, by simp⟩
  | cons r rs ih =>
    rw [lines, List.flatMap_cons, List.flatMap_cons]
    exact (format.lines_linesOf r).append ih

/-- **Whether a rendering breaks.** -/
theorem newline_mem_render {format : Format} {r : Record} :
    newline ∈ format.render r ↔ format = .text ∧ ∃ name, r.name = some name ∧ newline ∈ name := by
  cases format with
  | text => simpa [render] using Record.newline_mem_textLine
  | json => simpa using r.newline_notMem_jsonLine

/-- **One line for each event**, exactly if no rendering breaks. -/
theorem lines_map_iff {format : Format} {rs : List Record} :
    Lines (format.lines rs) (rs.map format.render) ↔
      format = .json ∨ ∀ r ∈ rs, ∀ name, r.name = some name → newline ∉ name := by
  have hlines : Lines (format.lines rs) (rs.map format.render) ↔ ∀ r ∈ rs, newline ∉ format.render r := by
    refine ⟨fun h r hr => h.newline_notMem _ (List.mem_map_of_mem hr), fun h => ⟨?_, ?_⟩⟩
    · rw [lines, List.flatMap_map]
    · simpa using h
  rw [hlines]
  simp only [newline_mem_render, not_and, not_exists]
  constructor
  · intro h
    cases format with
    | json => exact .inl rfl
    | text => exact .inr fun r hr => h r hr rfl
  · rintro (rfl | h) r hr htext
    · cases htext
    · exact h r hr

end Format

namespace Loop

/-- **What is printed about the events of a read.** If a read is decoded, the loop goes on, and what it has
printed by then is the line about the read and the lines that its events come to. These are one line for each
event exactly if the format is JSON or no name holds a newline. -/
theorem step_lines {l : Loop} {count : Nat} {rs : List Record} (hsink : l.session.sink.Unfailing)
    (hask : l.ask.1 = false) (hread : l.ask.2.read.1 = .ok count)
    (hdecode : decode l.ask.2.read.2.buffer count = .ok rs) :
    ∃ l' printed, l.step = .continues l' ∧ l.run = l'.run ∧
      l'.session.sink.output = l.session.sink.output ++ l.session.readLine count ++ printed ∧
      (∀ lines, Lines printed lines ↔ lines = rs.flatMap l.format.linesOf) ∧
      (Lines printed (rs.map l.format.render) ↔
        l.format = .json ∨ ∀ r ∈ rs, ∀ name, r.name = some name → newline ∉ name) := by
  obtain ⟨hvalid, hpacked⟩ := decode_eq_ok_iff.1 hdecode
  have hitems : events l.ask.2.read.2.buffer count = rs.map .ok := by
    rw [events_packed hvalid hpacked (List.append_nil _).symm .nothing]
    exact List.append_nil _
  have haccount : l.ask.2.read.2.account count = l.session.readLine count ++ l.format.lines rs := by
    rw [account, hitems, leading_records]
    rfl
  have hasked : l.ask = (false, l.ask.2) := Prod.ext hask rfl
  have hanswered : l.ask.2.read = (.ok count, l.ask.2.read.2) := Prod.ext hread rfl
  -- Asking and reading leave the sink alone, so it is as unfailing as before.
  have hwritten : (l.ask.2.read.2.session.sink.writeAll (l.ask.2.read.2.account count)).1 = .ok () :=
    hsink _
  have hstep : l.step = .continues
      { l.ask.2.read.2 with session := l.ask.2.read.2.session.written (l.ask.2.read.2.account count) } := by
    rw [step, hasked]
    dsimp only
    rw [hanswered]
    dsimp only
    rw [print_eq, hwritten, hitems, firstFault_records]
  refine ⟨_, l.format.lines rs, hstep, ?_, ?_, fun lines => ⟨fun h => ?_, ?_⟩, Format.lines_map_iff⟩
  · rw [run_eq, run_eq, iterate_of_continues hstep]
  · show (l.ask.2.read.2.session.sink.writeAll (l.ask.2.read.2.account count)).2.output = _
    rw [Sink.output_writeAll hwritten, haccount, ← List.append_assoc]
    rfl
  · exact h.unique (l.format.lines_flatMap rs)
  · rintro rfl
    exact l.format.lines_flatMap rs

/-- The event of a file that is created under a name of two lines, the second of which is the line of another
event. -/
def forging : Record :=
  ⟨⟨1⟩, ⟨0x100⟩, 0, some (Utf8.encode "x\nInotify event: wd = 0x1; mask = IN_DELETE; name = y")⟩

/-- A loop that reads this event. -/
def forgingLoop : Loop :=
  start
    { channel := { reads := [{ result := .ok ⟨forging.encode .bare, 69⟩ }] }
      sink := {}
      watch := some ⟨1⟩ }
    80 .text (.schedule fun _ => false) {}

/-- The hypotheses of `step_lines` are satisfiable: the loop goes on, and the event has come to the two lines
of its name. -/
theorem step_lines_forging :
    forgingLoop.session.sink.Unfailing ∧ forgingLoop.ask.1 = false ∧
      forgingLoop.ask.2.read.1 = .ok 69 ∧
      decode forgingLoop.ask.2.read.2.buffer 69 = .ok [forging] ∧
      ∃ l' printed, forgingLoop.step = .continues l' ∧ Lines printed
        [Utf8.encode "Inotify event: wd = 0x1; mask = IN_CREATE; name = x",
          Utf8.encode "Inotify event: wd = 0x1; mask = IN_DELETE; name = y"] := by
  have hsink : forgingLoop.session.sink.Unfailing := Sink.unfailing_of_interruptions (by decide)
  have hask : forgingLoop.ask.1 = false := rfl
  have hread : forgingLoop.ask.2.read.1 = .ok 69 := by decide +kernel
  have hdecode : decode forgingLoop.ask.2.read.2.buffer 69 = .ok [forging] := by decide +kernel
  obtain ⟨l', printed, hstep, -, -, hlines, -⟩ := step_lines hsink hask hread hdecode
  exact ⟨hsink, hask, hread, hdecode, l', printed, hstep, (hlines _).2 (by decide +kernel)⟩

/-- **An event can be forged.** One event is read and decoded, and what is printed about it is what would be
printed about two, one of which has not happened; so it is not one line, the rendering of the event. -/
theorem event_forged :
    decode forgingLoop.ask.2.read.2.buffer 69 = .ok [forging] ∧
      forgingLoop.step.loop.session.sink.output = forgingLoop.session.readLine 69 ++
        Format.text.lines [⟨⟨1⟩, ⟨0x100⟩, 0, some [0x78]⟩, ⟨⟨1⟩, ⟨0x200⟩, 0, some [0x79]⟩] ∧
      ¬Lines (Format.text.lines [forging]) ([forging].map Format.text.render) := by
  refine ⟨by decide +kernel, by decide +kernel, fun h => ?_⟩
  exact absurd (h.newline_notMem _ (List.mem_singleton_self _)) (by decide +kernel)

end Loop
end Inotify
