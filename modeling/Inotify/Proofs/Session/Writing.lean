/- # What a session writes

A line is its pieces and a line end, however it is handed over: printing pieces and printing bytes are
both one write of the whole line (`Session.print_eq`, `Session.printBytes_eq`). A write that succeeds
has been taken whole (`Sink.output_writeAll`).

A sink is *unfailing* if no write to it fails. It stays so whatever is written, as a write after a
write is a part of a longer one. The lines of the events of a read are one write too
(`Session.printEvents_eq`): they are printed up to the first fault among the events, and that fault is
the failure unless the write itself fails.
-/

import Inotify.Loop
import Inotify.Proofs.Record.Reading

namespace Inotify

namespace Sink

/-- **A sink has taken what was written to it**, if the write succeeds. -/
theorem output_writeAll {s : Sink} {bs : Bytes} (h : (s.writeAll bs).1 = .ok ()) :
    (s.writeAll bs).2.output = s.output ++ bs := by
  induction bs generalizing s with
  | nil => exact (List.append_nil _).symm
  | cons b bs ih =>
    rw [writeAll] at h ⊢
    split at h
    · cases h
    · next faults heq =>
      rw [ih h, output_accept]
      simp [output]

/-- **A sink to which no write fails.** -/
def Unfailing (s : Sink) : Prop := ∀ bs, (s.writeAll bs).1 = .ok ()

/-- **A write splits where its bytes split**, if the first part succeeds. -/
theorem writeAll_append_of_ok {s : Sink} {xs : Bytes} (ys : Bytes)
    (h : (s.writeAll xs).1 = .ok ()) :
    s.writeAll (xs ++ ys) = (s.writeAll xs).2.writeAll ys := by
  rw [writeAll_append]
  split
  · next heq => rw [heq]
  · next heq =>
    rw [heq] at h
    cases h

/-- **A write that fails in its first part is that part**: nothing behind it is tried. -/
theorem writeAll_append_of_error {s : Sink} {xs : Bytes} (ys : Bytes) {fault : IoFault}
    (h : (s.writeAll xs).1 = .error fault) : s.writeAll (xs ++ ys) = s.writeAll xs := by
  rw [writeAll_append]
  split
  · next heq =>
    rw [heq] at h
    cases h
  · next heq => rw [heq]

/-- **A write that succeeds has succeeded in its first part.** -/
theorem writeAll_ok_of_append {s : Sink} {xs ys : Bytes} (h : (s.writeAll (xs ++ ys)).1 = .ok ()) :
    (s.writeAll xs).1 = .ok () := by
  cases hxs : (s.writeAll xs).1 with
  | ok _ => rfl
  | error fault =>
    rw [writeAll_append_of_error ys hxs, hxs] at h
    cases h

/-- **An unfailing sink stays unfailing.** -/
theorem Unfailing.writeAll {s : Sink} (h : s.Unfailing) (xs : Bytes) :
    (s.writeAll xs).2.Unfailing := fun ys => by
  rw [← writeAll_append_of_ok ys (h xs)]
  exact h (xs ++ ys)

/-- The sink after lines are handed to it one by one. One that fails keeps no other from being tried. -/
def offer (s : Sink) (lines : List Bytes) : Sink :=
  lines.foldl (fun s line => (s.writeAll line).2) s

/-- **An unfailing sink takes all lines offered to it.** -/
theorem output_offer {s : Sink} (h : s.Unfailing) (lines : List Bytes) :
    (s.offer lines).output = s.output ++ lines.flatten := by
  induction lines generalizing s with
  | nil => exact (List.append_nil _).symm
  | cons line lines ih =>
    show ((s.writeAll line).2.offer lines).output = _
    rw [ih (h.writeAll line), output_writeAll (h line), List.flatten_cons, List.append_assoc]

end Sink

namespace SinkFault

/-- **Interruptions are all that strikes, so nothing does.** -/
theorem strike_interruptions (line column : Nat) {fs : List SinkFault}
    (h : ∀ f ∈ fs, f.isInterruption = true) :
    (strike line column fs).1 = none ∧ ∀ f ∈ (strike line column fs).2, f.isInterruption = true := by
  induction fs with
  | nil => exact ⟨rfl, h⟩
  | cons f fs ih =>
    obtain ⟨hf, hfs⟩ := List.forall_mem_cons.1 h
    obtain ⟨hnone, hrest⟩ := ih hfs
    rw [strike]
    split
    · exact ⟨hnone, hrest⟩
    · exact ⟨hnone, List.forall_mem_cons.2 ⟨hf, hrest⟩⟩

end SinkFault

/-- **A sink whose faults are interruptions is unfailing.** -/
theorem Sink.unfailing_of_interruptions {s : Sink}
    (h : ∀ f ∈ s.faults, f.isInterruption = true) : s.Unfailing := fun bs => by
  induction bs generalizing s with
  | nil => rfl
  | cons b bs ih =>
    obtain ⟨hnone, hrest⟩ := SinkFault.strike_interruptions s.line s.column h
    rw [Sink.writeAll]
    split
    · next heq => cases hnone.symm.trans (congrArg Prod.fst heq)
    · next heq =>
      rw [heq] at hrest
      exact ih hrest

/-- The lines of events, each with its line end. -/
def Format.lines (format : Format) (rs : List Record) : Bytes :=
  rs.flatMap fun r => format.render r ++ [newline]

namespace Session

/-- The bytes of a line that is given in pieces. -/
def lineOf (pieces : List String) : Bytes := (pieces.map Utf8.encode).flatten ++ [newline]

/-- The line that says how much was read. -/
def readLine (s : Session) (count : Nat) : Bytes :=
  lineOf ["Read ", Numeral.decimal count, " bytes from inotify file descriptor 0x",
    Numeral.hexWord s.channel.descriptor, "."]

/-- The first line of a run. -/
def bannerLine (pid : Nat) (path : Bytes) (descriptor : Int32) (watch : Watch) : Bytes :=
  lineOf ["PID ", Numeral.decimal pid, " monitoring \"", Utf8.lossy path,
    "\" with inotify file descriptor 0x", Numeral.hexWord descriptor,
    " and inotify watch descriptor 0x", watch.hex, "."]

/-- The session after a write, as far as the write was taken. -/
def written (s : Session) (bs : Bytes) : Session := { s with sink := (s.sink.writeAll bs).2 }

/-- **Writing twice is writing once**, if the first part succeeds. -/
theorem written_append {s : Session} {xs : Bytes} (ys : Bytes) (h : (s.sink.writeAll xs).1 = .ok ()) :
    s.written (xs ++ ys) = (s.written xs).written ys := by
  rw [written, Sink.writeAll_append_of_ok ys h]
  rfl

/-- **Printing pieces writes their line.** -/
theorem print_eq (s : Session) (pieces : List String) :
    s.print pieces =
      ((s.sink.writeAll (lineOf pieces)).1.mapError .output, s.written (lineOf pieces)) := by
  have hflat : (pieces.map Utf8.encode ++ [[newline]]).flatten = lineOf pieces := by
    rw [List.flatten_append, lineOf]
    rfl
  rw [print, Sink.writePieces_eq_writeAll, hflat]
  rfl

/-- **Mentioning pieces writes their line**, whatever comes of it. -/
theorem mention_eq (s : Session) (pieces : List String) :
    s.mention pieces = s.written (lineOf pieces) := by
  rw [mention, print_eq]

/-- **Announcing writes the first line**, about the watch that is held. -/
theorem announce_eq {s : Session} {watch : Watch} (h : s.watch = some watch) (pid : Nat)
    (path : Bytes) :
    s.announce pid path =
      ((s.sink.writeAll (bannerLine pid path s.channel.descriptor watch)).1.mapError .output,
        s.written (bannerLine pid path s.channel.descriptor watch)) := by
  rw [announce, print_eq, h, bannerLine]
  rfl

/-- **Printing bytes writes them and a line end.** -/
theorem printBytes_eq (s : Session) (line : Bytes) :
    s.printBytes line =
      ((s.sink.writeAll (line ++ [newline])).1.mapError .output, s.written (line ++ [newline])) := by
  rw [printBytes, written, Sink.writeAll_append]
  rcases s.sink.writeAll line with ⟨fault | ⟨⟩, sink⟩
  · rfl
  · rfl

/-- **Printing events is one write of their lines**, up to the first fault among them. If the write
fails that is the failure, else the fault is. -/
theorem printEvents_eq (s : Session) (format : Format) (items : List (Except DecodeFault Record)) :
    s.printEvents format items =
      match (s.sink.writeAll (format.lines (leading items))).1 with
      | .error fault => (some (.output fault), s.written (format.lines (leading items)))
      | .ok () => ((firstFault items).map .decode, s.written (format.lines (leading items))) := by
  induction items generalizing s with
  | nil => rfl
  | cons item items ih =>
    cases item with
    | error fault => rfl
    | ok r =>
      have hlines : format.lines (leading (.ok r :: items)) =
          (format.render r ++ [newline]) ++ format.lines (leading items) := rfl
      rw [printEvents, printBytes_eq, hlines]
      cases hline : (s.sink.writeAll (format.render r ++ [newline])).1 with
      | error fault =>
        rw [written, written, Sink.writeAll_append_of_error _ hline, hline]
        rfl
      | ok _ =>
        show (s.written (format.render r ++ [newline])).printEvents format items = _
        rw [ih, written_append _ hline, Sink.writeAll_append_of_ok _ hline]
        rfl

end Session
end Inotify
