/- # What is delivered is printed

A run whose setup succeeds, that is handed one batch by each read and then is interrupted, prints every
record of every batch, each once and in order. Three facts meet here. The read buffer is sized so that a
batch of as many records as it is meant for fits (`Options.bufferSize_eq`, `Record.length_batch_le`). A
batch that fits is read back as it was laid out, although the buffer still holds what a longer batch left
there (`Loop.Fed.itemsAt_eq`). And a read of whole records lets the loop go on, so by induction over the
batches what is printed is about all of them (`Loop.Fed.told_take`).
-/

import Inotify.Proofs.Loop.Script
import Inotify.Proofs.Monitor.BufferSize
import Inotify.Proofs.Record.Batch

namespace Inotify

/-- **The read buffer has the size that is asked for**, if that is not beyond what a word holds. -/
theorem Options.bufferSize_eq {o : Options} (hsome : 1 ≤ o.bufferRecords.toNat)
    (hless : o.bufferRecords.toNat * Record.maxSize < UInt64.size) :
    o.bufferSize.toNat = o.bufferRecords.toNat * Record.maxSize := by
  rw [toNat_bufferSize, intendedSize, Nat.max_eq_left hsome, Nat.mod_eq_of_lt hless]

/-- The answer to a read that delivers all of some bytes. -/
def ReadAnswer.delivering (bytes : Bytes) : ReadAnswer := { result := .ok ⟨bytes, bytes.length⟩ }

namespace Session

/-- What is printed about a read that delivers a batch. -/
def batchText (s : Session) (format : Format) (rs : List Record) : Bytes :=
  s.readLine (Record.batch rs).length ++ format.lines rs

end Session

namespace Loop

/-- **A loop that is handed batches**, one by each read, and then is interrupted. -/
structure Fed (l : Loop) (batches : List (List Record)) : Prop where
  /-- Each read delivers one batch, and no signal arrives meanwhile. -/
  answers : ∀ i rs, batches[i]? = some rs → l.answerAt i = .delivering (Record.batch rs)
  /-- The read after the last batch is interrupted. -/
  last : (l.answerAt batches.length).result = .error .interrupted
  /-- The loop stops for signals only. -/
  check : l.stopCheck = .signalled
  /-- None has been seen. -/
  calm : l.signals.sawStop = false
  /-- The batches are of records that can be delivered. -/
  deliverable : ∀ rs ∈ batches, ∀ r ∈ rs, r.Deliverable
  /-- Each batch fits into the buffer. -/
  fits : ∀ rs ∈ batches, (Record.batch rs).length ≤ l.buffer.length

namespace Fed

variable {l : Loop} {batches : List (List Record)}

/-- **No signal arrives** up to the last batch. -/
theorem signalsAfter_eq (h : l.Fed batches) {n : Nat} (hn : n ≤ batches.length) :
    l.signalsAfter n = l.signals := by
  induction n with
  | zero => rfl
  | succ n ih =>
    rw [signalsAfter, ih (Nat.le_of_succ_le hn), h.answers n _ (List.getElem?_eq_getElem hn)]
    rfl

/-- **Nothing tells the loop to stop** up to the last batch. -/
theorem stopsAfter_eq (h : l.Fed batches) {n : Nat} (hn : n ≤ batches.length) :
    l.stopsAfter n = false := by
  rw [stopsAfter, h.check]
  show (l.signalsAfter n).sawStop = false
  rw [h.signalsAfter_eq hn, h.calm]

/-- **What read `n` delivers** is batch `n`. -/
theorem result_eq (h : l.Fed batches) {n : Nat} {rs : List Record} (hrs : batches[n]? = some rs) :
    (l.answerAt n).result = .ok ⟨Record.batch rs, (Record.batch rs).length⟩ := by
  rw [h.answers n rs hrs]
  rfl

/-- **What read `n` leaves in the buffer is batch `n`**, whatever the batches before it left there. -/
theorem itemsAt_eq (h : l.Fed batches) {n : Nat} {rs : List Record} (hrs : batches[n]? = some rs) :
    l.itemsAt n (Record.batch rs).length = rs.map .ok := by
  have hmem : rs ∈ batches := List.mem_of_getElem? hrs
  have hbuffer : l.bufferAfter (n + 1) = Channel.fill (l.bufferAfter n) (Record.batch rs) := by
    rw [bufferAfter, h.result_eq hrs]
  rw [itemsAt, hbuffer]
  refine Record.events_fill_batch (h.deliverable rs hmem) ?_
  rw [length_bufferAfter]
  exact h.fits rs hmem

/-- **What is printed about read `n`** is about batch `n`. -/
theorem printedAt_eq (h : l.Fed batches) {n : Nat} {rs : List Record} (hrs : batches[n]? = some rs) :
    l.printedAt n = l.session.batchText l.format rs := by
  rw [printedAt_of_ok (h.result_eq hrs), h.itemsAt_eq hrs, leading_records, Session.batchText]

/-- **A read of a batch lets the loop go on.** -/
theorem passes (h : l.Fed batches) {n : Nat} (hn : n < batches.length) : l.Passes n := by
  have hrs := List.getElem?_eq_getElem hn
  refine ⟨h.stopsAfter_eq (Nat.le_of_lt hn), _, h.result_eq hrs, ?_⟩
  rw [h.itemsAt_eq hrs, firstFault_records]

/-- **The read after the last batch ends the loop**, cleanly. -/
theorem ends (h : l.Fed batches) : l.Ends batches.length (batches.length + 1) none :=
  .interrupted (h.stopsAfter_eq (Nat.le_refl _)) h.last

/-- **What is printed about the first reads** is about the first batches. -/
theorem told_take (h : l.Fed batches) {n : Nat} (hn : n ≤ batches.length) :
    l.told n = (batches.take n).flatMap (l.session.batchText l.format) := by
  induction n with
  | zero => rfl
  | succ n ih =>
    have hrs := List.getElem?_eq_getElem hn
    rw [told_succ, ih (Nat.le_of_succ_le hn), h.printedAt_eq hrs, List.take_add_one, hrs,
      List.flatMap_append, Option.toList_some, List.flatMap_singleton]

/-- **What the whole loop prints** is about all batches. -/
theorem told_eq (h : l.Fed batches) :
    l.told (batches.length + 1) = batches.flatMap (l.session.batchText l.format) := by
  have hlast : l.printedAt batches.length = [] := by rw [printedAt, h.last]
  rw [told_succ, hlast, List.append_nil, h.told_take (Nat.le_refl _), List.take_length]

/-- **The loop ends cleanly and has printed about all batches**, on a sink that never fails. -/
theorem iterate_spec (h : l.Fed batches) (hsink : l.session.sink.Unfailing) :
    l.iterate.1 = none ∧ l.iterate.2.session.sink.Unfailing ∧
      l.iterate.2.session.sink.output =
        l.session.sink.output ++ batches.flatMap (l.session.batchText l.format) := by
  have hiterate : l.iterate = (none, l.reached (batches.length + 1) (batches.length + 1)) :=
    iterate_of_ends (hsink _) (fun i hi => h.passes hi) h.ends
  rw [hiterate, ← h.told_eq]
  exact ⟨rfl, hsink.writeAll _, Sink.output_writeAll (hsink _)⟩

end Fed
end Loop

namespace Monitor

/-- **Surroundings that hand a run batches**: its setup succeeds, its sink never fails, and each read
delivers one batch until a read is interrupted. -/
structure Hands (m : Monitor) (around : Surroundings) (channel : Channel) (watch : Watch)
    (batches : List (List Record)) : Prop where
  /-- There is a channel. -/
  opening : around.opening = .ok channel
  /-- There is a watch. -/
  attaching : (channel.add m.target m.options.mask).1 = .ok watch
  /-- The handlers can be installed. -/
  installing : around.installing = .ok ()
  /-- No stop signal has been seen. -/
  calm : around.signals.sawStop = false
  /-- The sink takes all that is written to it. -/
  sink : around.sink.Unfailing
  /-- Behind the batches there is an interruption, with which the answers may end, too. -/
  reads : ∃ later, channel.reads =
      batches.map (fun rs => .delivering (Record.batch rs)) ++ later ∧
    (later.head?.getD .interrupted).result = .error .interrupted

variable {m : Monitor} {around : Surroundings} {channel : Channel} {watch : Watch}
  {batches : List (List Record)}

/-- **The loop of such a run is handed the batches.** -/
theorem Hands.fed (h : m.Hands around channel watch batches)
    (hdeliverable : ∀ rs ∈ batches, ∀ r ∈ rs, r.Deliverable)
    (hfits : ∀ rs ∈ batches, (Record.batch rs).length ≤ m.options.bufferSize.toNat) :
    (m.begun around channel watch).Fed batches := by
  obtain ⟨later, hreads, hlast⟩ := h.reads
  have hanswer : ∀ n, (m.begun around channel watch).answerAt n =
      (batches.map (fun rs => .delivering (Record.batch rs)) ++ later)[n]?.getD .interrupted := by
    intro n
    rw [← hreads]
    rfl
  exact {
    answers := fun i rs hrs => by
      have hi : i < batches.length := List.getElem?_eq_some_iff.1 hrs |>.1
      rw [hanswer, List.getElem?_append_left (by rwa [List.length_map]), List.getElem?_map, hrs]
      rfl
    last := by
      rw [hanswer, List.getElem?_append_right (by rw [List.length_map]), List.length_map,
        Nat.sub_self, ← List.head?_eq_getElem?]
      exact hlast
    check := rfl
    calm := h.calm
    deliverable := hdeliverable
    fits := fun rs hrs => by
      show _ ≤ (List.replicate m.options.bufferSize.toNat (0 : UInt8)).length
      rw [List.length_replicate]
      exact hfits rs hrs }

/-- **The whole of such a run**: its loop runs to the end and the session is released. -/
theorem Hands.run_eq (h : m.Hands around channel watch batches) :
    m.run around =
      ended (m.begun around channel watch).iterate.1 (m.begun around channel watch).iterate.2.session
        (m.begun around channel watch).iterate.2.signals :=
  SetUp.run_eq
    { opening := h.opening
      attaching := h.attaching
      installing := h.installing
      banner := h.sink (m.banner around channel watch) }

/-- **Every batch fits and is printed**, if no batch is of more records than the read buffer is meant
for. A run that is handed the batches prints its first line, then about each batch how many bytes were
read and one line for each of its records in order, then what it releases, and has no failure. -/
theorem run_delivered (m : Monitor) (batches : List (List Record))
    (hsome : 1 ≤ m.options.bufferRecords.toNat) (hmost : m.options.bufferRecords.toNat ≤ 1024)
    (hbatches : ∀ rs ∈ batches, rs.length ≤ m.options.bufferRecords.toNat ∧ ∀ r ∈ rs, r.Deliverable) :
    (∀ rs ∈ batches, (Record.batch rs).length ≤ m.options.bufferSize.toNat) ∧
      ∀ around channel watch, m.Hands around channel watch batches →
        (m.run around).report.failure = none ∧
        (m.run around).sink.output =
          around.sink.output ++ m.banner around channel watch ++
            batches.flatMap (fun rs =>
              (opened around channel).readLine (Record.batch rs).length ++
                rs.flatMap fun r => m.options.format.render r ++ [newline]) ++
            Session.detachLine watch ++ Session.closeLine channel.descriptor := by
  have hdeliverable : ∀ rs ∈ batches, ∀ r ∈ rs, r.Deliverable := fun rs hrs => (hbatches rs hrs).2
  have hfits : ∀ rs ∈ batches, (Record.batch rs).length ≤ m.options.bufferSize.toNat := by
    intro rs hrs
    -- So many records are far fewer bytes than a word can count, so the size does not wrap.
    have hless : m.options.bufferRecords.toNat * Record.maxSize < UInt64.size :=
      Nat.lt_of_le_of_lt (Nat.mul_le_mul_right Record.maxSize hmost) (by decide)
    rw [Options.bufferSize_eq hsome hless]
    exact (Record.length_batch_le (hdeliverable rs hrs)).trans
      (Nat.mul_le_mul_right Record.maxSize (hbatches rs hrs).1)
  refine ⟨hfits, fun around channel watch h => ?_⟩
  have hbanner : (m.begun around channel watch).session.sink.output =
      around.sink.output ++ m.banner around channel watch := Sink.output_writeAll (h.sink _)
  have hsink : (m.begun around channel watch).session.sink.Unfailing := h.sink.writeAll _
  obtain ⟨hfailure, hquiet, houtput⟩ := (h.fed hdeliverable hfits).iterate_spec hsink
  obtain ⟨k, hkept⟩ := m.ended_begun around channel watch
  rw [h.run_eq, hkept]
  refine ⟨hfailure, ?_⟩
  show ((m.begun around channel watch).iterate.2.session.sink.offer
    (noticesOf channel watch)).output = _
  rw [Sink.output_offer hquiet, houtput, hbanner, noticesOf, List.flatten_cons, List.flatten_cons,
    List.flatten_nil, List.append_nil, ← List.append_assoc]
  rfl

/-- A monitor whose read buffer is meant for two records. -/
def pairMonitor : Monitor := { target := [0x2f, 0x74], options := { bufferRecords := 2 } }

/-- Two records with names of the greatest length, then one of a move, then none. -/
def pairBatches : List (List Record) :=
  [[⟨⟨1⟩, ⟨0x100⟩, 0, some (List.replicate 255 0x6e)⟩,
    ⟨⟨1⟩, ⟨0x200⟩, 0, some (List.replicate 255 0xff)⟩],
   [⟨⟨1⟩, ⟨0x40⟩, 7, some [0x61]⟩], []]

/-- A channel that hands them out and is interrupted by a signal then. -/
def pairChannel : Channel :=
  { reads := pairBatches.map (fun rs => .delivering (Record.batch rs)) ++
      [{ signal := some .interrupt, result := .error .interrupted }] }

/-- The hypotheses of `run_delivered` are satisfiable together, with a first batch that fills the read
buffer to the last byte and smaller ones behind it. -/
theorem run_delivered_pair :
    (1 ≤ pairMonitor.options.bufferRecords.toNat ∧ pairMonitor.options.bufferRecords.toNat ≤ 1024) ∧
      (∀ rs ∈ pairBatches, rs.length ≤ pairMonitor.options.bufferRecords.toNat ∧
        ∀ r ∈ rs, r.Deliverable) ∧
      pairMonitor.Hands { opening := .ok pairChannel, pid := 7 } pairChannel ⟨1⟩ pairBatches ∧
      pairMonitor.options.bufferSize.toNat = 544 ∧
      pairBatches.map (fun rs => (Record.batch rs).length) = [544, 32, 0] ∧
      (∀ rs ∈ pairBatches, (Record.batch rs).length ≤ pairMonitor.options.bufferSize.toNat) ∧
      (pairMonitor.run { opening := .ok pairChannel, pid := 7 }).report.failure = none :=
  have hsome : 1 ≤ pairMonitor.options.bufferRecords.toNat := by decide
  have hmost : pairMonitor.options.bufferRecords.toNat ≤ 1024 := by decide
  have hbatches : ∀ rs ∈ pairBatches, rs.length ≤ pairMonitor.options.bufferRecords.toNat ∧
      ∀ r ∈ rs, r.Deliverable := by decide +kernel
  have hhands : pairMonitor.Hands { opening := .ok pairChannel, pid := 7 } pairChannel ⟨1⟩
      pairBatches :=
    { opening := rfl
      attaching := rfl
      installing := rfl
      calm := rfl
      sink := Sink.unfailing_of_interruptions (by decide)
      reads := ⟨_, rfl, rfl⟩ }
  have hdelivered := run_delivered pairMonitor pairBatches hsome hmost hbatches
  ⟨⟨hsome, hmost⟩, hbatches, hhands, by decide +kernel, by decide +kernel, hdelivered.1,
    (hdelivered.2 _ _ _ hhands).1⟩

end Monitor
end Inotify
