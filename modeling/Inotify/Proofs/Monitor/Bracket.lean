/- # What a run acquires it releases

A run acquires a channel and a watch, installs the handlers and prints a first line. How far it gets
decides everything else: each way in which it can go (`Monitor.Course`) has its own calls, and behind
the last step of the setup come those of the release, in reverse order, each once. A run whose setup
succeeds goes on with the loop, which does nothing but read (`Loop.iterate_kept`).

Two ends lead out of a run, one after a failed setup and one after the loop. Both release the session
as it stands there, and a released session has nothing left to drop (`Session.drop_release`). So both
are one function of that session (`ended`).
-/

import Inotify.Monitor
import Inotify.Proofs.Loop.Frame
import Inotify.Proofs.Session.Ownership

namespace Inotify

namespace Monitor

/-- What a run leaves behind that ends with a session as it stands, for a failure or none. -/
def ended (failure : Option Failure) (session : Session) (signals : SignalState) : Outcome :=
  { report := { failure, cleanup := session.releaseFailures }
    calls := session.channel.calls ++ session.releaseCalls
    sink := session.sink.offer session.releaseLines
    signals }

/-- **A failed setup ends with its session.** -/
theorem abandon_eq (failure : Failure) (session : Session) (signals : SignalState) :
    abandon failure session signals = ended (some failure) session signals := by
  obtain ⟨hfailures, hcalls, hsink, -, -⟩ := session.release_spec
  show ({ report := { failure := some failure, cleanup := session.release.1 }
          calls := session.release.2.drop.channel.calls
          sink := session.release.2.drop.sink
          signals } : Outcome) = _
  rw [Session.drop_release, hfailures, hcalls, hsink, ended]

/-- The loop of a run over a session. -/
def loopOver (m : Monitor) (session : Session) (signals : SignalState) : Loop :=
  .start session m.options.bufferSize.toNat m.options.format .signalled signals

/-- **A run that gets to its loop ends with the session of the loop.** -/
theorem watch_eq (m : Monitor) (session : Session) (signals : SignalState) :
    m.watch session signals =
      ended (m.loopOver session signals).iterate.1 (m.loopOver session signals).iterate.2.session
        (m.loopOver session signals).iterate.2.signals := by
  obtain ⟨hfailures, hcalls, hsink, -, -⟩ :=
    (m.loopOver session signals).iterate.2.session.release_spec
  rw [watch, ← loopOver, Loop.run_eq]
  show ({ report :=
            { failure := (m.loopOver session signals).iterate.1
              cleanup := (m.loopOver session signals).iterate.2.session.release.1 }
          calls := (m.loopOver session signals).iterate.2.session.release.2.drop.channel.calls
          sink := (m.loopOver session signals).iterate.2.session.release.2.drop.sink
          signals := (m.loopOver session signals).iterate.2.signals } : Outcome) = _
  rw [Session.drop_release, hfailures, hcalls, hsink, ended]

/-- The failures of releasing a watch and then its channel. -/
def cleanupOf (channel : Channel) (watch : Watch) : List Failure :=
  cleanupFailure (.removeWatch watch) (channel.remove watch).1 ++
    cleanupFailure (.close channel.descriptor) channel.close.1

/-- The notices of releasing a watch and then its channel. -/
def noticesOf (channel : Channel) (watch : Watch) : List Bytes :=
  [Session.detachLine watch, Session.closeLine channel.descriptor]

/-- The session over a channel that has just been opened. -/
def opened (around : Surroundings) (channel : Channel) : Session :=
  { channel := { channel with calls := [.openChannel] }, sink := around.sink }

/-- The session that holds a watch, when the handlers have been called for. -/
def attached (m : Monitor) (around : Surroundings) (channel : Channel) (watch : Watch) : Session :=
  { channel :=
      { channel with
        adds := channel.adds.tail
        calls := [.openChannel, .add m.target m.options.mask, .installHandlers] }
    sink := around.sink
    watch := some watch }

/-- The first line of a run. -/
def banner (m : Monitor) (around : Surroundings) (channel : Channel) (watch : Watch) : Bytes :=
  Session.bannerLine around.pid m.target channel.descriptor watch

/-- The loop of a run, when the first line has been printed. -/
def begun (m : Monitor) (around : Surroundings) (channel : Channel) (watch : Watch) : Loop :=
  m.loopOver ((m.attached around channel watch).written (m.banner around channel watch))
    around.signals.install

/-- **How a run can go**, and what it leaves behind then. There is one way for each step of the setup
that can fail, and one if none does. -/
inductive Course (m : Monitor) (around : Surroundings) : Outcome → Prop where
  /-- There is no channel: nothing is called on one and nothing is written. -/
  | unopened (e : Errno) (hopen : around.opening = .error e) :
      Course m around
        { report := { failure := some (.setup .initialise e), cleanup := [] }
          calls := [.openChannel]
          sink := around.sink
          signals := around.signals }
  /-- There is no watch: only the channel is released. -/
  | unattached (channel : Channel) (e : Errno) (hopen : around.opening = .ok channel)
      (hadd : (channel.add m.target m.options.mask).1 = .error e) :
      Course m around
        { report :=
            { failure := some (.setup (.addWatch m.target) e)
              cleanup := cleanupFailure (.close channel.descriptor) channel.close.1 }
          calls := [.openChannel, .add m.target m.options.mask, .close]
          sink := around.sink.offer [Session.closeLine channel.descriptor]
          signals := around.signals }
  /-- The handlers cannot be installed: nothing is read, and no first line is written. -/
  | unhandled (channel : Channel) (watch : Watch) (failure : Failure)
      (hopen : around.opening = .ok channel)
      (hadd : (channel.add m.target m.options.mask).1 = .ok watch)
      (hinstall : around.installing = .error failure) :
      Course m around
        { report := { failure := some failure, cleanup := cleanupOf channel watch }
          calls :=
            [.openChannel, .add m.target m.options.mask, .installHandlers, .remove watch, .close]
          sink := around.sink.offer (noticesOf channel watch)
          signals := around.signals }
  /-- The first line cannot be written: nothing is read. -/
  | unannounced (channel : Channel) (watch : Watch) (fault : IoFault)
      (hopen : around.opening = .ok channel)
      (hadd : (channel.add m.target m.options.mask).1 = .ok watch)
      (hinstall : around.installing = .ok ())
      (hbanner : (around.sink.writeAll (m.banner around channel watch)).1 = .error fault) :
      Course m around
        { report := { failure := some (.output fault), cleanup := cleanupOf channel watch }
          calls :=
            [.openChannel, .add m.target m.options.mask, .installHandlers, .remove watch, .close]
          sink :=
            (around.sink.writeAll (m.banner around channel watch)).2.offer (noticesOf channel watch)
          signals := around.signals.install }
  /-- The setup succeeds: the loop reads some number of times. -/
  | watched (channel : Channel) (watch : Watch) (k : Nat)
      (hopen : around.opening = .ok channel)
      (hadd : (channel.add m.target m.options.mask).1 = .ok watch)
      (hinstall : around.installing = .ok ())
      (hbanner : (around.sink.writeAll (m.banner around channel watch)).1 = .ok ()) :
      Course m around
        { report :=
            { failure := (m.begun around channel watch).run.1.failure
              cleanup := cleanupOf channel watch }
          calls :=
            [.openChannel, .add m.target m.options.mask, .installHandlers] ++
              List.replicate k (.read m.options.bufferSize.toNat) ++ [.remove watch, .close]
          sink :=
            (m.begun around channel watch).iterate.2.session.sink.offer (noticesOf channel watch)
          signals := (m.begun around channel watch).iterate.2.signals }

/-- **The end of a session that holds a watch**, whatever was read before. -/
theorem ended_held {session : Session} {channel : Channel} {watch : Watch} (size k : Nat)
    (hchannel : session.channel = channel.afterReads size k) (hwatch : session.watch = some watch)
    (hopen : session.isOpen = true) (failure : Option Failure) (signals : SignalState) :
    ended failure session signals =
      { report := { failure, cleanup := cleanupOf channel watch }
        calls := channel.calls ++ List.replicate k (.read size) ++ [.remove watch, .close]
        sink := session.sink.offer (noticesOf channel watch)
        signals } := by
  rw [ended, Session.releaseFailures, Session.releaseCalls, Session.releaseLines, hwatch, hopen,
    hchannel, Option.toList_some, List.flatMap_singleton]
  rfl

/-- **The end of a session that holds a watch and has read nothing.** -/
theorem ended_attached (m : Monitor) (around : Surroundings) {channel : Channel} {watch : Watch}
    (session : Session) (hchannel : session.channel = (m.attached around channel watch).channel)
    (hwatch : session.watch = some watch) (hopen : session.isOpen = true)
    (failure : Option Failure) (signals : SignalState) :
    ended failure session signals =
      { report := { failure, cleanup := cleanupOf channel watch }
        calls := [.openChannel, .add m.target m.options.mask, .installHandlers, .remove watch, .close]
        sink := session.sink.offer (noticesOf channel watch)
        signals } := by
  rw [← Channel.afterReads_zero (m.attached around channel watch).channel 0] at hchannel
  exact ended_held 0 0 hchannel hwatch hopen failure signals

/-- **The end of the session of a loop.** -/
theorem ended_begun (m : Monitor) (around : Surroundings) (channel : Channel) (watch : Watch) :
    ∃ k, ended (m.begun around channel watch).iterate.1
        (m.begun around channel watch).iterate.2.session
        (m.begun around channel watch).iterate.2.signals =
      { report :=
          { failure := (m.begun around channel watch).run.1.failure
            cleanup := cleanupOf channel watch }
        calls :=
          [.openChannel, .add m.target m.options.mask, .installHandlers] ++
            List.replicate k (.read m.options.bufferSize.toNat) ++ [.remove watch, .close]
        sink :=
          (m.begun around channel watch).iterate.2.session.sink.offer (noticesOf channel watch)
        signals := (m.begun around channel watch).iterate.2.signals } := by
  obtain ⟨k, hk⟩ := (m.begun around channel watch).iterate_kept
  have hsize : (m.begun around channel watch).buffer.length = m.options.bufferSize.toNat :=
    List.length_replicate
  refine ⟨k, ?_⟩
  rw [← hsize]
  exact ended_held _ k hk.channel hk.watch hk.isOpen _ _

/-- **A run without a watch** ends there. -/
theorem run_unattached (m : Monitor) {around : Surroundings} {channel : Channel} {e : Errno}
    (hopen : around.opening = .ok channel)
    (hadd : (channel.add m.target m.options.mask).1 = .error e) :
    m.run around =
      abandon (.setup (.addWatch m.target) e)
        { opened around channel with
          channel := ((opened around channel).channel.add m.target m.options.mask).2 }
        around.signals := by
  have hattach : ((opened around channel).channel.add m.target m.options.mask).1 = .error e := hadd
  rw [run, hopen]
  dsimp only
  rw [← opened, Session.attach_of_error hattach]

/-- **A run with a watch** installs the handlers and then prints the first line. -/
theorem run_attached (m : Monitor) {around : Surroundings} {channel : Channel} {watch : Watch}
    (hopen : around.opening = .ok channel)
    (hadd : (channel.add m.target m.options.mask).1 = .ok watch) :
    m.run around =
      match around.installing with
      | .error failure => abandon failure (m.attached around channel watch) around.signals
      | .ok () =>
        match (around.sink.writeAll (m.banner around channel watch)).1 with
        | .error fault =>
          abandon (.output fault)
            ((m.attached around channel watch).written (m.banner around channel watch))
            around.signals.install
        | .ok () =>
          m.watch ((m.attached around channel watch).written (m.banner around channel watch))
            around.signals.install := by
  have hattach : ((opened around channel).channel.add m.target m.options.mask).1 = .ok watch := hadd
  have hattached :
      { opened around channel with
        channel :=
          ((opened around channel).channel.add m.target m.options.mask).2.log .installHandlers
        watch := some watch } = m.attached around channel watch := rfl
  have hannounce : (m.attached around channel watch).announce around.pid m.target =
      ((around.sink.writeAll (m.banner around channel watch)).1.mapError .output,
        (m.attached around channel watch).written (m.banner around channel watch)) :=
    Session.announce_eq rfl around.pid m.target
  rw [run, hopen]
  dsimp only
  rw [← opened, Session.attach_of_ok hattach]
  dsimp only
  rw [hattached]
  cases around.installing with
  | error failure => rfl
  | ok _ =>
    dsimp only
    rw [hannounce]
    cases (around.sink.writeAll (m.banner around channel watch)).1 with
    | error fault => rfl
    | ok _ => rfl

/-- **The setup of a run succeeds.** -/
structure SetUp (m : Monitor) (around : Surroundings) (channel : Channel) (watch : Watch) : Prop where
  /-- There is a channel. -/
  opening : around.opening = .ok channel
  /-- There is a watch. -/
  attaching : (channel.add m.target m.options.mask).1 = .ok watch
  /-- The handlers can be installed. -/
  installing : around.installing = .ok ()
  /-- The first line can be written. -/
  banner : (around.sink.writeAll (m.banner around channel watch)).1 = .ok ()

/-- **A run whose setup succeeds goes on with its loop.** -/
theorem SetUp.run_eq {m : Monitor} {around : Surroundings} {channel : Channel} {watch : Watch}
    (h : m.SetUp around channel watch) :
    m.run around =
      ended (m.begun around channel watch).iterate.1 (m.begun around channel watch).iterate.2.session
        (m.begun around channel watch).iterate.2.signals := by
  rw [run_attached m h.opening h.attaching, h.installing]
  dsimp only
  rw [h.banner]
  exact m.watch_eq _ _

/-- **The loop of a run is told to stop at once if the process has seen a stop signal.** -/
theorem ask_begun (m : Monitor) (around : Surroundings) (channel : Channel) (watch : Watch) :
    (m.begun around channel watch).ask.1 = around.signals.sawStop := rfl

/-- **A run whose setup succeeds reads exactly if the process has not seen a stop signal.** -/
theorem SetUp.reads_iff {m : Monitor} {around : Surroundings} {channel : Channel} {watch : Watch}
    (h : m.SetUp around channel watch) :
    (∃ size, .read size ∈ (m.run around).calls) ↔ around.signals.sawStop = false := by
  obtain ⟨k, hkept, hk⟩ := (m.begun around channel watch).iterate_reads
  rw [ask_begun] at hk
  rw [h.run_eq, ended_held _ k hkept.channel hkept.watch hkept.isOpen, ← Bool.not_eq_true, ← hk]
  show (∃ size, Call.read size ∈ [Call.openChannel, .add m.target m.options.mask, .installHandlers] ++
    List.replicate k (Call.read _) ++ [.remove watch, .close]) ↔ _
  simp [List.mem_replicate]

/-- **Every run goes in one of these ways.** -/
theorem course_run (m : Monitor) (around : Surroundings) : Course m around (m.run around) := by
  cases hopen : around.opening with
  | error e =>
    have hrun := Course.unopened (m := m) e hopen
    rw [run, hopen]
    exact hrun
  | ok channel =>
    cases hadd : (channel.add m.target m.options.mask).1 with
    | error e =>
      rw [run_unattached m hopen hadd, abandon_eq]
      exact .unattached channel e hopen hadd
    | ok watch =>
      rw [run_attached m hopen hadd]
      cases hinstall : around.installing with
      | error failure =>
        show Course m around (abandon failure _ _)
        rw [abandon_eq, ended_attached m around (m.attached around channel watch) rfl rfl rfl]
        exact .unhandled channel watch failure hopen hadd hinstall
      | ok _ =>
        cases hbanner : (around.sink.writeAll (m.banner around channel watch)).1 with
        | error fault =>
          show Course m around (abandon (.output fault) _ _)
          rw [abandon_eq, ended_attached m around (Session.written _ _) rfl rfl rfl]
          exact .unannounced channel watch fault hopen hadd hinstall hbanner
        | ok _ =>
          obtain ⟨k, hk⟩ := m.ended_begun around channel watch
          show Course m around (m.watch _ _)
          rw [watch_eq, ← begun, hk]
          exact .watched channel watch k hopen hadd hinstall hbanner

/-- **The handlers are called for exactly if there is a watch.** -/
theorem Course.handlers_iff {m : Monitor} {around : Surroundings} {outcome : Outcome}
    (h : Course m around outcome) :
    Call.installHandlers ∈ outcome.calls ↔
      ∃ channel watch, around.opening = .ok channel ∧
        (channel.add m.target m.options.mask).1 = .ok watch := by
  cases h with
  | unopened e hopen =>
    constructor
    · intro hmem
      simp at hmem
    · rintro ⟨channel, watch, hopen', -⟩
      cases hopen.symm.trans hopen'
  | unattached channel e hopen hadd =>
    constructor
    · intro hmem
      simp at hmem
    · rintro ⟨channel', watch, hopen', hadd'⟩
      obtain rfl := Except.ok.inj (hopen.symm.trans hopen')
      cases hadd.symm.trans hadd'
  | unhandled channel watch _ hopen hadd _ =>
    exact iff_of_true (by simp) ⟨channel, watch, hopen, hadd⟩
  | unannounced channel watch _ hopen hadd _ _ =>
    exact iff_of_true (by simp) ⟨channel, watch, hopen, hadd⟩
  | watched channel watch _ hopen hadd _ _ =>
    exact iff_of_true (by simp) ⟨channel, watch, hopen, hadd⟩

/-- **Every run is bracketed**: whatever the channel, the handlers and the sink do, it goes in one of
the five ways, and it calls for the handlers exactly if it has a watch. A channel that cannot be opened
is reported under the name of the call that opens it. -/
theorem run_bracketed (m : Monitor) (around : Surroundings) :
    Course m around (m.run around) ∧ Operation.initialise.name = "inotify_init" ∧
      (Call.installHandlers ∈ (m.run around).calls ↔
        ∃ channel watch, around.opening = .ok channel ∧
          (channel.add m.target m.options.mask).1 = .ok watch) := by
  have hcourse := m.course_run around
  exact ⟨hcourse, rfl, hcourse.handlers_iff⟩

-- A stop signal was seen before, the sink takes the first line only, and nothing can be released.
example :
    let outcome :=
      run { target := [0x61], options := { bufferRecords := 0 } }
        { opening := .ok { removes := [.error .inputOutput], closes := [.error .inputOutput] }
          sink := { faults := [⟨1, 0, .system 32, false⟩] }
          pid := 1
          signals := { received := some .interrupt } }
    outcome.calls =
        [.openChannel, .add [0x61] .subscribable, .installHandlers, .remove ⟨1⟩, .close] ∧
      outcome.report =
        { cleanup :=
            [.cleanup (.removeWatch ⟨1⟩) .inputOutput, .cleanup (.close 3) .inputOutput] } := by
  decide +kernel

end Monitor
end Inotify
