/- # Which choice counts

Of two rounds of choices the later one counts where both are about the same value, so making the same
choices again changes nothing (`Overrides.merge_self`), and choices about different values may be made in
either order (`Overrides.Disjoint.merge_comm`). Rounds of choices over a configuration are one round, their
merge (`Config.foldl_apply`), and in it each value is the last one chosen (`Overrides.chosen_mergeAll`, one
law for all four values). A value that is chosen is not unchosen again.

A configuration is checked when all choices are made. It is settled exactly if there is one to begin with
and the values that count are usable (`Config.settle_eq_ok_iff`), whether they were chosen or there before:
what a choice replaces is not looked at, and an unusable choice is refused over every file
(`Config.exists_settle_iff`). What is settled is far too small for its read buffer to wrap.
-/

import Inotify.Proofs.Config.Loading
import Inotify.Proofs.Monitor.BufferSize

namespace Inotify

namespace Overrides

variable (o p : Overrides)

/-! ## Rounds of choices -/

/-- **Making the same choices again changes nothing.** -/
@[simp] theorem merge_self : o.merge o = o := by
  obtain ⟨f, b, l, g⟩ := o
  cases f <;> cases b <;> cases l <;> cases g <;> rfl

/-- Choices of which no two are about the same value. -/
structure Disjoint : Prop where
  /-- At most one of them is about the format. -/
  format : o.format = none ∨ p.format = none
  /-- At most one of them is about the size of the read buffer. -/
  bufferRecords : o.bufferRecords = none ∨ p.bufferRecords = none
  /-- At most one of them is about the log filter. -/
  logLevel : o.logLevel = none ∨ p.logLevel = none
  /-- At most one of them is about the log file. -/
  logFile : o.logFile = none ∨ p.logFile = none

variable {o p} in
/-- **Choices about different values may be made in either order.** -/
theorem Disjoint.merge_comm (h : o.Disjoint p) : o.merge p = p.merge o := by
  -- Where one side has chosen nothing, either order gives what the other has chosen.
  have hor : ∀ {α : Type} {a b : Option α}, a = none ∨ b = none → b.or a = a.or b := by
    rintro α a b (rfl | rfl) <;> simp
  simp only [merge, Option.orElse_eq_orElse, Option.orElse_eq_or, hor h.format, hor h.bufferRecords,
    hor h.logLevel, hor h.logFile]

/-- Rounds of choices taken together, the first round first. -/
def mergeAll (os : List Overrides) : Overrides := os.foldl merge {}

/-- **The value that counts is the last one chosen.** -/
theorem chosen_mergeAll {α : Type} (chosen : Overrides → Option α) (hnone : chosen {} = none)
    (hmerge : ∀ o p : Overrides, chosen (o.merge p) = (chosen p).or (chosen o))
    (os : List Overrides) : chosen (mergeAll os) = (os.filterMap chosen).getLast? := by
  have hfold : ∀ o, chosen (os.foldl merge o) = (os.filterMap chosen).getLast?.or (chosen o) := by
    induction os with
    | nil => exact fun _ => rfl
    | cons p os ih =>
      intro o
      rw [List.foldl_cons, ih, hmerge, List.filterMap_cons]
      cases hp : chosen p with
      | none => rfl
      | some a => rw [List.getLast?_cons]; cases (os.filterMap chosen).getLast? <;> rfl
  rw [mergeAll, hfold, hnone, Option.or_none]

/-- Choices that can be used wherever they are made. -/
structure Usable : Prop where
  /-- A size of the read buffer is in its range. -/
  records : ∀ n ∈ o.bufferRecords, 1 ≤ n.toNat ∧ n.toNat ≤ 1024
  /-- A log filter is one. -/
  level : ∀ level ∈ o.logLevel, Filter.isValid level = true

end Overrides

namespace Config

variable {c loaded : Config} {file : Option ConfigFile} {o : Overrides}

/-- **Rounds of choices are one round of their merge.** -/
theorem foldl_apply (c : Config) (os : List Overrides) :
    os.foldl apply c = c.apply (Overrides.mergeAll os) := by
  have hfold : ∀ o, os.foldl apply (c.apply o) = c.apply (os.foldl Overrides.merge o) := by
    induction os with
    | nil => exact fun _ => rfl
    | cons p os ih =>
      intro o
      rw [List.foldl_cons, List.foldl_cons, apply_apply, ih]
  exact hfold {}

/-- **The last choices may be made again.** -/
theorem apply_foldl_apply {os : List Overrides} (h : os.getLast? = some o) :
    (os.foldl apply c).apply o = os.foldl apply c := by
  obtain ⟨front, rfl⟩ := List.getLast?_eq_some_iff.1 h
  simp [List.foldl_append, apply_apply]

/-! ## Checking -/

/-- A configuration whose values can be used. -/
structure Usable (c : Config) : Prop where
  /-- The size of the read buffer is in its range. -/
  records : 1 ≤ c.bufferRecords.toNat ∧ c.bufferRecords.toNat ≤ 1024
  /-- The log filter is one. -/
  level : Filter.isValid c.logLevel = true

/-- **The check accepts what is usable.** -/
theorem check_eq_ok_iff : c.check = .ok () ↔ c.Usable := by
  have hrange : ¬(c.bufferRecords < minRecords ∨ maxRecords < c.bufferRecords) ↔
      1 ≤ c.bufferRecords.toNat ∧ c.bufferRecords.toNat ≤ 1024 := by
    simp only [UInt64.lt_iff_toNat_lt, not_or, not_lt]
    exact Iff.rfl
  rw [check]
  constructor
  · intro h
    split at h
    · cases h
    · next hin =>
      split at h
      · next hlevel => exact ⟨hrange.1 hin, hlevel⟩
      · cases h
  · intro h
    rw [if_neg (hrange.2 h.records), if_pos h.level]

/-- **Where a choice is made it is checked, and elsewhere what was there before.** -/
theorem usable_apply_iff : (loaded.apply o).Usable ↔
    o.Usable ∧
      (o.bufferRecords = none → 1 ≤ loaded.bufferRecords.toNat ∧ loaded.bufferRecords.toNat ≤ 1024) ∧
      (o.logLevel = none → Filter.isValid loaded.logLevel = true) := by
  obtain ⟨format, records, level, file⟩ := o
  constructor
  · rintro ⟨hrecords, hlevel⟩
    refine ⟨⟨?_, ?_⟩, ?_, ?_⟩
    · rintro n rfl
      exact hrecords
    · rintro l rfl
      exact hlevel
    · rintro rfl
      exact hrecords
    · rintro rfl
      exact hlevel
  · rintro ⟨⟨hrecords, hlevel⟩, hloaded, hfilter⟩
    constructor
    · cases records with
      | none => exact hloaded rfl
      | some n => exact hrecords n rfl
    · cases level with
      | none => exact hfilter rfl
      | some l => exact hlevel l rfl

/-! ## Settling -/

/-- The configuration that choices are made over: the one of the file, if one is named, or the default
one. -/
def initial : Option ConfigFile → Except ConfigFault Config
  | some f => f.config
  | none => .ok {}

/-- **Without an initial configuration none is settled**, and the fault stays the same. -/
theorem settle_of_initial_error {fault : ConfigFault} (h : initial file = .error fault) :
    settle file o = .error fault := by
  cases file with
  | none => cases h
  | some f =>
    rw [initial] at h
    rw [settle, h]
    rfl

/-- **Over an initial configuration the choices are made, and the outcome checked.** -/
theorem settle_of_initial (h : initial file = .ok loaded) :
    settle file o =
      ((loaded.apply o).check.mapError ConfigFault.unusable).map fun _ => loaded.apply o := by
  have hsettle : settle file o = (do
      let c := loaded.apply o
      c.check.mapError .unusable
      return c) := by
    cases file with
    | none =>
      cases h
      rfl
    | some f =>
      rw [initial] at h
      rw [settle, h]
      rfl
  rw [hsettle]
  dsimp only
  cases (loaded.apply o).check <;> rfl

/-- **What is settled** is the initial configuration with the choices made over it, if that is usable. -/
theorem settle_eq_ok_iff : settle file o = .ok c ↔
    ∃ loaded, initial file = .ok loaded ∧ c = loaded.apply o ∧ c.Usable := by
  cases hinitial : initial file with
  | error fault => simp [settle_of_initial_error hinitial]
  | ok loaded =>
    rw [settle_of_initial hinitial]
    constructor
    · intro h
      cases hcheck : (loaded.apply o).check with
      | error value =>
        rw [hcheck] at h
        cases h
      | ok _ =>
        rw [hcheck] at h
        cases h
        exact ⟨loaded, rfl, rfl, check_eq_ok_iff.1 hcheck⟩
    · rintro ⟨_, heq, rfl, husable⟩
      cases heq
      rw [check_eq_ok_iff.2 husable]
      rfl

/-- **When anything is settled**: the choices must be usable, and so must what they leave in place. -/
theorem exists_settle_iff (h : initial file = .ok loaded) : (∃ c, settle file o = .ok c) ↔
    o.Usable ∧
      (o.bufferRecords = none → 1 ≤ loaded.bufferRecords.toNat ∧ loaded.bufferRecords.toNat ≤ 1024) ∧
      (o.logLevel = none → Filter.isValid loaded.logLevel = true) := by
  rw [← usable_apply_iff]
  constructor
  · rintro ⟨c, hc⟩
    obtain ⟨_, heq, rfl, husable⟩ := settle_eq_ok_iff.1 hc
    rw [h] at heq
    cases heq
    exact husable
  · intro husable
    exact ⟨_, settle_eq_ok_iff.2 ⟨loaded, h, rfl, husable⟩⟩

/-- **An unusable choice is refused**, whatever is in the file. -/
theorem exists_fault_of_unusable (h : ¬o.Usable) : ∃ fault, settle file o = .error fault := by
  cases hsettle : settle file o with
  | error fault => exact ⟨fault, rfl⟩
  | ok c =>
    obtain ⟨loaded, hinitial, -⟩ := settle_eq_ok_iff.1 hsettle
    exact absurd ((exists_settle_iff hinitial).1 ⟨c, hsettle⟩).1 h

/-- **A usable configuration asks for a buffer of the size it says.** -/
theorem Usable.toNat_bufferSize (h : c.Usable) :
    c.options.bufferSize.toNat = 272 * c.bufferRecords.toNat := by
  have hrecord : Record.maxSize = 272 := rfl
  have hmost : c.bufferRecords.toNat ≤ Options.mostRecords :=
    Nat.le_trans h.records.2 (by decide)
  rw [c.options.bufferSize_eq_iff.2 hmost, Options.intendedSize, hrecord]
  show max c.bufferRecords.toNat 1 * 272 = _
  have := h.records.1
  omega

/-- **Choices compose, and only what counts is checked.** Rounds of choices over a configuration are one
round of their merge: each value is the last one chosen, or the one that was there, and a log file stays
chosen. No choices change nothing, nor do the last ones made again, and choices about different values may
be made in either order. What is settled is the initial configuration with the choices made over it, exactly
if its buffer is in range and its filter is one. So over an initial configuration an unusable value does no
harm exactly if it is replaced, while an unusable choice is refused over every file. The read buffer of what
is settled has room for just the records it says. -/
theorem settle_composed :
    (∀ (c : Config) (os : List Overrides),
      os.foldl apply c = c.apply (Overrides.mergeAll os) ∧
      (os.foldl apply c).format = (os.filterMap Overrides.format).getLast?.getD c.format ∧
      (os.foldl apply c).bufferRecords =
        (os.filterMap Overrides.bufferRecords).getLast?.getD c.bufferRecords ∧
      (os.foldl apply c).logLevel = (os.filterMap Overrides.logLevel).getLast?.getD c.logLevel ∧
      (os.foldl apply c).logFile = (os.filterMap Overrides.logFile).getLast?.or c.logFile ∧
      (c.logFile ≠ none → (os.foldl apply c).logFile ≠ none) ∧
      c.apply {} = c ∧
      (∀ o, os.getLast? = some o → (os.foldl apply c).apply o = os.foldl apply c) ∧
      ∀ o p : Overrides, o.Disjoint p → (c.apply o).apply p = (c.apply p).apply o) ∧
    ∀ (file : Option ConfigFile) (o : Overrides),
      (∀ c, settle file o = .ok c ↔
        ∃ loaded, initial file = .ok loaded ∧ c = loaded.apply o ∧
          (1 ≤ c.bufferRecords.toNat ∧ c.bufferRecords.toNat ≤ 1024) ∧
          Filter.isValid c.logLevel = true) ∧
      (∀ loaded, initial file = .ok loaded → ((∃ c, settle file o = .ok c) ↔
        o.Usable ∧
          (o.bufferRecords = none →
            1 ≤ loaded.bufferRecords.toNat ∧ loaded.bufferRecords.toNat ≤ 1024) ∧
          (o.logLevel = none → Filter.isValid loaded.logLevel = true))) ∧
      (¬o.Usable → ∃ fault, settle file o = .error fault) ∧
      ∀ c, settle file o = .ok c → c.options.bufferSize.toNat = 272 * c.bufferRecords.toNat := by
  refine ⟨fun c os => ?_, fun file o => ⟨fun c => ?_, ?_, exists_fault_of_unusable, ?_⟩⟩
  · have hlogFile : (os.foldl apply c).logFile =
        (os.filterMap Overrides.logFile).getLast?.or c.logFile := by
      rw [foldl_apply, apply, Overrides.chosen_mergeAll Overrides.logFile rfl (by simp [Overrides.merge])]
      exact Option.orElse_eq_or
    refine ⟨foldl_apply c os, ?_, ?_, ?_, hlogFile, ?_, rfl, fun o => apply_foldl_apply, ?_⟩
    · rw [foldl_apply, apply, Overrides.chosen_mergeAll Overrides.format rfl (by simp [Overrides.merge])]
    · rw [foldl_apply, apply,
        Overrides.chosen_mergeAll Overrides.bufferRecords rfl (by simp [Overrides.merge])]
    · rw [foldl_apply, apply,
        Overrides.chosen_mergeAll Overrides.logLevel rfl (by simp [Overrides.merge])]
    · intro hsome
      rw [hlogFile]
      simp [hsome]
    · intro o p hdisjoint
      rw [apply_apply, apply_apply, hdisjoint.merge_comm]
  · rw [settle_eq_ok_iff]
    constructor
    · rintro ⟨loaded, hinitial, heq, husable⟩
      exact ⟨loaded, hinitial, heq, husable.records, husable.level⟩
    · rintro ⟨loaded, hinitial, heq, hrecords, hlevel⟩
      exact ⟨loaded, hinitial, heq, hrecords, hlevel⟩
  · exact fun loaded => exists_settle_iff
  · intro c hc
    obtain ⟨-, -, -, husable⟩ := settle_eq_ok_iff.1 hc
    exact husable.toNat_bufferSize

/-- A file that asks for a buffer of no records. -/
def emptyBuffer : ConfigFile where
  path := []
  content := .ok (Utf8.encode "buffer_records = 0\n")

/-- The hypotheses of `settle_composed` are satisfiable: over a log file two rounds of choices about
different values; over a file with an unusable buffer a choice that replaces it, one that does not, and an
unusable one. -/
theorem settle_composed_emptyBuffer :
    let c : Config := { logFile := some [0x61] }
    let wider : Overrides := { bufferRecords := some 8 }
    let widest : Overrides := { bufferRecords := some 1025 }
    let louder : Overrides := { logLevel := some "info" }
    ([wider, louder].foldl apply c).logFile ≠ none ∧
      ([wider, louder].foldl apply c).apply louder = [wider, louder].foldl apply c ∧
      (c.apply wider).apply louder = (c.apply louder).apply wider ∧
      (∃ settled, settle (some emptyBuffer) wider = .ok settled ∧
        settled.options.bufferSize.toNat = 272 * settled.bufferRecords.toNat) ∧
      (¬∃ settled, settle (some emptyBuffer) louder = .ok settled) ∧
      ∃ fault, settle (some emptyBuffer) widest = .error fault := by
  have hinitial : initial (some emptyBuffer) = .ok { bufferRecords := 0 } := by
    let s : Settings := { bufferRecords := some ⟨0, by decide⟩ }
    have hspelled :
        Toml.SpellsDocument [some ("buffer_records", .integer 0)] "buffer_records = 0\n".toList :=
      ConfigFile.spellsDocument_members (.refl s.members)
    exact ConfigFile.config_of_perm [] hspelled (.refl s.members)
  have hvalid : Filter.isValid "warn" = true := by decide +kernel
  intro c wider widest louder
  obtain ⟨hchoices, hsettle⟩ := settle_composed
  obtain ⟨-, -, -, -, -, hkept, -, hagain, hswap⟩ := hchoices c [wider, louder]
  obtain ⟨-, hwider, -, hsize⟩ := hsettle (some emptyBuffer) wider
  obtain ⟨-, hlouder, -, -⟩ := hsettle (some emptyBuffer) louder
  obtain ⟨-, -, hwidest, -⟩ := hsettle (some emptyBuffer) widest
  refine ⟨hkept (by decide), hagain louder rfl, hswap wider louder ⟨.inl rfl, .inr rfl, .inl rfl, .inl rfl⟩,
    ?_, ?_, ?_⟩
  · have hrecords : ∀ n ∈ wider.bufferRecords, 1 ≤ n.toNat ∧ n.toNat ≤ 1024 := by
      rintro n ⟨⟩
      decide
    have husable : wider.Usable := ⟨hrecords, nofun⟩
    obtain ⟨settled, hsettled⟩ := (hwider _ hinitial).2 ⟨husable, nofun, fun _ => hvalid⟩
    exact ⟨settled, hsettled, hsize settled hsettled⟩
  · intro hsettled
    obtain ⟨-, hrecords, -⟩ := (hlouder _ hinitial).1 hsettled
    exact absurd (hrecords rfl) (by decide)
  · refine hwidest fun husable => ?_
    exact absurd (husable.records 1025 rfl) (by decide)

end Config
end Inotify
