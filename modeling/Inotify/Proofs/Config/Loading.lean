/- # What a configuration file says

A configuration file gives values to some of four names (`Settings`), in any order and any layout. Taking
over one member sets the value of its name and no other (`Config.set_of_mem`); so when all are taken over,
each value is the one of the file if its name is in it, and the default one otherwise, whatever the order
(`Config.ofMembers_of_perm`). With a name that is not one of the four the members before it are taken over,
and then it is refused (`Config.ofMembers_unknown`).
-/

import Inotify.Config.File
import Inotify.Proofs.Text.Utf8
import Inotify.Proofs.Toml.Lines

namespace Inotify

open Toml (Value Members SpellsDocument)

/-- Values for some of the names of a configuration file. -/
structure Settings where
  /-- The format of event lines. -/
  format : Option Format := none
  /-- The size of the read buffer in records, as far as an integer of 64 bits can write it. -/
  bufferRecords : Option (Fin 0x8000000000000000) := none
  /-- The log filter. -/
  logLevel : Option String := none
  /-- The path of the log file. -/
  logFile : Option String := none

namespace Settings

variable (s : Settings)

/-- The names that have a value, with their values. -/
def members : Members :=
  s.format.toList.map (fun f => ("format", .text f.name)) ++
    (s.bufferRecords.toList.map (fun n => ("buffer_records", .integer n.val)) ++
      (s.logLevel.toList.map (fun level => ("log_level", .text level)) ++
        s.logFile.toList.map (fun path => ("log_file", .text path))))

/-- The configuration with these values, and the default ones elsewhere. -/
def config : Config where
  format := s.format.getD .text
  bufferRecords := (s.bufferRecords.map fun n => UInt64.ofNat n.val).getD 10
  logLevel := s.logLevel.getD "warn"
  logFile := s.logFile.map Utf8.encode

end Settings

namespace Config

/-- The names that a configuration file may use. -/
def names : List String := ["format", "buffer_records", "log_level", "log_file"]

variable {s : Settings} {members : Members} {name : String} {v : Value}

/-- A configuration with the value of one name taken over from another. -/
def taking (t c : Config) (name : String) : Config where
  format := if name = "format" then t.format else c.format
  bufferRecords := if name = "buffer_records" then t.bufferRecords else c.bufferRecords
  logLevel := if name = "log_level" then t.logLevel else c.logLevel
  logFile := if name = "log_file" then t.logFile else c.logFile

/-- **A member sets the value of its name**, and no other. -/
theorem set_of_mem (h : (name, v) ∈ s.members) (c : Config) :
    set c name v = .ok (s.config.taking c name) := by
  simp only [Settings.members, List.mem_append, List.mem_map, Option.mem_toList, Prod.mk.injEq] at h
  rcases h with ⟨f, hf, rfl, rfl⟩ | ⟨n, hn, rfl, rfl⟩ | ⟨level, hl, rfl, rfl⟩ | ⟨path, hp, rfl, rfl⟩
  · have hformat : readFormat (.text f.name) = .ok f := by
      simp [readFormat, formatNamed]
    simp [set, taking, Settings.config, hf, hformat]
  · have hcount : readCount (.integer n.val) = .ok (UInt64.ofNat n.val) := by
      simp [readCount]
    simp [set, taking, Settings.config, hn, hcount]
  · simp [set, taking, Settings.config, hl, readText]
  · simp [set, taking, Settings.config, hp, readText]

/-- **Names taken over one after the other**: what is named comes from the other configuration. -/
theorem foldl_taking (t c : Config) (names : List String) : names.foldl (taking t) c =
    { format := if "format" ∈ names then t.format else c.format
      bufferRecords := if "buffer_records" ∈ names then t.bufferRecords else c.bufferRecords
      logLevel := if "log_level" ∈ names then t.logLevel else c.logLevel
      logFile := if "log_file" ∈ names then t.logFile else c.logFile } := by
  induction names generalizing c with
  | nil => simp
  | cons name names ih =>
    have hfield : ∀ {α : Type} (key : String) (new old : α),
        (if key ∈ names then new else if name = key then new else old) =
          if key ∈ name :: names then new else old := by
      intro α key new old
      by_cases hmem : key ∈ names
      · simp [hmem]
      · simp [hmem, eq_comm]
    rw [List.foldl_cons, ih]
    simp only [taking, hfield]

/-- **Members of a configuration file are taken over one after the other.** -/
theorem foldlM_set (h : ∀ member ∈ members, member ∈ s.members) (c : Config) :
    members.foldlM (fun c (name, v) => set c name v) c =
      .ok ((members.map Prod.fst).foldl s.config.taking c) := by
  induction members generalizing c with
  | nil => rfl
  | cons member members ih =>
    obtain ⟨name, v⟩ := member
    obtain ⟨hmember, hmore⟩ := List.forall_mem_cons.1 h
    rw [List.foldlM_cons]
    dsimp only
    rw [set_of_mem hmember]
    exact ih hmore _

/-- **The names of a configuration file** are some of the four. -/
theorem names_sublist (s : Settings) : (s.members.map Prod.fst).Sublist names := by
  have hfield : ∀ {α : Type} (name : String) (value : α → Value) (chosen : Option α),
      ((chosen.toList.map fun a => (name, value a)).map Prod.fst).Sublist [name] := by
    intro α name value chosen
    cases chosen <;> simp
  rw [Settings.members, List.map_append, List.map_append, List.map_append]
  exact (hfield _ _ _).append ((hfield _ _ _).append ((hfield _ _ _).append (hfield _ _ _)))

/-- **In any order the members of a configuration file give its configuration.** -/
theorem ofMembers_of_perm (h : members.Perm s.members) : ofMembers members = .ok s.config := by
  have hnames : ∀ name, name ∈ members.map Prod.fst ↔ name ∈ s.members.map Prod.fst := fun _ =>
    (h.map Prod.fst).mem_iff
  rw [ofMembers, foldlM_set fun member => h.mem_iff.1, foldl_taking]
  simp only [hnames]
  -- A name that is not in the file leaves its value at the default one, in both configurations.
  obtain ⟨format, records, level, file⟩ := s
  congr 2
  · cases format <;> simp [Settings.members, Settings.config]
  · cases records <;> simp [Settings.members, Settings.config]
  · cases level <;> simp [Settings.members, Settings.config]
  · cases file <;> simp [Settings.members, Settings.config]

/-- **Any other name is refused**, wherever it stands among members that are taken over. -/
theorem ofMembers_unknown {front back : Members} (hfront : ∀ member ∈ front, member ∈ s.members)
    (hname : name ∉ names) : ofMembers (front ++ (name, v) :: back) = .error (.unknownField name) := by
  simp only [names, List.mem_cons, List.not_mem_nil, or_false, not_or] at hname
  obtain ⟨hformat, hrecords, hlevel, hfile⟩ := hname
  have hset : ∀ c : Config, set c name v = .error (.unknownField name) := by
    intro c
    rw [set, if_neg hformat, if_neg hrecords, if_neg hlevel, if_neg hfile]
  rw [ofMembers, List.foldlM_append, foldlM_set hfront]
  show (do
    let c ← set _ name v
    back.foldlM _ c) = _
  rw [hset]
  rfl

end Config

/-! ## Files -/

namespace ConfigFile

/-- **A file of text is read as the configuration that its text writes.** -/
theorem config_of_text (path : Bytes) (text : String) :
    config { path, content := .ok (Utf8.encode text) } =
      (Config.parse text).mapError (.unparsable path) := by
  have htext : ConfigFile.text { path, content := .ok (Utf8.encode text) } = .ok text := by
    simp only [ConfigFile.text, bind, Except.bind, Utf8.decode?_encode]
  rw [config, htext]
  rfl

variable {s : Settings} {lines : List (Option (String × Value))} {text : List Char}

/-- **A file whose lines give some of the names their values** gives the configuration with these values. -/
theorem config_of_perm (path : Bytes) (h : SpellsDocument lines text)
    (hlines : (lines.filterMap id).Perm s.members) :
    config { path, content := .ok (Utf8.encode (String.ofList text)) } = .ok s.config := by
  have hnames : ((lines.filterMap id).map Prod.fst).Nodup :=
    (hlines.map Prod.fst).nodup_iff.2 ((Config.names_sublist s).nodup (by decide))
  rw [config_of_text, Config.parse, Toml.parse?_spelled h hnames]
  dsimp only
  rw [Config.ofMembers_of_perm hlines]
  rfl

/-- **A file in which one more line is about another name** is no configuration, because of that name. -/
theorem config_of_unknown (path : Bytes) {front back : List (Option (String × Value))} {name : String}
    {v : Value} (h : SpellsDocument (front ++ some (name, v) :: back) text)
    (hlines : ((front ++ back).filterMap id).Perm s.members) (hname : name ∉ Config.names) :
    config { path, content := .ok (Utf8.encode (String.ofList text)) } =
      .error (.unparsable path (.unknownField name)) := by
  have hsplit : (front ++ some (name, v) :: back).filterMap id =
      front.filterMap id ++ (name, v) :: back.filterMap id := by
    rw [List.filterMap_append, List.filterMap_cons]
    rfl
  rw [List.filterMap_append] at hlines
  have hnames : ((front.filterMap id ++ (name, v) :: back.filterMap id).map Prod.fst).Nodup := by
    have hperm := (hlines.map Prod.fst)
    rw [(List.perm_middle.map Prod.fst).nodup_iff, List.map_cons, List.nodup_cons]
    refine ⟨fun hmem => hname ?_, hperm.nodup_iff.2 ((Config.names_sublist s).nodup (by decide))⟩
    exact (Config.names_sublist s).subset (hperm.mem_iff.1 hmem)
  have hfront : ∀ member ∈ front.filterMap id, member ∈ s.members := fun member hmember =>
    hlines.mem_iff.1 (List.mem_append_left _ hmember)
  rw [← hsplit] at hnames
  rw [config_of_text, Config.parse, Toml.parse?_spelled h hnames, hsplit]
  dsimp only
  rw [Config.ofMembers_unknown hfront hname]
  rfl

/-- **The values of a configuration file can be written**, in any order of their names. -/
theorem spellsDocument_members {members : Members} (h : members.Perm s.members) :
    SpellsDocument (members.map some) (Toml.written members) := by
  refine Toml.spellsDocument_written (fun member hmember => ?_) fun member hmember => ?_
  · have hbare : ∀ name ∈ Config.names, name.toList ≠ [] ∧ name.toList.all Toml.isBare = true := by
      decide
    have hname : member.1 ∈ s.members.map Prod.fst := List.mem_map_of_mem (h.mem_iff.1 hmember)
    obtain ⟨hne, hall⟩ := hbare _ ((Config.names_sublist s).subset hname)
    exact ⟨hne, hall⟩
  · have hmem := h.mem_iff.1 hmember
    simp only [Settings.members, List.mem_append, List.mem_map, Option.mem_toList] at hmem
    rcases hmem with ⟨f, -, rfl⟩ | ⟨n, -, rfl⟩ | ⟨level, -, rfl⟩ | ⟨path, -, rfl⟩
    · exact .text (Toml.spellsString_quoted _)
    · refine .integer (Toml.spellsInteger_signed _) ?_
      have hleast : Int64.minValue.toInt = -2 ^ 63 := rfl
      have hmost : Int64.maxValue.toInt = 2 ^ 63 - 1 := rfl
      have hn := n.isLt
      simp only [Toml.fits, hleast, hmost, Bool.and_eq_true, decide_eq_true_eq]
      omega
    · exact .text (Toml.spellsString_quoted _)
    · exact .text (Toml.spellsString_quoted _)

/-- **What a configuration file says is exactly what it gives.** Values for any of the four names can be
written in any order. However they are laid out, a file with just these values gives the configuration that
has them, and the default values elsewhere. A file with one more line anywhere, about another name, fails to
be parsed, and the fault tells that name. -/
theorem config_exact (path : Bytes) (s : Settings) :
    (∀ members : Members, members.Perm s.members →
      SpellsDocument (members.map some) (Toml.written members)) ∧
    (∀ (lines : List (Option (String × Value))) (text : List Char), SpellsDocument lines text →
      (lines.filterMap id).Perm s.members →
      config { path, content := .ok (Utf8.encode (String.ofList text)) } = .ok {
        format := s.format.getD .text
        bufferRecords := (s.bufferRecords.map fun n => UInt64.ofNat n.val).getD 10
        logLevel := s.logLevel.getD "warn"
        logFile := s.logFile.map Utf8.encode }) ∧
    ∀ (front back : List (Option (String × Value))) (name : String) (n : Int) (text : List Char),
      SpellsDocument (front ++ some (name, .integer n) :: back) text →
      ((front ++ back).filterMap id).Perm s.members →
      name ∉ ["format", "buffer_records", "log_level", "log_file"] →
      ∃ fault, config { path, content := .ok (Utf8.encode (String.ofList text)) } = .error fault ∧
        fault.chain = ["Failed to parse config file " ++ Path.display path,
          "unknown field `" ++ name ++
            "`, expected one of `format`, `buffer_records`, `log_level`, `log_file`"] := by
  refine ⟨fun members => spellsDocument_members, fun lines text hspelled hlines => ?_, ?_⟩
  · exact config_of_perm path hspelled hlines
  · intro front back name n text hspelled hlines hname
    exact ⟨_, config_of_unknown path hspelled hlines hname, rfl⟩

/-- Two of the names, with a comment, an escape, blanks and underscores, and an empty line between them; and
the same with a name that is none of the four in that line. -/
theorem config_exact_layout :
    (config { path := Utf8.encode "w.toml", content := .ok (Utf8.encode
        "log_file = \"a\\tb\" # kept\r\n\n\tbuffer_records=1_0_2\n") } = .ok {
      format := .text, bufferRecords := 102, logLevel := "warn", logFile := some (Utf8.encode "a\tb") }) ∧
    ∃ fault, config { path := Utf8.encode "w.toml", content := .ok (Utf8.encode
        "log_file = \"a\\tb\" # kept\r\ndepth = -3\n\tbuffer_records=1_0_2\n") } = .error fault ∧
      fault.chain = ["Failed to parse config file w.toml",
        "unknown field `depth`, expected one of `format`, `buffer_records`, `log_level`, `log_file`"] := by
  have hspace : Toml.Blanks [' '] := by simp [Toml.Blanks]
  have htab : Toml.Blanks ['\t'] := by simp [Toml.Blanks]
  have hfile : Toml.SpellsLine (some ("log_file", .text "a\tb")) "log_file = \"a\\tb\" # kept".toList :=
    .pair ⟨by decide, by decide⟩ Toml.blanks_nil hspace hspace
      (.text ⟨[['a'], ['\\', 't'], ['b']], .cons (.itself (by decide) (by decide) rfl)
        (.cons (.letter _ (by decide)) (.cons (.itself (by decide) (by decide) rfl) .nil)), rfl⟩)
      (.comment hspace (by decide))
  have hrecords : Toml.SpellsLine (some ("buffer_records", .integer 102)) "\tbuffer_records=1_0_2".toList :=
    .pair ⟨by decide, by decide⟩ htab Toml.blanks_nil Toml.blanks_nil
      (.integer (.decimal (show ([], false) ∈ Toml.signs by decide)
        (.spaced '1' rfl (.spaced '0' rfl (.last '2' rfl))) (by decide)) (by decide))
      (.blank Toml.blanks_nil)
  have hdepth : Toml.SpellsLine (some ("depth", .integer (-3))) "depth = -3".toList :=
    .pair ⟨by decide, by decide⟩ Toml.blanks_nil hspace hspace
      (.integer (.decimal (show (['-'], true) ∈ Toml.signs by decide) (.last '3' rfl) (by decide))
        (by decide))
      (.blank Toml.blanks_nil)
  have hmore : SpellsDocument [some ("buffer_records", .integer 102)]
      ("\tbuffer_records=1_0_2".toList ++ ['\n']) := .cons hrecords (.feed _) .nil
  have hgood := SpellsDocument.cons hfile (.both _)
    (.cons (.nothing (.blank Toml.blanks_nil)) (.feed _) hmore)
  have hbad := SpellsDocument.cons hfile (.both _) (.cons hdepth (.feed _) hmore)
  let s : Settings := { bufferRecords := some ⟨102, by decide⟩, logFile := some "a\tb" }
  have hperm : [("log_file", .text "a\tb"), ("buffer_records", .integer 102)].Perm s.members :=
    .swap _ _ _
  obtain ⟨-, hexact, hunknown⟩ := config_exact (Utf8.encode "w.toml") s
  refine ⟨hexact _ _ hgood hperm, ?_⟩
  obtain ⟨fault, hfault, hchain⟩ := hunknown [some ("log_file", .text "a\tb")] _ "depth" (-3)
    "log_file = \"a\\tb\" # kept\r\ndepth = -3\n\tbuffer_records=1_0_2\n".toList hbad hperm (by decide)
  rw [Path.display, Utf8.lossy_encode] at hchain
  exact ⟨fault, hfault, hchain.trans (by decide)⟩

end ConfigFile
end Inotify
