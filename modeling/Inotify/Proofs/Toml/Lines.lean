/- # Documents of lines

A document without headers is a run of lines, each of which gives a name its value or says nothing:

| part of a line | written as |
| --- | --- |
| a pair | a name, an equals sign, a value, with blanks around each of them |
| the end | a comment, if there is one |

A line is read as what it says, whatever stands behind its end (`Toml.line_spelled`): before the name only
blanks are skipped, the name ends in front of a blank or of the equals sign, and the value is read back by
its own law. So the lines of a document are read one after the other, by induction on the document, and if
no name is given a value twice, the document has just the members that its lines say, in their order
(`Toml.parse?_spelled`).
-/

import Inotify.Toml.Document
import Inotify.Proofs.Toml.Spelling
import Mathlib.Data.List.DropRight

namespace Inotify
namespace Toml

/-! ## Lines and documents -/

/-- Blanks and tabs, if any. -/
def Blanks (cs : List Char) : Prop := ∀ c ∈ cs, c = ' ' ∨ c = '\t'

/-- The end of a line in front of its line end: blanks, and then perhaps a comment. -/
inductive SpellsTail : List Char → Prop where
  | blank {blanks : List Char} (blank : Blanks blanks) : SpellsTail blanks
  | comment {blanks words : List Char} (blank : Blanks blanks)
      (visible : words.all isVisible = true) : SpellsTail (blanks ++ '#' :: words)

/-- A name that needs no quotes. -/
structure BareName (name : String) : Prop where
  /-- There is something of it. -/
  ne_nil : name.toList ≠ []
  /-- All its characters may stand without quotes. -/
  bare : name.toList.all isBare = true

/-- **A spelling of a line**, without its line end: of nothing, or of a name with its value. -/
inductive SpellsLine : Option (String × Value) → List Char → Prop where
  | nothing {tail : List Char} (rest : SpellsTail tail) : SpellsLine none tail
  | pair {name : String} {v : Value} {lead left right text tail : List Char} (bare : BareName name)
      (before : Blanks lead) (behind : Blanks left) (between : Blanks right)
      (spelled : SpellsValue v text) (rest : SpellsTail tail) :
      SpellsLine (some (name, v)) (lead ++ (name.toList ++ (left ++ '=' :: (right ++ (text ++ tail)))))

/-- What a line end stands in front of. -/
inductive LineEnd : List Char → List Char → Prop where
  | feed (rest : List Char) : LineEnd ('\n' :: rest) rest
  | both (rest : List Char) : LineEnd ('\r' :: '\n' :: rest) rest

/-- **A spelling of a document**, line by line. The last line may be without a line end. -/
inductive SpellsDocument : List (Option (String × Value)) → List Char → Prop where
  | nil : SpellsDocument [] []
  | last {said : Option (String × Value)} {text : List Char} (spelled : SpellsLine said text) :
      SpellsDocument [said] text
  | cons {said : Option (String × Value)} {more : List (Option (String × Value))}
      {text ending rest : List Char} (spelled : SpellsLine said text) (ended : LineEnd ending rest)
      (others : SpellsDocument more rest) : SpellsDocument (said :: more) (text ++ ending)

/-- What stands behind a line: nothing, or a line end and what stands behind it. -/
def Over (after rest : List Char) : Prop := (after = [] ∧ rest = []) ∨ LineEnd after rest

/-! ## Blanks and comments -/

variable {c : Char} {blanks tail left right lead after rest text : List Char} {n : String} {v : Value}
  {said : Option (String × Value)}

/-- **There need not be any blanks.** -/
theorem blanks_nil : Blanks [] := fun _ h => by cases h

/-- **What has blanks in front of it begins with one of them**, or as it does without them. -/
theorem Blanks.head (h : Blanks blanks) (hc : c ∈ (blanks ++ rest).head?) :
    (c = ' ' ∨ c = '\t') ∨ c ∈ rest.head? := by
  cases blanks with
  | nil => exact .inr hc
  | cons d blanks =>
    obtain rfl := Option.some.inj hc
    exact .inl (h d List.mem_cons_self)

/-- **Blanks are skipped** up to what is none. -/
theorem skipBlanks_append (hblank : Blanks blanks) (hrest : ∀ c ∈ rest.head?, c ≠ ' ' ∧ c ≠ '\t') :
    skipBlanks (blanks ++ rest) = rest := by
  refine (cut_append (fun c hc => ?_) (fun c hc => ?_)).2
  · simpa using hblank c hc
  · simpa using hrest c hc

/-- **A line is over** in front of a line feed or a carriage return, if of anything. -/
theorem Over.head (h : Over after rest) (hc : c ∈ after.head?) : c = '\n' ∨ c = '\r' := by
  rcases h with ⟨rfl, -⟩ | _ | _
  · cases hc
  · exact .inl (Option.some.inj hc).symm
  · exact .inr (Option.some.inj hc).symm

/-- **The end of a line is taken**, with its line end. -/
theorem lineTail_spelled (htail : SpellsTail tail) (hover : Over after rest) :
    lineTail (tail ++ after) = some ((), rest) := by
  have hblank : ∀ c ∈ after.head?, c ≠ ' ' ∧ c ≠ '\t' := by
    intro c hc
    rcases hover.head hc with rfl | rfl <;> decide
  cases htail with
  | blank h =>
    have hnone : comment after = none := by
      rcases hover with ⟨rfl, -⟩ | _ | _ <;> rfl
    rw [lineTail, skipBlanks_append h hblank, hnone]
    rcases hover with ⟨rfl, rfl⟩ | _ | _ <;> rfl
  | @comment blanks words h hwords =>
    have hskip : skipBlanks (blanks ++ '#' :: words ++ after) = '#' :: (words ++ after) := by
      rw [List.append_assoc]
      refine skipBlanks_append h fun c hc => ?_
      obtain rfl := Option.some.inj hc
      decide
    have hcomment : comment ('#' :: (words ++ after)) = some ((), after) := by
      have hend : ∀ c ∈ after.head?, isVisible c = false := by
        intro c hc
        rcases hover.head hc with rfl | rfl <;> rfl
      rw [comment, (cut_append (List.all_eq_true.1 hwords) hend).2]
    rw [lineTail, hskip, hcomment]
    rcases hover with ⟨rfl, rfl⟩ | _ | _ <;> rfl

/-! ## Names -/

/-- **A bare name begins with a bare character.** -/
theorem BareName.exists_cons (h : BareName n) : ∃ d ds, n.toList = d :: ds ∧ isBare d = true := by
  obtain ⟨d, ds, hds⟩ := List.exists_cons_of_ne_nil h.ne_nil
  exact ⟨d, ds, hds, List.all_eq_true.1 h.bare d (by simp [hds])⟩

/-- **A bare character** is not one that is looked for in front of a name. -/
theorem ne_of_isBare (h : isBare c = true) {e : Char} (he : isBare e = false) : c ≠ e := by
  rintro rfl
  rw [he] at h
  cases h

/-- **A bare name is read back** in front of what is not bare. -/
theorem name_bare (h : BareName n) (hrest : ∀ c ∈ rest.head?, isBare c = false) :
    name (n.toList ++ rest) = some (n, rest) := by
  have hcut := (cut_append (List.all_eq_true.1 h.bare) hrest).1
  obtain ⟨d, ds, hds, hd⟩ := h.exists_cons
  have hback : String.ofList (d :: ds) = n := by rw [← hds, String.ofList_toList]
  rw [hds] at hcut ⊢
  rw [List.cons_append] at hcut ⊢
  rw [name]
  · simp [hcut, hback]
  · rintro _ heq
    exact ne_of_isBare hd (by decide) (List.cons.inj heq).1
  · rintro _ heq
    exact ne_of_isBare hd (by decide) (List.cons.inj heq).1

/-- **Blanks and an equals sign are not bare.** -/
theorem isBare_of_blanks (h : Blanks left) (rest : List Char) :
    ∀ c ∈ (left ++ '=' :: rest).head?, isBare c = false := by
  intro c hc
  rcases h.head hc with (rfl | rfl) | hc
  · rfl
  · rfl
  · obtain rfl := Option.some.inj hc
    rfl

/-- **In front of a bare name blanks are skipped**, and nothing else. -/
theorem BareName.skipBlanks_eq (h : BareName n) (hlead : Blanks lead) (rest : List Char) :
    skipBlanks (lead ++ (n.toList ++ rest)) = n.toList ++ rest := by
  obtain ⟨d, ds, hds, hd⟩ := h.exists_cons
  refine skipBlanks_append hlead fun c hc => ?_
  rw [hds] at hc
  obtain rfl := Option.some.inj hc
  exact ⟨ne_of_isBare hd rfl, ne_of_isBare hd rfl⟩

/-- **A bare name in front of an equals sign is read as a key.** -/
theorem key_bare (h : BareName n) (hleft : Blanks left) :
    key (n.toList ++ (left ++ '=' :: rest)) = some ({ name := n }, '=' :: rest) := by
  have hskip : skipBlanks (n.toList ++ (left ++ '=' :: rest)) = n.toList ++ (left ++ '=' :: rest) :=
    h.skipBlanks_eq blanks_nil _
  have hname := name_bare h (isBare_of_blanks hleft rest)
  have hdot : noDot (left ++ '=' :: rest) = some ((), '=' :: rest) := by
    rw [noDot, skipBlanks_append hleft fun c hc => by obtain rfl := Option.some.inj hc; decide]
    rfl
  have hdots := Reader.upTo_of_close (Reader.takes_strict dottedName) hdot
  simp [key, hskip, hname, hdots]

/-! ## Lines -/

/-- **A pair is read back.** -/
theorem pair_spelled (h : BareName n) (hleft : Blanks left) (hright : Blanks right)
    (hspelled : SpellsValue v text) (hrest : AtEnd rest) :
    pair (value depthBound) (n.toList ++ (left ++ '=' :: (right ++ (text ++ rest)))) =
      some (({ name := n }, v), rest) := by
  have hskip : skipBlanks (right ++ (text ++ rest)) = text ++ rest := by
    obtain ⟨d, others, heq, hd⟩ := hspelled.exists_cons rest
    refine skipBlanks_append hright fun c hc => ?_
    rw [heq] at hc
    obtain rfl := Option.some.inj hc
    constructor
    · rintro rfl
      exact absurd hd (by decide)
    · rintro rfl
      exact absurd hd (by decide)
  simp [pair, key_bare h hleft, oneChar, hskip, value_spelled hspelled hrest]

/-- **The end of a line begins with a blank or the sign of a comment**, or with what stands behind it. -/
theorem SpellsTail.head (h : SpellsTail tail) (hc : c ∈ (tail ++ after).head?) :
    c ∈ [' ', '\t', '#'] ∨ c ∈ after.head? := by
  cases h with
  | blank h =>
    rcases h.head hc with (rfl | rfl) | hc
    · exact .inl (by decide)
    · exact .inl (by decide)
    · exact .inr hc
  | comment h _ =>
    rw [List.append_assoc] at hc
    rcases h.head hc with (rfl | rfl) | hc
    · exact .inl (by decide)
    · exact .inl (by decide)
    · obtain rfl := Option.some.inj hc
      exact .inl (by decide)

/-- **The end of a line may stand behind a value.** -/
theorem SpellsTail.atEnd (h : SpellsTail tail) (hover : Over after rest) : AtEnd (tail ++ after) := by
  intro c hc
  rcases h.head hc with htail | hc
  · exact List.mem_append_left ['\n', '\r'] htail
  · rcases hover.head hc with rfl | rfl <;> decide

/-- **In front of a bare name a line is not over**: the name begins neither a comment nor a line end. -/
theorem BareName.lineTail_eq (h : BareName n) (rest : List Char) : lineTail (n.toList ++ rest) = none := by
  have hskip : skipBlanks (n.toList ++ rest) = n.toList ++ rest := h.skipBlanks_eq blanks_nil rest
  obtain ⟨d, ds, hds, hd⟩ := h.exists_cons
  have hhash : d ≠ '#' := ne_of_isBare hd rfl
  have hfeed : d ≠ '\n' := ne_of_isBare hd rfl
  have hreturn : d ≠ '\r' := ne_of_isBare hd rfl
  rw [lineTail, hskip, hds]
  simp [comment, lineEnd, hhash, hfeed, hreturn]

/-- **A statement that begins with a bare name is a pair.** -/
theorem BareName.statement_eq (h : BareName n) (rest : List Char) :
    statement (n.toList ++ rest) =
      (pair (value depthBound) (n.toList ++ rest)).map fun ((k, v), cs) => (.pair k v, cs) := by
  obtain ⟨d, ds, hds, hd⟩ := h.exists_cons
  have hbracket : d ≠ '[' := ne_of_isBare hd rfl
  rw [hds, List.cons_append]
  simp [statement, hbracket]

/-- The statement that gives a name its value. -/
def Statement.ofMember (member : String × Value) : Statement := .pair { name := member.1 } member.2

/-- **A line is read back**, whatever stands behind it. -/
theorem line_spelled (h : SpellsLine said text) (hover : Over after rest) :
    line (text ++ after) = some (said.map Statement.ofMember, rest) := by
  cases h with
  | nothing htail =>
    have hagain : lineTail (skipBlanks (text ++ after)) = lineTail (text ++ after) := by
      rw [lineTail, lineTail, skipBlanks, skipBlanks, List.dropWhile_idempotent]
    rw [line, hagain, lineTail_spelled htail hover]
    rfl
  | @pair n v lead left right text tail hbare hlead hleft hright hspelled htail =>
    have hpair := pair_spelled hbare hleft hright hspelled (htail.atEnd hover)
    have htext : lead ++ (n.toList ++ (left ++ '=' :: (right ++ (text ++ tail)))) ++ after =
        lead ++ (n.toList ++ (left ++ '=' :: (right ++ (text ++ (tail ++ after))))) := by
      simp
    rw [htext, line, hbare.skipBlanks_eq hlead, hbare.lineTail_eq]
    simp [hbare.statement_eq, hpair, lineTail_spelled htail hover, Statement.ofMember]

/-! ## Documents -/

/-- **A line is read in front of others.** -/
theorem upTo_line {read : List (Option Statement)} (h : SpellsLine said text) (hover : Over after rest)
    (hless : rest.length < (text ++ after).length)
    (hread : Reader.upTo endOfText line.strict (Reader.takes_strict _) rest = some ((read, ()), [])) :
    Reader.upTo endOfText line.strict (Reader.takes_strict _) (text ++ after) =
      some ((said.map Statement.ofMember :: read, ()), []) := by
  have hopen : endOfText (text ++ after) = none := by
    cases hcs : text ++ after with
    | nil =>
      rw [hcs] at hless
      cases hless
    | cons _ _ => rfl
  rw [Reader.upTo_of_unit _ hopen (Reader.strict_eq (line_spelled h hover) hless), hread]
  rfl

variable {lines : List (Option (String × Value))}

/-- **The lines of a document are read one after the other.** -/
theorem upTo_spelled (h : SpellsDocument lines text) :
    ∃ read, Reader.upTo endOfText line.strict (Reader.takes_strict _) text = some ((read, ()), []) ∧
      read.filterMap id = (lines.filterMap id).map Statement.ofMember := by
  have hend : Reader.upTo endOfText line.strict (Reader.takes_strict _) [] = some (([], ()), []) :=
    Reader.upTo_of_close _ rfl
  induction h with
  | nil => exact ⟨[], hend, rfl⟩
  | @last said text hspelled =>
    have hover : Over [] [] := .inl ⟨rfl, rfl⟩
    by_cases htext : text = []
    · -- There is no line to be read, and a line of nothing says nothing.
      have hread := line_spelled hspelled hover
      rw [htext] at hread ⊢
      obtain rfl : said = none := by
        cases said with
        | none => rfl
        | some _ => cases hread
      exact ⟨[], hend, rfl⟩
    · have hless : ([] : List Char).length < (text ++ []).length := by
        rw [List.append_nil]
        exact List.length_pos_iff.2 htext
      have hread := upTo_line hspelled hover hless hend
      rw [List.append_nil] at hread
      refine ⟨_, hread, ?_⟩
      cases said <;> rfl
  | @cons said more text ending rest hspelled hended _ ih =>
    obtain ⟨read, hread, hsaid⟩ := ih
    have hless : rest.length < (text ++ ending).length := by
      rw [List.length_append]
      cases hended with
      | feed =>
        rw [List.length_cons]
        omega
      | both =>
        rw [List.length_cons, List.length_cons]
        omega
    refine ⟨_, upTo_line hspelled (.inr hended) hless hread, ?_⟩
    cases said with
    | none => exact hsaid
    | some member =>
      show Statement.ofMember member :: read.filterMap id = _
      rw [hsaid]
      rfl

/-- **A line begins with a blank, the sign of a comment or a name**, if it is not empty. -/
theorem SpellsLine.head (h : SpellsLine said text) (hc : c ∈ text.head?) :
    c ∈ [' ', '\t', '#'] ∨ isBare c = true := by
  cases h with
  | nothing htail =>
    rw [← List.append_nil text] at hc
    rcases htail.head hc with htail | hc
    · exact .inl htail
    · cases hc
  | pair hbare hlead _ _ _ _ =>
    rcases hlead.head hc with (rfl | rfl) | hc
    · exact .inl (by decide)
    · exact .inl (by decide)
    · obtain ⟨d, ds, hds, hd⟩ := hbare.exists_cons
      rw [hds] at hc
      obtain rfl := Option.some.inj hc
      exact .inr hd

/-- **A document does not begin with a byte order mark.** -/
theorem SpellsDocument.head (h : SpellsDocument lines text) : text.head? ≠ some '\ufeff' := by
  have hline : ∀ {said : Option (String × Value)} {text : List Char}, SpellsLine said text →
      text.head? ≠ some '\ufeff' := by
    intro said text hspelled hhead
    rcases hspelled.head hhead with hmem | hbare
    · exact absurd hmem (by decide)
    · exact absurd hbare (by decide)
  cases h with
  | nil => nofun
  | last hspelled => exact hline hspelled
  | @cons _ _ text ending _ hspelled hended _ =>
    cases text with
    | nil => cases hended <;> exact fun h => absurd (Option.some.inj h) (by decide)
    | cons c text =>
      rw [List.cons_append, List.head?_cons]
      exact hline hspelled

/-- **Pairs of new names are taken into a draft of a document**, one behind the other. -/
theorem foldlM_add (members root : Members) (h : ((root ++ members).map Prod.fst).Nodup) :
    (members.map Statement.ofMember).foldlM Draft.add { root := root } =
      some { root := root ++ members } := by
  induction members generalizing root with
  | nil => simp
  | cons member members ih =>
    have hnew : root.find? member.1 = none := by
      rw [List.map_append, List.map_cons, List.nodup_append] at h
      rw [Members.find?, List.lookup_eq_none_iff]
      intro other hother
      have hne := h.2.2 other.1 (List.mem_map_of_mem hother) member.1 List.mem_cons_self
      simpa using hne.symm
    have hadd : Draft.add { root := root } (Statement.ofMember member) =
        some { root := root ++ [member] } := by
      simp [Draft.add, Statement.ofMember, Members.within, Members.change, Members.assign, hnew]
    rw [List.append_cons] at h ⊢
    rw [List.map_cons, List.foldlM_cons, hadd]
    exact ih (root ++ [member]) h

/-- **The members of a document** are those that its lines say, in their order, if no name is given twice. -/
theorem parse?_spelled (h : SpellsDocument lines text) (hnames : ((lines.filterMap id).map Prod.fst).Nodup) :
    parse? (String.ofList text) = some (lines.filterMap id) := by
  obtain ⟨read, hread, hsaid⟩ := upTo_spelled h
  have hmark := h.head
  have hplain : statements (String.ofList text) = some (read.filterMap id) := by
    rw [statements, String.toList_ofList]
    dsimp only
    split
    · exact absurd rfl hmark
    · rw [hread]
      rfl
  rw [parse?, hplain, hsaid]
  simp only [Option.bind_eq_bind, Option.bind_some, foldlM_add _ [] hnames, List.nil_append]

/-! ## Documents are written -/

/-- The plain spelling of a string or an integer. -/
def writtenValue : Value → List Char
  | .text s => quoted s
  | .integer n => (Numeral.signed n).toList
  | _ => []

/-- A document with one name and its value on each line. -/
def written (members : Members) : List Char :=
  members.flatMap fun (n, v) => n.toList ++ (' ' :: '=' :: ' ' :: writtenValue v) ++ ['\n']

/-- **What is written line by line is a document**, if the names are bare and the values strings or integers
of 64 bits. -/
theorem spellsDocument_written {members : Members} (hnames : ∀ member ∈ members, BareName member.1)
    (hvalues : ∀ member ∈ members, SpellsValue member.2 (writtenValue member.2)) :
    SpellsDocument (members.map some) (written members) := by
  have hspace : Blanks [' '] := by simp [Blanks]
  induction members with
  | nil => exact .nil
  | cons member members ih =>
    obtain ⟨hname, hnames⟩ := List.forall_mem_cons.1 hnames
    obtain ⟨hvalue, hvalues⟩ := List.forall_mem_cons.1 hvalues
    have hline := SpellsLine.pair hname blanks_nil hspace hspace hvalue (.blank blanks_nil)
    have hdocument := SpellsDocument.cons hline (.feed _) (ih hnames hvalues)
    simpa [written] using hdocument

end Toml
end Inotify
