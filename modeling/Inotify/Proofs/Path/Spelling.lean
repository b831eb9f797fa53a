/- # How the working directory is spelled

A path means the working directory if its components are those of a single dot. Components are not
bytes: a dot may be followed by any number of slashes and further dots. But a component that is the
starting directory comes of a first piece that is a dot and of nothing else, and a piece behind it
that is no component is empty or a dot (`Path.ofPiece?_eq_none_iff`). So the spellings can be told
from the pieces alone (`Path.isHere_iff`), and all other paths are taken as they are
(`settleTarget_spec`).
-/

import Inotify.Path

namespace Inotify
namespace Path

/-- **The pieces of a path are what stands between its slashes.** -/
theorem pieces_eq_splitOn (path : Bytes) : pieces path = path.splitOn slash := by
  induction path with
  | nil => rfl
  | cons b bs ih =>
    obtain ⟨first, rest, hpieces⟩ := List.exists_cons_of_ne_nil (List.splitOn_ne_nil slash bs)
    rw [hpieces] at ih
    rw [List.splitOn_cons_eq_if_modifyHead, hpieces, List.modifyHead_cons, pieces, ih]
    by_cases hb : b = slash
    · rw [hb, if_pos (beq_self_eq_true slash)]
      exact if_pos rfl
    · rw [if_neg (mt beq_iff_eq.1 hb)]
      exact if_neg hb

/-- **A path that begins at the root has an empty first piece.** -/
theorem splitOn_of_root {path first : Bytes} {rest : List Bytes} (hroot : path.head? = some slash)
    (hpieces : path.splitOn slash = first :: rest) : first = [] := by
  obtain ⟨bs, rfl⟩ := List.head?_eq_some_iff.1 hroot
  rw [List.splitOn_cons_eq_if_modifyHead, if_pos (beq_self_eq_true slash)] at hpieces
  exact (List.cons.inj hpieces).1.symm

/-- **A piece behind another one is no component exactly if it is empty or a dot.** -/
theorem ofPiece?_eq_none_iff {piece : Bytes} :
    Component.ofPiece? piece = none ↔ piece = [] ∨ piece = [dot] := by
  rw [Component.ofPiece?]
  split
  · next hnone => exact iff_of_true rfl hnone
  · next hsome =>
    refine iff_of_false ?_ hsome
    split <;> exact Option.some_ne_none _

/-- **The starting directory is no component of a piece behind another one.** -/
theorem ofPiece?_ne_here (piece : Bytes) : Component.ofPiece? piece ≠ some .here := by
  rw [Component.ofPiece?]
  split
  · simp
  · split <;> simp

/-- **The path is the working directory's, as its pieces spell it**: the first piece is a dot, and
each further one is empty or a dot. -/
def SpellsHere (path : Bytes) : Prop :=
  (path.splitOn slash).head? = some [dot] ∧
    ∀ piece ∈ (path.splitOn slash).tail, piece = [] ∨ piece = [dot]

instance (path : Bytes) : Decidable (SpellsHere path) :=
  inferInstanceAs (Decidable (_ ∧ _))

/-- **A path means the working directory exactly if its pieces spell it.** -/
theorem isHere_iff (path : Bytes) : isHere path = true ↔ SpellsHere path := by
  obtain ⟨first, rest, hpieces⟩ := List.exists_cons_of_ne_nil (List.splitOn_ne_nil slash path)
  have hdot : components [dot] = [.here] := rfl
  rw [isHere, beq_iff_eq, hdot, components, pieces_eq_splitOn, SpellsHere, hpieces, List.head?_cons,
    List.tail_cons]
  dsimp only
  by_cases hroot : path.head? = some slash
  · rw [if_pos hroot, splitOn_of_root hroot hpieces]
    refine iff_of_false ?_ ?_
    · rintro ⟨⟩
    · rintro ⟨⟨⟩, -⟩
  rw [if_neg hroot]
  by_cases hfirst : first = [dot]
  · rw [if_pos hfirst, hfirst, List.singleton_append, List.cons.injEq, eq_self, true_and, eq_self,
      true_and, List.filterMap_eq_nil_iff]
    exact forall₂_congr fun _ _ => ofPiece?_eq_none_iff
  · rw [if_neg hfirst]
    refine iff_of_false ?_ fun h => hfirst (Option.some.inj h.1)
    intro hcomponents
    have hmem : Component.here ∈
        (Component.ofPiece? first).toList ++ rest.filterMap Component.ofPiece? := by
      rw [hcomponents]
      exact List.mem_singleton_self _
    rcases List.mem_append.1 hmem with hhere | hhere
    · exact ofPiece?_ne_here _ (Option.mem_toList.1 hhere)
    · obtain ⟨piece, -, hpiece⟩ := List.mem_filterMap.1 hhere
      exact ofPiece?_ne_here piece hpiece

end Path

/-- **What is watched depends on the working directory exactly if the path spells it.** Then it is
the working directory, and if that cannot be had the failure says so, under the name of the call
that asks for it. Any other path is taken byte for byte, whatever the working directory. -/
theorem settleTarget_spec (path : Bytes) :
    ((∃ here there, settleTarget path here ≠ settleTarget path there) ↔ Path.SpellsHere path) ∧
      (Path.SpellsHere path →
        (∀ directory, settleTarget path (.ok directory) = .ok directory) ∧
        ∀ fault, settleTarget path (.error fault) = .error (.setup .workingDirectory fault.errno)) ∧
      Operation.workingDirectory.name = "getcwd" ∧
      (¬Path.SpellsHere path →
        ∀ workingDirectory, settleTarget path workingDirectory = .ok path) := by
  have hasks : Path.SpellsHere path → ∀ workingDirectory, settleTarget path workingDirectory =
      workingDirectory.mapError fun fault => .setup .workingDirectory fault.errno :=
    fun hspells _ => if_pos ((Path.isHere_iff path).2 hspells)
  have hkeeps : ¬Path.SpellsHere path →
      ∀ workingDirectory, settleTarget path workingDirectory = .ok path :=
    fun hother _ => if_neg (mt (Path.isHere_iff path).1 hother)
  refine ⟨⟨?_, ?_⟩, fun hspells => ⟨?_, ?_⟩, rfl, hkeeps⟩
  · rintro ⟨here, there, hne⟩
    refine Decidable.byContradiction fun hother => hne ?_
    rw [hkeeps hother here, hkeeps hother there]
  · intro hspells
    refine ⟨.ok [], .ok [Path.slash], ?_⟩
    rw [hasks hspells, hasks hspells]
    rintro ⟨⟩
  · exact fun directory => hasks hspells (.ok directory)
  · exact fun fault => hasks hspells (.error fault)

/-- The hypotheses of `settleTarget_spec` are satisfiable, the one by `././/`, the other by the
empty path, `..`, `/.`, `./x` and `.x`. -/
theorem settleTarget_spec_dots :
    Path.SpellsHere [0x2e, 0x2f, 0x2e, 0x2f, 0x2f] ∧
      settleTarget [0x2e, 0x2f, 0x2e, 0x2f, 0x2f] (.ok [0x2f, 0x74]) = .ok [0x2f, 0x74] ∧
      settleTarget [0x2e, 0x2f, 0x2e, 0x2f, 0x2f] (.error (.system 2)) =
        .error (.setup .workingDirectory (.ofCode 2)) ∧
      ∀ path ∈ [[], [0x2e, 0x2e], [0x2f, 0x2e], [0x2e, 0x2f, 0x78], [0x2e, 0x78]],
        ¬Path.SpellsHere path ∧ settleTarget path (.error (.system 2)) = .ok path := by
  have hspells : Path.SpellsHere [0x2e, 0x2f, 0x2e, 0x2f, 0x2f] := by decide
  have hothers : ∀ path ∈ [[], [0x2e, 0x2e], [0x2f, 0x2e], [0x2e, 0x2f, 0x78], [0x2e, 0x78]],
      ¬Path.SpellsHere path := by decide
  obtain ⟨-, hasks, -⟩ := settleTarget_spec [0x2e, 0x2f, 0x2e, 0x2f, 0x2f]
  refine ⟨hspells, (hasks hspells).1 _, (hasks hspells).2 _, fun path hpath => ?_⟩
  exact ⟨hothers path hpath, (settleTarget_spec path).2.2.2 (hothers path hpath) _⟩

end Inotify
