import Pseudocode.Proofs.Merge
import Pseudocode.Proofs.ScanLog

/-!
# Sections of a text

A class header sends a scan to the same place wherever it stands. From there on the log of a
text is what it would be on its own, so that the outline of the whole text is the outline of
the first part with that of the second merged into it.
-/

namespace Pseudocode
namespace Outline

variable {book : Rulebook} {defaultClass : Text}

lemma log_eq_of_classHeader (place : Place) {lines : List Text}
    (h : (firstLine? lines).all fun line => (ClassHeader.ofLine? line).isSome) :
    Place.log book defaultClass place lines = Place.log book defaultClass .outside lines := by
  apply Place.log_congr
  intro line hline
  rw [hline, Option.all_some] at h
  obtain ⟨header, hheader⟩ := Option.isSome_iff_exists.mp h
  rw [(Place.Moves.classHeader place hheader).move_eq,
    (Place.Moves.classHeader .outside hheader).move_eq]

/-- A text that begins with a class header, if it is not blank, adds its outline to that of
whatever stands before it, even in the middle of a method. -/
theorem ofLines_append (first : List Text) {second : List Text}
    (h : (firstLine? second).all fun line => (ClassHeader.ofLine? line).isSome) :
    ofLines book defaultClass (first ++ second) =
      (ofLines book defaultClass first).merge (ofLines book defaultClass second) := by
  calc ofLines book defaultClass (first ++ second)
      = (ofLines book defaultClass first).replay
          (Place.log book defaultClass (Place.reach book defaultClass .outside first) second) := by
        rw [ofLines_eq_replay, ofLines_eq_replay, Place.log_append, replay_append]
    _ = (ofLines book defaultClass first).replay
          (Place.log book defaultClass .outside second) := by
        rw [log_eq_of_classHeader _ h]
    _ = (ofLines book defaultClass first).merge (ofLines book defaultClass second) := by
        rw [ofLines_eq_replay second, merge_replay]

theorem ofLines_append_reopened :
    let first := ["print 1", "class Dog", "int age", "function bark()", "print 2"].map String.toList
    let second := ["", "class Dog, Animal", "int age", "string name", "class Cat"].map String.toList
    ((firstLine? second).all fun line => (ClassHeader.ofLine? line).isSome) = true ∧
      ofLines .empty "Main".toList (first ++ second) =
        (ofLines .empty "Main".toList first).merge (ofLines .empty "Main".toList second) :=
  ⟨by decide, ofLines_append _ (by decide)⟩

end Outline
end Pseudocode
