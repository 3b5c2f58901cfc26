import Pseudocode.Statement.Convert
import Mathlib.Data.List.Infix

/-!
# Parentheses around what is printed

A print statement puts parentheses around an expression that does not open with one, and takes an
expression that does to bring its own. The parentheses of the statement enclose the whole expression
exactly if the one that it opens with, if any, is not closed before its end. An expression made of
several groups, such as `(a) + (b)`, is therefore printed only in part.
-/

namespace Pseudocode
namespace Text

/-- Every parenthesis of the text has its counterpart in it. -/
structure Paired (t : Text) : Prop where
  total : t.count '(' = t.count ')'
  start : ∀ u, u <+: t → u.count ')' ≤ u.count '('

instance (t : Text) : Decidable (Paired t) :=
  decidable_of_iff (t.count '(' = t.count ')' ∧ ∀ u ∈ t.inits, u.count ')' ≤ u.count '(')
    ⟨fun ⟨htotal, hstart⟩ => ⟨htotal, fun u hu => hstart u ((List.mem_inits u t).mpr hu)⟩,
      fun h => ⟨h.total, fun u hu => h.start u ((List.mem_inits u t).mp hu)⟩⟩

/-- The parenthesis that the text opens with is closed before its end. -/
def ClosesEarly (t : Text) : Prop :=
  ∃ inner after, t = '(' :: (inner ++ ')' :: after) ∧ Paired inner ∧ after ≠ []

variable {inner inner' after after' t : Text}

/-- Where more is closed than is opened and `d` parentheses were open before, one closes the
outermost of these. -/
lemma exists_close_of_count_lt {d : Nat} (h : t.count '(' + d < t.count ')') :
    ∃ inner after, t = inner ++ ')' :: after ∧ inner.count ')' = inner.count '(' + d ∧
      ∀ u, u <+: inner → u.count ')' ≤ u.count '(' + d := by
  induction t generalizing d with
  | nil => exact absurd h (Nat.not_lt_zero _)
  | cons c t ih =>
    by_cases hclosed : c = ')' ∧ d = 0
    · obtain ⟨rfl, rfl⟩ := hclosed
      exact ⟨[], t, rfl, rfl, fun u hu => by rw [List.prefix_nil.mp hu, List.count_nil]; omega⟩
    · have hcounts : [c].count ')' ≤ [c].count '(' + d := by
        by_cases hc : c = ')'
        · have hd : d ≠ 0 := fun hd => hclosed ⟨hc, hd⟩
          have hle : [c].count ')' ≤ 1 := List.count_le_length
          omega
        · simp [hc]
      have hcons (a : Char) (s : Text) : (c :: s).count a = [c].count a + s.count a := by
        rw [← List.count_append, List.singleton_append]
      rw [hcons '(' t, hcons ')' t] at h
      obtain ⟨inner, after, rfl, htotal, hstart⟩ :=
        ih (d := [c].count '(' + d - [c].count ')') (by omega)
      refine ⟨c :: inner, after, rfl, ?_, fun u hu => ?_⟩
      · rw [hcons '(' inner, hcons ')' inner]
        omega
      · rcases List.prefix_cons_iff.mp hu with rfl | ⟨v, rfl, hv⟩
        · exact Nat.zero_le _
        · have hle := hstart v hv
          rw [hcons '(' v, hcons ')' v]
          omega

lemma Paired.exists_close (h : Paired ('(' :: t)) :
    ∃ inner after, t = inner ++ ')' :: after ∧ Paired inner := by
  have htotal := h.total
  rw [List.count_cons_self, List.count_cons_of_ne (by decide)] at htotal
  have hlt : t.count '(' + 0 < t.count ')' := by omega
  obtain ⟨inner, after, ht, htotal', hstart⟩ := exists_close_of_count_lt hlt
  exact ⟨inner, after, ht, htotal'.symm, hstart⟩

lemma Paired.length_le (h : Paired inner) (h' : Paired inner')
    (heq : inner ++ ')' :: after = inner' ++ ')' :: after') : inner'.length ≤ inner.length := by
  by_contra hlt
  have hleft : inner ++ [')'] <+: inner' ++ ')' :: after' := ⟨after, by rw [← heq]; simp⟩
  have hright : inner' <+: inner' ++ ')' :: after' := List.prefix_append _ _
  have hclose : inner ++ [')'] <+: inner' := by
    refine List.prefix_of_prefix_length_le hleft hright ?_
    rw [List.length_append, List.length_singleton]
    omega
  have hstart := h'.start _ hclose
  have htotal := h.total
  simp [List.count_append] at hstart
  omega

lemma Paired.close_unique (h : Paired inner) (h' : Paired inner')
    (heq : inner ++ ')' :: after = inner' ++ ')' :: after') : inner = inner' ∧ after = after' := by
  obtain ⟨rfl, hafter⟩ :=
    List.append_inj heq (Nat.le_antisymm (h'.length_le h heq.symm) (h.length_le h' heq))
  exact ⟨rfl, (List.cons.inj hafter).2⟩

end Text

namespace Statement

open Text

/-- The statement prints one group in parentheses with the whole expression in it: the parenthesis
right before the group is closed by the one right before the semicolon. -/
def PrintsWhole (expression statement : Text) : Prop :=
  ∃ inner, statement = "System.out.println".toList ++ '(' :: (inner ++ ")".toList) ++ ";".toList ∧
    Paired inner ∧ expression <:+: '(' :: (inner ++ [')'])

variable {line rest : Text}

lemma print?_of_open {content : Text} (hrest : Keyword.after? "print".toList line = some rest)
    (h : trim rest = '(' :: content) :
    print? line = some ("System.out.println".toList ++ '(' :: content ++ ";".toList) := by
  rw [print?, hrest, Option.map_some, h]
  rfl

lemma print?_of_not_open (hrest : Keyword.after? "print".toList line = some rest)
    (h : (trim rest).head? ≠ some '(') :
    print? line = some ("System.out.println".toList ++ '(' :: (trim rest ++ ")".toList)
      ++ ";".toList) := by
  rw [print?, hrest, Option.map_some]
  split
  · rename_i content hcontent
    exact absurd (by rw [hcontent]; rfl) h
  · simp

/-- Of an expression that closes early only the first group is in the parentheses of the
statement. -/
lemma not_printsWhole_of_closesEarly (hrest : Keyword.after? "print".toList line = some rest)
    (h : ClosesEarly (trim rest)) {statement : Text} (hprint : print? line = some statement) :
    ¬PrintsWhole (trim rest) statement := by
  obtain ⟨inner, after, hcontent, hinner, hafter⟩ := h
  rw [print?_of_open hrest hcontent] at hprint
  rintro ⟨inner', hstatement, hinner', -⟩
  cases hprint
  have hgroup : inner ++ ')' :: (after ++ [';']) = inner' ++ [')', ';'] := by
    simpa using hstatement
  have hend := (hinner.close_unique hinner' hgroup).2
  exact hafter (by simpa using hend)

/-- The statement that prints an expression encloses all of it in one pair of parentheses if and
only if the expression does not open with a parenthesis that is closed before its end. -/
theorem print?_encloses (hrest : Keyword.after? "print".toList line = some rest)
    (hpaired : Paired (trim rest)) :
    ∃ statement, print? line = some statement ∧
      (PrintsWhole (trim rest) statement ↔ ¬ClosesEarly (trim rest)) := by
  by_cases hopen : (trim rest).head? = some '('
  · obtain ⟨content, hcontent⟩ := List.head?_eq_some_iff.mp hopen
    have hprint := print?_of_open hrest hcontent
    refine ⟨_, hprint, fun hwhole hearly => ?_, fun hearly => ?_⟩
    · exact not_printsWhole_of_closesEarly hrest hearly hprint hwhole
    · rw [hcontent] at hpaired
      obtain ⟨inner, after, rfl, hinner⟩ := hpaired.exists_close
      have hafter : after = [] := by
        by_contra hafter
        exact hearly ⟨inner, after, hcontent, hinner, hafter⟩
      subst hafter
      exact ⟨inner, rfl, hinner, hcontent ▸ List.infix_refl _⟩
  · refine ⟨_, print?_of_not_open hrest hopen, fun _ => ?_, fun _ => ?_⟩
    · rintro ⟨inner, after, hcontent, -⟩
      exact hopen (by rw [hcontent]; rfl)
    · exact ⟨trim rest, rfl, hpaired, ⟨['('], [')'], by simp⟩⟩

theorem print?_encloses_sum :
    let line := "PRINT ((a) + (b)) ".toList
    let rest := " ((a) + (b)) ".toList
    Keyword.after? "print".toList line = some rest ∧ Paired (trim rest) ∧
      ¬ClosesEarly (trim rest) ∧
      ∃ statement, print? line = some statement ∧ PrintsWhole (trim rest) statement := by
  intro line rest
  have hrest : Keyword.after? "print".toList line = some rest := by decide
  have hpaired : Paired (trim rest) := by decide
  have hopen : ¬ClosesEarly (trim rest) := by
    rintro ⟨inner, after, hcontent, hinner, hafter⟩
    have hgroup : Paired "(a) + (b)".toList := by decide
    have hclose : "(a) + (b)".toList ++ [')'] = inner ++ ')' :: after := (List.cons.inj hcontent).2
    exact hafter (hgroup.close_unique hinner hclose).2.symm
  obtain ⟨statement, hprint, hwhole⟩ := print?_encloses hrest hpaired
  exact ⟨hrest, hpaired, hopen, statement, hprint, hwhole.mpr hopen⟩

/-- The parenthesis after `println` is closed after the first of two groups. -/
theorem print?_partOfExpression :
    let line := "print (a) + (b)".toList
    let expression := "(a) + (b)".toList
    let statement := "System.out.println(a) + (b);".toList
    (Keyword.after? "print".toList line).map trim = some expression ∧ expression ≠ [] ∧
      '\x22' ∉ expression ∧ '\x27' ∉ expression ∧ Paired expression ∧
      print? line = some statement ∧ ¬PrintsWhole expression statement := by
  intro line expression statement
  have hrest : Keyword.after? "print".toList line = some " (a) + (b)".toList := by decide
  have hprint : print? line = some statement := by decide
  have hearly : ClosesEarly (trim " (a) + (b)".toList) :=
    ⟨['a'], " + (b)".toList, by decide, by decide, by decide⟩
  exact ⟨by decide, by decide, by decide, by decide, by decide, hprint,
    not_printsWhole_of_closesEarly hrest hearly hprint⟩

end Statement
end Pseudocode
