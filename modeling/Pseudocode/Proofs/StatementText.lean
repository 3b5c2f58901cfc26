import Pseudocode.Proofs.Marker
import Pseudocode.Proofs.Pieces
import Pseudocode.Proofs.Threads

/-!
# Line feeds and braces in statements

Source is laid out by line feeds and braces. Neither is made by converting a line: a statement
has them from the line, or from the template of the rule that made it.
-/

namespace Pseudocode
namespace Text

/-- The signs that lay out source: line feeds and braces. -/
def isLayout (c : Char) : Bool := c == '\n' || c == '\x7b' || c == '\x7d'

variable {c : Char}

lemma toNat_of_isLayout (h : isLayout c = true) :
    c.toNat = 10 ∨ c.toNat = 123 ∨ c.toNat = 125 := by
  simp only [isLayout, Bool.or_eq_true, beq_iff_eq, or_assoc] at h
  rcases h with rfl | rfl | rfl <;> decide

/-! ### Lower case -/

lemma lower_runs : ∀ run ∈ Table.lower, run.hi < 128 ∨ 128 ≤ (run.lo : Int) + run.shift ∨
    run.hi ≤ run.lo ∧ 97 ≤ run.lo + run.shift ∧ run.lo + run.shift ≤ 122 := by
  decide +kernel

lemma eq_of_asciiLower_eq {d : Char} (hc : isLayout c = true) (h : asciiLower d = c) : d = c := by
  have hcode := toNat_of_isLayout hc
  by_cases hd : 'A' ≤ d ∧ d ≤ 'Z'
  · have hlower := toNat_asciiLower hd
    have hle : 65 ≤ d.toNat := hd.1
    have hge : d.toNat ≤ 90 := hd.2
    rw [h] at hlower
    omega
  · rwa [asciiLower, if_neg hd] at h

lemma shiftBy_lower_ne {d : Char} (hc : isLayout c = true) (hd : ¬d.toNat < 128) :
    shiftBy Table.lower d ≠ c := by
  have hcode := toNat_of_isLayout hc
  intro h
  unfold shiftBy at h
  split at h
  · rename_i run hrun
    have hcovers := List.find?_some hrun
    simp only [CaseRun.covers, Bool.and_eq_true, decide_eq_true_eq] at hcovers
    rcases toNat_ofNat_or (Int.toNat (d.toNat + run.shift)) with hnat | hnull
    · rw [h] at hnat
      rcases lower_runs run (List.mem_of_find?_eq_some hrun) with hlow | hhigh | hsingle <;> omega
    · rw [← h, hnull] at hcode
      exact absurd hcode (by decide)
  · rw [h] at hd
    omega

lemma mem_of_mem_lowerAfter {seen t : Text} (hc : isLayout c = true) (h : c ∈ lowerAfter seen t) :
    c ∈ t := by
  induction t generalizing seen with
  | nil => exact h
  | cons d rest ih =>
    rcases List.mem_append.mp h with h | h
    · -- the lower case of one character has no such sign unless it is one
      split_ifs at h with hd hdotted hsigma hfinal
      · rw [eq_of_asciiLower_eq hc (List.mem_singleton.mp h).symm]
        exact List.mem_cons_self
      · rcases List.mem_pair.mp h with rfl | rfl <;> exact absurd hc (by decide)
      · exact absurd hc (List.mem_singleton.mp h ▸ by decide)
      · exact absurd hc (List.mem_singleton.mp h ▸ by decide)
      · exact absurd (List.mem_singleton.mp h).symm (shiftBy_lower_ne hc hd)
    · exact List.mem_cons_of_mem d (ih h)

lemma mem_of_mem_lower {t : Text} (hc : isLayout c = true) (h : c ∈ lower t) : c ∈ t :=
  mem_of_mem_lowerAfter hc h

end Text

variable {c : Char}

/-! ### Rules -/

lemma Template.mem_of_mem_fill {template : Text} {args : List Text} (h : c ∈ fill template args) :
    c ∈ template ∨ ∃ arg ∈ args, c ∈ arg := by
  fun_induction fill template args with
  | case1 => exact absurd h List.not_mem_nil
  | case2 rest args ih =>
    rcases List.mem_append.mp h with h | h
    · cases args with
      | nil => exact absurd h List.not_mem_nil
      | cons arg args => exact .inr ⟨arg, List.mem_cons_self, h⟩
    · rcases ih h with h | ⟨arg, harg, h⟩
      · exact .inl (List.mem_cons_of_mem _ (List.mem_cons_of_mem _ h))
      · exact .inr ⟨arg, List.mem_of_mem_tail harg, h⟩
  | case3 d rest args _ ih =>
    rcases List.mem_cons.mp h with rfl | h
    · exact .inl List.mem_cons_self
    · exact (ih h).imp_left (List.mem_cons_of_mem d)

namespace Rule

lemma mem_arguments {filling : Filling} {groups : List Text} {arg : Text}
    (h : arg ∈ arguments filling groups) (hc : c ∈ arg) : arg ∈ groups := by
  have hgroup {i : Nat} (hi : arg = groups.getD i []) : arg ∈ groups := by
    rw [List.getD_eq_getElem?_getD] at hi
    cases hget : groups[i]? with
    | none =>
      rw [hget] at hi
      exact absurd (hi ▸ hc) List.not_mem_nil
    | some group =>
      rw [hget] at hi
      exact hi ▸ List.mem_of_getElem? hget
  cases filling with
  | inOrder => exact h
  | countedLoop =>
    simp only [arguments, List.mem_cons, List.not_mem_nil, or_false] at h
    rcases h with h | h | h | h | h <;> exact hgroup h

lemma mem_of_mem_statement? {rule : Rule} {line statement : Text}
    (h : rule.statement? line = some statement) (hc : c ∈ statement) :
    c ∈ line ∨ c ∈ rule.written.template := by
  obtain ⟨p, -, hp⟩ := List.exists_of_findSome?_eq_some h
  obtain ⟨groups, hgroups, rfl⟩ := Option.map_eq_some_iff.mp hp
  rcases Template.mem_of_mem_fill hc with hc | ⟨arg, harg, hc⟩
  · exact .inr hc
  · exact .inl (Pattern.subset_of_captures? hgroups arg (mem_arguments harg hc) hc)

end Rule

/-! ### Statements without rules -/

namespace Statement

lemma notMem_of_isLayout {t : Text} (ht : ∀ c ∈ t, Text.isLayout c = false)
    (hc : Text.isLayout c = true) : c ∉ t :=
  fun h => Bool.noConfusion (hc.symm.trans (ht c h))

lemma scannerRead?_eq_some {ty name method : Text} (h : scannerRead? ty = some (name, method)) :
    (name = ty ∨ name = "String".toList) ∧ ∀ c ∈ method, Text.isLayout c = false := by
  unfold scannerRead? at h
  split_ifs at h <;> obtain ⟨rfl, rfl⟩ := Prod.mk.inj (Option.some.inj h)
  · exact ⟨.inl rfl, by decide⟩
  · exact ⟨.inl rfl, by decide⟩
  · exact ⟨.inl rfl, by decide⟩
  · exact ⟨.inr rfl, by decide⟩

lemma mem_of_mem_input? {line statement : Text} (hc : Text.isLayout c = true)
    (h : input? line = some statement) (hmem : c ∈ statement) : c ∈ line := by
  obtain ⟨rest, -, rfl⟩ := Option.map_eq_some_iff.mp h
  split at hmem
  · rename_i first ty name more hwords
    have hword {word : Text} (hword : word ∈ Text.words line) (hc : c ∈ word) : c ∈ line :=
      (Text.of_mem_words hword hc).2
    have hlower (h : c ∈ Text.lower ty) : c ∈ line :=
      hword (by simp [hwords]) (Text.mem_of_mem_lower hc h)
    split at hmem
    · rename_i read method hread
      obtain ⟨hty, hmethod⟩ := scannerRead?_eq_some hread
      simp only [List.mem_append, List.mem_cons] at hmem
      rcases hmem with ((((hmem | rfl | hmem) | hmem) | hmem) | rfl | hmem) | hmem
      · rcases hty with rfl | rfl
        · exact hlower hmem
        · exact absurd hmem (notMem_of_isLayout (by decide) hc)
      · exact absurd hc (by decide)
      · exact hword (by simp [hwords]) hmem
      · exact absurd hmem (notMem_of_isLayout (by decide) hc)
      · exact absurd hmem (notMem_of_isLayout (by decide) hc)
      · exact absurd hc (by decide)
      · exact absurd hmem (notMem_of_isLayout hmethod hc)
      · exact absurd hmem (notMem_of_isLayout (by decide) hc)
    · rcases List.mem_append.mp hmem with hmem | hmem
      · exact absurd hmem (notMem_of_isLayout (by decide) hc)
      · exact hlower hmem
  · rcases List.mem_append.mp hmem with hmem | hmem
    · exact absurd hmem (notMem_of_isLayout (by decide) hc)
    · exact hmem

lemma mem_of_mem_print? {line statement : Text} (hc : Text.isLayout c = true)
    (h : print? line = some statement) (hmem : c ∈ statement) : c ∈ line := by
  obtain ⟨rest, hrest, rfl⟩ := Option.map_eq_some_iff.mp h
  obtain ⟨head, rfl, -⟩ := Keyword.append_of_after? hrest
  have hcontent (h : c ∈ Text.trim rest) : c ∈ head ++ rest :=
    List.mem_append_right head (Text.mem_of_mem_trim h)
  split at hmem
  · rename_i content hcut
    rcases List.mem_append.mp hmem with hmem | hmem
    · rcases List.mem_append.mp hmem with hmem | hmem
      · exact absurd hmem (notMem_of_isLayout (by decide) hc)
      · exact hcontent (hcut ▸ List.mem_cons_of_mem '(' hmem)
    · exact absurd hmem (notMem_of_isLayout (by decide) hc)
  · rcases List.mem_append.mp hmem with hmem | hmem
    · rcases List.mem_append.mp hmem with hmem | hmem
      · exact absurd hmem (notMem_of_isLayout (by decide) hc)
      · exact hcontent hmem
    · exact absurd hmem (notMem_of_isLayout (by decide) hc)

lemma mem_of_mem_terminate {line : Text} (hc : Text.isLayout c = true)
    (hmem : c ∈ terminate line) : c ∈ line := by
  unfold terminate at hmem
  split at hmem
  · split_ifs at hmem
    · exact hmem
    · rcases List.mem_append.mp hmem with hmem | hmem
      · exact hmem
      · exact absurd hmem (notMem_of_isLayout (by decide) hc)
  · exact hmem

end Statement

namespace Rulebook

lemma exists_of_statement? {book : Rulebook} {line statement : Text}
    (h : book.statement? line = some statement) :
    ∃ rule ∈ book.rules, rule.statement? line = some statement :=
  List.exists_of_findSome?_eq_some h

/-- A line feed or a brace in a statement stands in the line, or in the template of a rule that
applies to it. -/
theorem mem_of_mem_convert {book : Rulebook} {line : Text} (hc : Text.isLayout c = true)
    (h : c ∈ book.convert line) :
    c ∈ line ∨ ∃ rule ∈ book.rules, (rule.statement? line).isSome ∧ c ∈ rule.written.template := by
  unfold convert at h
  split at h
  · rename_i statement hstatement
    obtain ⟨rule, hrule, hstatement⟩ := exists_of_statement? hstatement
    refine (Rule.mem_of_mem_statement? hstatement h).imp_right fun hc => ⟨rule, hrule, ?_, hc⟩
    rw [hstatement, Option.isSome_some]
  · split at h
    · rename_i statement hinput
      exact .inl (Statement.mem_of_mem_input? hc hinput h)
    · cases hprint : Statement.print? line with
      | none =>
        rw [hprint] at h
        exact .inl (Statement.mem_of_mem_terminate hc h)
      | some statement =>
        rw [hprint] at h
        exact .inl (Statement.mem_of_mem_print? hc hprint h)

end Rulebook
end Pseudocode
