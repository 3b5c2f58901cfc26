import Pseudocode.Proofs.Fitting
import Pseudocode.Rule.Basic
import Mathlib.Order.Bounds.Basic

/-!
# Which rules are accepted

Written rules make a rulebook if each of them is well formed: it has patterns, all of them can be
read, and its template can be filled from their groups. Otherwise the first rule that is not well
formed is reported, with the first thing that is wrong with it. Which texts are patterns is left to
the reader of patterns, which is any.
-/

namespace Pseudocode

/-! ### Well-formed rules -/

namespace WrittenRule

section Read

variable (read? : Text → Option Pattern)

/-- The text is a pattern between the ends of a line. -/
def IsReadable (pattern : Text) : Prop := ∃ p, read? (Rule.wholeLine pattern) = some p

/-- The numbers of groups of the patterns of a rule. -/
def groupCounts (w : WrittenRule) : Set Nat :=
  {n | ∃ pattern ∈ w.patterns, ∃ p, read? (Rule.wholeLine pattern) = some p ∧ p.groupCount = n}

/-- The number of groups that the template may rely on. The header of a counting loop is filled in
one way whichever pattern matches and relies on the fewest; any other template may leave slots
empty and relies on the most. -/
def Offers (w : WrittenRule) (n : Nat) : Prop :=
  if Rule.isLoopKeyword w.keyword then IsLeast (w.groupCounts read?) n
  else IsGreatest (w.groupCounts read?) n

/-- The template can be filled from `n` groups. -/
def Fits (w : WrittenRule) (n : Nat) : Prop :=
  if Rule.isLoopKeyword w.keyword then Template.slotCount w.template = 5 ∧ 3 ≤ n
  else Template.slotCount w.template ≤ n

/-- A rule with patterns that can be read and a template that fits them. -/
structure WellFormed (w : WrittenRule) : Prop where
  ne_nil : w.patterns ≠ []
  readable : ∀ pattern ∈ w.patterns, IsReadable read? pattern
  fits : ∃ n, w.Offers read? n ∧ w.Fits n

/-- What is wrong first with a rule that is refused: it has no patterns, or one of them is no
pattern and those before it are, or all are patterns but the template does not fit them. -/
inductive Defect (w : WrittenRule) : RuleFault → Prop
  | noPatterns (hpatterns : w.patterns = []) : w.Defect (.noPatterns w.keyword)
  | badPattern {before after : List Text} {pattern : Text}
      (hpatterns : w.patterns = before ++ pattern :: after)
      (hbefore : ∀ earlier ∈ before, IsReadable read? earlier)
      (hbad : ¬IsReadable read? pattern) : w.Defect (.badPattern w.keyword pattern)
  | slotMismatch {n : Nat} (hreadable : ∀ pattern ∈ w.patterns, IsReadable read? pattern)
      (hoffers : w.Offers read? n) (hfits : ¬w.Fits n) :
      w.Defect (.slotMismatch w.keyword (Template.slotCount w.template) n)

end Read

variable {read? : Text → Option Pattern} {w : WrittenRule} {m n : Nat}

lemma Offers.unique (hm : w.Offers read? m) (hn : w.Offers read? n) : m = n := by
  unfold Offers at hm hn
  split_ifs at hm hn
  · exact hm.unique hn
  · exact hm.unique hn

lemma Offers.ne_nil (h : w.Offers read? n) : w.patterns ≠ [] := by
  have hmem : n ∈ w.groupCounts read? := by
    unfold Offers at h
    split_ifs at h <;> exact h.1
  obtain ⟨pattern, hpattern, -⟩ := hmem
  exact List.ne_nil_of_mem hpattern

lemma WellFormed.not_defect (h : w.WellFormed read?) {fault : RuleFault} :
    ¬w.Defect read? fault := by
  intro hdefect
  cases hdefect with
  | noPatterns hpatterns => exact h.ne_nil hpatterns
  | badPattern hpatterns _ hbad => exact hbad (h.readable _ (by simp [hpatterns]))
  | slotMismatch _ hoffers hfits =>
    obtain ⟨n, hoffers', hfits'⟩ := h.fits
    rw [hoffers.unique hoffers'] at hfits
    exact hfits hfits'

end WrittenRule

namespace Rule

/-! ### Patterns that can be read -/

section Read

variable {read? : Text → Option Pattern}

lemma readPattern_eq_error_iff {w bad : Text} :
    readPattern read? w = .error bad ↔ ¬WrittenRule.IsReadable read? w ∧ w = bad := by
  unfold readPattern WrittenRule.IsReadable
  cases read? (wholeLine w) <;> simp

lemma readPatterns_eq_error_iff {written : List Text} {bad : Text} :
    readPatterns read? written = .error bad ↔ ∃ before after, written = before ++ bad :: after ∧
      (∀ earlier ∈ before, WrittenRule.IsReadable read? earlier) ∧
        ¬WrittenRule.IsReadable read? bad := by
  rw [readPatterns_eq_mapM, mapM_eq_error_iff]
  simp only [readPattern_eq_ok_iff, readPattern_eq_error_iff]
  constructor
  · rintro ⟨before, w, after, hwritten, hbefore, hbad, rfl⟩
    exact ⟨before, after, hwritten, hbefore, hbad⟩
  · rintro ⟨before, after, hwritten, hbefore, hbad⟩
    exact ⟨before, bad, after, hwritten, hbefore, hbad, rfl⟩

variable {written : List Text} {patterns : List Pattern}
  (h : readPatterns read? written = .ok patterns)

include h

lemma map_read?_of_readPatterns :
    written.map (fun w => read? (wholeLine w)) = patterns.map some := by
  have hread := readPatterns_eq_ok_iff.mp h
  rwa [← List.forall₂_eq_eq_eq, List.forall₂_map_left_iff, List.forall₂_map_right_iff]

lemma mem_patterns_iff {p : Pattern} :
    p ∈ patterns ↔ ∃ w ∈ written, read? (wholeLine w) = some p := by
  rw [← List.mem_map_of_injective (Option.some_injective _), ← map_read?_of_readPatterns h,
    List.mem_map]

lemma isReadable_of_readPatterns : ∀ w ∈ written, WrittenRule.IsReadable read? w := by
  intro w hw
  have hmem : read? (wholeLine w) ∈ patterns.map some :=
    map_read?_of_readPatterns h ▸ List.mem_map_of_mem hw
  obtain ⟨p, -, hp⟩ := List.mem_map.mp hmem
  exact ⟨p, hp.symm⟩

end Read

/-! ### The groups of the patterns -/

lemma isLeast_fewestGroups {patterns : List Pattern} (hne : patterns ≠ []) :
    IsLeast {n | ∃ p ∈ patterns, p.groupCount = n} (fewestGroups patterns) := by
  refine ⟨?_, fun n ⟨p, hp, hn⟩ => hn ▸ fewestGroups_le hp⟩
  unfold fewestGroups
  cases hmin : (patterns.map Pattern.groupCount).min? with
  | none => exact absurd (List.map_eq_nil_iff.mp (List.min?_eq_none_iff.mp hmin)) hne
  | some least => exact List.mem_map.mp (List.min?_mem hmin)

lemma isGreatest_mostGroups {patterns : List Pattern} (hne : patterns ≠ []) :
    IsGreatest {n | ∃ p ∈ patterns, p.groupCount = n} (mostGroups patterns) := by
  obtain ⟨p, hp, hmost, heq⟩ := exists_mostGroups hne
  exact ⟨⟨p, hp, heq.symm⟩, fun n ⟨q, hq, hn⟩ => heq ▸ hn ▸ hmost q hq⟩

end Rule

namespace WrittenRule

variable {read? : Text → Option Pattern} {w : WrittenRule} {n : Nat}

lemma offers_iff {patterns : List Pattern}
    (hread : Rule.readPatterns read? w.patterns = .ok patterns) (hne : patterns ≠ []) :
    w.Offers read? n ↔ n = Rule.usableGroups (Rule.fillingFor w.keyword) patterns := by
  have hcounts : w.groupCounts read? = {n | ∃ p ∈ patterns, p.groupCount = n} := by
    ext n
    simp only [groupCounts, Set.mem_ofPred_eq, Rule.mem_patterns_iff hread]
    constructor
    · rintro ⟨pattern, hpattern, p, hp, hn⟩
      exact ⟨p, ⟨pattern, hpattern, hp⟩, hn⟩
    · rintro ⟨p, ⟨pattern, hpattern, hp⟩, hn⟩
      exact ⟨pattern, hpattern, p, hp, hn⟩
  rw [Offers, hcounts, Rule.fillingFor_eq]
  split_ifs
  · have hleast := Rule.isLeast_fewestGroups hne
    exact ⟨fun h => h.unique hleast, fun h => h ▸ hleast⟩
  · have hgreatest := Rule.isGreatest_mostGroups hne
    exact ⟨fun h => h.unique hgreatest, fun h => h ▸ hgreatest⟩

lemma fits_iff : w.Fits n ↔
    Rule.fits (Rule.fillingFor w.keyword) (Template.slotCount w.template) n = true := by
  rw [Fits, Rule.fillingFor_eq]
  split_ifs <;> simp [Rule.fits]

end WrittenRule

namespace Rule

open WrittenRule

/-- The rule that a well-formed written rule stands for: what is written is kept, and its patterns
are read in order. -/
structure IsOf (read? : Text → Option Pattern) (rule : Rule) (w : WrittenRule) : Prop where
  written : rule.written = w
  patterns : List.Forall₂ (fun written p => read? (wholeLine written) = some p)
    w.patterns rule.patterns
  filling : rule.filling = fillingFor w.keyword

variable {read? : Text → Option Pattern} {w : WrittenRule}

lemma compileWith_eq_ok_iff_isOf {rule : Rule} :
    compileWith read? w = .ok rule ↔ w.WellFormed read? ∧ rule.IsOf read? w := by
  constructor
  · intro h
    have hne := ne_nil_of_compileWith h
    obtain ⟨hpatterns, hread, hwritten, hfilling, hfits⟩ := compileWith_eq_ok_iff.mp h
    rw [hfilling] at hfits
    have hoffers := (offers_iff hread hne).mpr rfl
    exact ⟨⟨hpatterns, isReadable_of_readPatterns hread, _, hoffers, fits_iff.mpr hfits⟩,
      hwritten, readPatterns_eq_ok_iff.mp hread, hfilling⟩
  · rintro ⟨⟨hpatterns, -, n, hoffers, hfits⟩, hwritten, hall, hfilling⟩
    have hread := readPatterns_eq_ok_iff.mpr hall
    have hne := readPatterns_ne_nil hpatterns hread
    rw [fits_iff, (offers_iff hread hne).mp hoffers, ← hfilling] at hfits
    exact compileWith_eq_ok_iff.mpr ⟨hpatterns, hread, hwritten, hfilling, hfits⟩

/-- A rule whose patterns can be read is refused only if its template does not fit them. -/
lemma compileWith_of_readPatterns {patterns : List Pattern} (hpatterns : w.patterns ≠ [])
    (hread : readPatterns read? w.patterns = .ok patterns) (fault : RuleFault) :
    compileWith read? w = .error fault ↔ ∃ n, w.Offers read? n ∧ ¬w.Fits n ∧
      fault = .slotMismatch w.keyword (Template.slotCount w.template) n := by
  simp only [offers_iff hread (readPatterns_ne_nil hpatterns hread), exists_eq_left, fits_iff]
  rw [compileWith, if_neg (mt List.isEmpty_iff.mp hpatterns), hread]
  simp only
  split_ifs with hfits <;> simp [hfits, eq_comm]

lemma compileWith_eq_error_iff {fault : RuleFault} :
    compileWith read? w = .error fault ↔ w.Defect read? fault := by
  by_cases hpatterns : w.patterns = []
  · rw [compileWith, if_pos (List.isEmpty_iff.mpr hpatterns)]
    constructor
    · intro h
      cases h
      exact .noPatterns hpatterns
    · intro h
      cases h with
      | noPatterns => rfl
      | badPattern hsplit => simp [hpatterns] at hsplit
      | slotMismatch _ hoffers => exact absurd hpatterns hoffers.ne_nil
  cases hread : readPatterns read? w.patterns with
  | error bad =>
    obtain ⟨before, after, hsplit, hbefore, hbad⟩ := readPatterns_eq_error_iff.mp hread
    rw [compileWith, if_neg (mt List.isEmpty_iff.mp hpatterns), hread]
    constructor
    · intro h
      cases h
      exact .badPattern hsplit hbefore hbad
    · intro h
      cases h with
      | noPatterns h => exact absurd h hpatterns
      | badPattern hsplit' hbefore' hbad' =>
        have hread' := readPatterns_eq_error_iff.mpr ⟨_, _, hsplit', hbefore', hbad'⟩
        cases hread.symm.trans hread'
        rfl
      | slotMismatch hreadable => exact absurd (hreadable bad (by simp [hsplit])) hbad
  | ok patterns =>
    rw [compileWith_of_readPatterns hpatterns hread]
    constructor
    · rintro ⟨n, hoffers, hfits, rfl⟩
      exact .slotMismatch (isReadable_of_readPatterns hread) hoffers hfits
    · intro h
      cases h with
      | noPatterns h => exact absurd h hpatterns
      | badPattern hsplit _ hbad =>
        exact absurd (isReadable_of_readPatterns hread _ (by simp [hsplit])) hbad
      | slotMismatch _ hoffers hfits => exact ⟨_, hoffers, hfits, rfl⟩

lemma exists_compileWith_eq_ok_iff :
    (∃ rule, compileWith read? w = .ok rule) ↔ w.WellFormed read? := by
  constructor
  · rintro ⟨rule, h⟩
    exact (compileWith_eq_ok_iff_isOf.mp h).1
  · intro h
    cases hcompile : compileWith read? w with
    | ok rule => exact ⟨rule, rfl⟩
    | error fault => exact absurd (compileWith_eq_error_iff.mp hcompile) h.not_defect

end Rule

namespace Rulebook

variable {read? : Text → Option Pattern} {written : List WrittenRule}

lemma ofWrittenWith_eq_ok_iff {book : Rulebook} :
    ofWrittenWith read? written = .ok book ↔ (∀ w ∈ written, w.WellFormed read?) ∧
      List.Forall₂ (fun w rule => rule.IsOf read? w) written book.rules := by
  rw [← List.forall₂_and_left]
  simp only [← Rule.compileWith_eq_ok_iff_isOf]
  rw [← mapM_eq_ok_iff, ofWrittenWith]
  obtain ⟨rules⟩ := book
  cases written.mapM (Rule.compileWith read?) <;> simp [Except.map]

lemma ofWrittenWith_eq_error_iff {fault : RuleFault} :
    ofWrittenWith read? written = .error fault ↔ ∃ before w after, written = before ++ w :: after ∧
      (∀ earlier ∈ before, earlier.WellFormed read?) ∧ w.Defect read? fault := by
  simp only [← Rule.exists_compileWith_eq_ok_iff, ← Rule.compileWith_eq_error_iff]
  rw [← mapM_eq_error_iff, ofWrittenWith]
  cases written.mapM (Rule.compileWith read?) <;> simp [Except.map]

/-- Whichever texts are patterns: written rules make a rulebook if and only if all of them are well
formed, and it then has the rule of each of them in order. Otherwise the first one that is not well
formed is reported, with what is wrong first with it. -/
theorem ofWrittenWith_eq (read? : Text → Option Pattern) (written : List WrittenRule) :
    ((∃ book, ofWrittenWith read? written = .ok book) ↔ ∀ w ∈ written, w.WellFormed read?) ∧
      (∀ book, ofWrittenWith read? written = .ok book ↔ (∀ w ∈ written, w.WellFormed read?) ∧
        List.Forall₂ (fun w rule => rule.IsOf read? w) written book.rules) ∧
      (∀ fault, ofWrittenWith read? written = .error fault ↔ ∃ before w after,
        written = before ++ w :: after ∧ (∀ earlier ∈ before, earlier.WellFormed read?) ∧
          w.Defect read? fault) := by
  refine ⟨?_, fun book => ofWrittenWith_eq_ok_iff, fun fault => ofWrittenWith_eq_error_iff⟩
  cases hbook : ofWrittenWith read? written with
  | ok book => exact iff_of_true ⟨book, rfl⟩ (ofWrittenWith_eq_ok_iff.mp hbook).1
  | error fault =>
    obtain ⟨before, w, after, rfl, -, hdefect⟩ := ofWrittenWith_eq_error_iff.mp hbook
    refine iff_of_false (by simp) fun h => ?_
    exact (h w (by simp)).not_defect hdefect

/-- A well-formed rule, one with a pattern that cannot be read and a template that does not fit, and
one without patterns. -/
example :
    ofWritten [⟨"set".toList, ["set (.)".toList], "%s".toList⟩,
        ⟨"for".toList, ["a".toList, "(".toList], []⟩, ⟨"x".toList, [], []⟩] =
      .error (.badPattern "for".toList "(".toList) := by
  rfl

end Rulebook
end Pseudocode
