import Pseudocode.Proofs.Fitting

/-!
# Precedence

The rules of a rulebook are tried in order, and the patterns of each rule in the order in which they
are written; the first pattern that matches decides. What comes after it makes no difference, what
does not match might as well be missing, and a rule may be cut between two of its patterns. Only a
line that no pattern matches is a statement without rules.
-/

namespace Pseudocode
namespace Rule

/-- No pattern of the rule matches the line. -/
def Leaves (rule : Rule) (line : Text) : Prop := ∀ p ∈ rule.patterns, p.captures? line = none

/-- The rule makes the statement of the line, through the first of its patterns that matches. -/
def Makes (rule : Rule) (line statement : Text) : Prop :=
  ∃ before p after groups, rule.patterns = before ++ p :: after ∧
    (∀ q ∈ before, q.captures? line = none) ∧ p.captures? line = some groups ∧
    statement = Template.fill rule.written.template (arguments rule.filling groups)

lemma statement?_eq_none_iff {rule : Rule} {line : Text} :
    rule.statement? line = none ↔ rule.Leaves line := by
  simp [statement?, Leaves]

lemma statement?_eq_some_iff {rule : Rule} {line statement : Text} :
    rule.statement? line = some statement ↔ rule.Makes line statement := by
  unfold statement? Makes
  rw [List.findSome?_eq_some_iff]
  constructor
  · rintro ⟨before, p, after, hpatterns, hp, hbefore⟩
    obtain ⟨groups, hgroups, rfl⟩ := Option.map_eq_some_iff.mp hp
    exact ⟨before, p, after, groups, hpatterns,
      fun q hq => Option.map_eq_none_iff.mp (hbefore q hq), hgroups, rfl⟩
  · rintro ⟨before, p, after, groups, hpatterns, hbefore, hgroups, rfl⟩
    exact ⟨before, p, after, hpatterns, Option.map_eq_some_iff.mpr ⟨groups, hgroups, rfl⟩,
      fun q hq => Option.map_eq_none_iff.mpr (hbefore q hq)⟩

/-! ### A rule cut in two -/

lemma readPatterns_append {first second : List Text} {ps qs : List Pattern}
    {read? : Text → Option Pattern} (hfirst : readPatterns read? first = .ok ps)
    (hsecond : readPatterns read? second = .ok qs) :
    readPatterns read? (first ++ second) = .ok (ps ++ qs) := by
  rw [readPatterns_eq_ok_iff] at hfirst hsecond ⊢
  exact List.rel_append hfirst hsecond

/-- The two rules that a rule is cut into make what it makes: the keyword alone decides how the
template is filled, whichever pattern matches. -/
lemma statement?_eq_or {keyword template : Text} {ps qs : List Text} {whole left right : Rule}
    (hwhole : compile ⟨keyword, ps ++ qs, template⟩ = .ok whole)
    (hleft : compile ⟨keyword, ps, template⟩ = .ok left)
    (hright : compile ⟨keyword, qs, template⟩ = .ok right) (line : Text) :
    whole.statement? line = (left.statement? line).or (right.statement? line) := by
  obtain ⟨-, hread, hwritten, hfilling, -⟩ := compileWith_eq_ok_iff.mp hwhole
  obtain ⟨-, hreadl, hwrittenl, hfillingl, -⟩ := compileWith_eq_ok_iff.mp hleft
  obtain ⟨-, hreadr, hwrittenr, hfillingr, -⟩ := compileWith_eq_ok_iff.mp hright
  have hpatterns : whole.patterns = left.patterns ++ right.patterns :=
    Except.ok.inj (hread.symm.trans (readPatterns_append hreadl hreadr))
  simp only [statement?, hwritten, hwrittenl, hwrittenr, hfilling, hfillingl, hfillingr, hpatterns,
    List.findSome?_append]

end Rule

namespace Rulebook

/-- The rules of one rulebook followed by those of another. -/
instance : Append Rulebook := ⟨fun first second => ⟨first.rules ++ second.rules⟩⟩

/-- No pattern of the rulebook matches the line. -/
def Leaves (book : Rulebook) (line : Text) : Prop := ∀ rule ∈ book.rules, rule.Leaves line

/-- The earliest rule that applies makes the statement of the line. -/
def Makes (book : Rulebook) (line statement : Text) : Prop :=
  ∃ before rule after, book.rules = before ++ rule :: after ∧ (∀ r ∈ before, r.Leaves line) ∧
    rule.Makes line statement

lemma statement?_eq_none_iff {book : Rulebook} {line : Text} :
    book.statement? line = none ↔ book.Leaves line := by
  simp [statement?, Leaves, Rule.statement?_eq_none_iff]

lemma statement?_eq_some_iff {book : Rulebook} {line statement : Text} :
    book.statement? line = some statement ↔ book.Makes line statement := by
  unfold statement? Makes
  simp only [List.findSome?_eq_some_iff, Rule.statement?_eq_some_iff, Rule.statement?_eq_none_iff]
  constructor
  · rintro ⟨before, rule, after, hrules, hmakes, hleaves⟩
    exact ⟨before, rule, after, hrules, hleaves, hmakes⟩
  · rintro ⟨before, rule, after, hrules, hleaves, hmakes⟩
    exact ⟨before, rule, after, hrules, hmakes, hleaves⟩

lemma statement?_append (first second : Rulebook) (line : Text) :
    (first ++ second).statement? line = (first.statement? line).or (second.statement? line) :=
  List.findSome?_append

lemma statement?_singleton (rule : Rule) (line : Text) :
    statement? ⟨[rule]⟩ line = rule.statement? line := by
  simp [statement?]

lemma convert_congr {book other : Rulebook} {line : Text}
    (h : book.statement? line = other.statement? line) :
    book.convert line = other.convert line := by
  rw [convert, convert, h]

lemma convert_eq_getD (book : Rulebook) (line : Text) :
    book.convert line = (((book.statement? line).or (Statement.input? line)).or
      (Statement.print? line)).getD (Statement.terminate line) := by
  unfold convert
  cases book.statement? line <;> cases Statement.input? line <;> rfl

/-- A line is converted by the earliest rule that applies, through the first of its patterns that
matches, whatever rules follow. If there is none, those that follow convert it, or it is an input
statement, else a print statement, else ends in a semicolon. A rule that does not apply makes no
difference, and neither does it to cut a rule in two between its patterns. -/
theorem convert_precedence (line : Text) :
    (∀ first second : Rulebook,
      (first.Leaves line ∨ ∃ statement, first.Makes line statement) ∧
        (∀ statement, first.Makes line statement →
          first.convert line = statement ∧ (first ++ second).convert line = statement) ∧
        (first.Leaves line → (first ++ second).convert line = second.convert line)) ∧
      (∀ (before after : Rulebook) (rule : Rule), rule.Leaves line →
        (before ++ ⟨[rule]⟩ ++ after).convert line = (before ++ after).convert line) ∧
      (∀ (keyword template : Text) (ps qs : List Text) (whole left right : Rule),
        Rule.compile ⟨keyword, ps ++ qs, template⟩ = .ok whole →
        Rule.compile ⟨keyword, ps, template⟩ = .ok left →
        Rule.compile ⟨keyword, qs, template⟩ = .ok right →
          ∀ before after : Rulebook, (before ++ ⟨[whole]⟩ ++ after).convert line =
            (before ++ ⟨[left, right]⟩ ++ after).convert line) ∧
      (∀ book : Rulebook, book.Leaves line →
        book.convert line =
          ((Statement.input? line).or (Statement.print? line)).getD (Statement.terminate line)) := by
  refine ⟨fun first second => ⟨?_, fun statement h => ?_, fun h => ?_⟩, ?_, ?_, fun book h => ?_⟩
  · cases h : first.statement? line with
    | none => exact .inl (statement?_eq_none_iff.mp h)
    | some statement => exact .inr ⟨statement, statement?_eq_some_iff.mp h⟩
  · rw [← statement?_eq_some_iff] at h
    have happend : (first ++ second).statement? line = some statement := by
      rw [statement?_append, h, Option.some_or]
    exact ⟨by rw [convert, h], by rw [convert, happend]⟩
  · rw [← statement?_eq_none_iff] at h
    exact convert_congr (by rw [statement?_append, h, Option.none_or])
  · intro before after rule h
    rw [← Rule.statement?_eq_none_iff, ← statement?_singleton] at h
    exact convert_congr (by simp only [statement?_append, h, Option.or_none])
  · intro keyword template ps qs whole left right hwhole hleft hright before after
    have hcut : statement? ⟨[whole]⟩ line = statement? ⟨[left, right]⟩ line := by
      rw [statement?_singleton, Rule.statement?_eq_or hwhole hleft hright line,
        ← statement?_singleton left, ← statement?_singleton right, ← statement?_append]
      rfl
    exact convert_congr (by simp only [statement?_append, hcut])
  · rw [← statement?_eq_none_iff] at h
    rw [convert_eq_getD, h, Option.none_or]

theorem convert_precedence_letter :
    let written (patterns : List Text) : WrittenRule := ⟨"letter".toList, patterns, "first;".toList⟩
    let line := ['B']
    ∃ whole left right any : Rule, Rule.compile (written [['a'], ['b']]) = .ok whole ∧
      Rule.compile (written [['a']]) = .ok left ∧ Rule.compile (written [['b']]) = .ok right ∧
      Rule.compile ⟨"any".toList, [['.']], "second;".toList⟩ = .ok any ∧
      any.Makes line "second;".toList ∧ left.Leaves line ∧
      (convert ⟨[whole]⟩ line = "first;".toList ∧
        (⟨[whole]⟩ ++ ⟨[any]⟩ : Rulebook).convert line = "first;".toList) ∧
      (⟨[left]⟩ ++ ⟨[any]⟩ : Rulebook).convert line = convert ⟨[any]⟩ line ∧
      (⟨[any]⟩ ++ ⟨[left]⟩ ++ empty : Rulebook).convert line =
        (⟨[any]⟩ ++ empty : Rulebook).convert line ∧
      (empty ++ ⟨[whole]⟩ ++ ⟨[any]⟩ : Rulebook).convert line =
        (empty ++ ⟨[left, right]⟩ ++ ⟨[any]⟩ : Rulebook).convert line ∧
      convert ⟨[left]⟩ line = "B;".toList := by
  intro written line
  let a : Pattern := .enclosed (.one (.anyCase (.single 'a')))
  let b : Pattern := .enclosed (.one (.anyCase (.single 'b')))
  let dot : Pattern := .enclosed (.one (.compl (.single '\n')))
  let whole : Rule := ⟨written [['a'], ['b']], [a, b], .inOrder⟩
  let left : Rule := ⟨written [['a']], [a], .inOrder⟩
  let right : Rule := ⟨written [['b']], [b], .inOrder⟩
  let any : Rule := ⟨⟨"any".toList, [['.']], "second;".toList⟩, [dot], .inOrder⟩
  have hwhole : Rule.compile (written [['a'], ['b']]) = .ok whole := by rfl
  have hleft : Rule.compile (written [['a']]) = .ok left := by rfl
  have hright : Rule.compile (written [['b']]) = .ok right := by rfl
  have ha : a.captures? line = none := by decide +kernel
  have hb : b.captures? line = some [] := by decide +kernel
  have hdot : dot.captures? line = some [] := by decide +kernel
  have hmakes : whole.Makes line "first;".toList :=
    ⟨[a], b, [], [], rfl, List.forall_mem_singleton.mpr ha, hb, rfl⟩
  have hany : any.Makes line "second;".toList :=
    ⟨[], dot, [], [], rfl, List.forall_mem_nil _, hdot, rfl⟩
  have hleaves : left.Leaves line := List.forall_mem_singleton.mpr ha
  obtain ⟨happend, hmissing, hcut, hplain⟩ := convert_precedence line
  refine ⟨whole, left, right, any, hwhole, hleft, hright, rfl, hany, hleaves, ?_, ?_, ?_, ?_, ?_⟩
  · exact (happend ⟨[whole]⟩ ⟨[any]⟩).2.1 _ ⟨[], whole, [], rfl, List.forall_mem_nil _, hmakes⟩
  · exact (happend ⟨[left]⟩ ⟨[any]⟩).2.2 (List.forall_mem_singleton.mpr hleaves)
  · exact hmissing ⟨[any]⟩ empty left hleaves
  · exact hcut _ _ [['a']] [['b']] whole left right hwhole hleft hright empty ⟨[any]⟩
  · exact (hplain ⟨[left]⟩ (List.forall_mem_singleton.mpr hleaves)).trans (by decide +kernel)

end Rulebook
end Pseudocode
