import Pseudocode.Proofs.Phrases

/-!
# Closing words of block headers

The header of a branch or a loop may end with a word such as `then` or `do`. The standard rules
take the last one as that word and everything before it as the condition or the bound, whatever it
looks like, so that the word never shows in the statement. Only a condition that itself ends with
the word needs another one after it, and only a bound with `to` in it is cut short.
-/

namespace Pseudocode

/-! ### The rules for block headers -/

namespace BlockRule

open Line Pattern

/-- The statement that the rule makes of a line with a template. -/
def statement? (b : BlockRule) (template : Text) (filling : Filling) (line : Text) : Option Text :=
  (b.forms.map enclosed).findSome? fun p => (p.captures? line).map fun groups =>
    Template.fill template (Rule.arguments filling groups)

variable {b : BlockRule} {c last line statement template : Text} {filling : Filling}
  {ws : List Text}

lemma statement?_eq_none (hb : b ∈ standard) (h : key line ∉ b.keys) :
    b.statement? template filling line = none := by
  have htakes : ¬b.takes line = true := mt (key_mem_of_takes hb) h
  rw [statement?, List.findSome?_eq_none_iff]
  intro p hp
  obtain ⟨q, hq, rfl⟩ := List.mem_map.mp hp
  rw [Option.map_eq_none_iff, ← Option.isNone_iff_eq_none, ← Option.isSome_eq_false_iff,
    isSome_captures?_enclosed]
  exact Bool.eq_false_iff.mpr fun hdescribes => htakes (List.any_eq_true.mpr ⟨q, hq, hdescribes⟩)

/-- A rule whose lines have a condition behind words, and perhaps a closing word. -/
def IsBranch (b : BlockRule) (ws : List Text) (last : Text) : Prop :=
  b.forms = [inTurn (afterWords ws (closedCondition last)), inTurn (afterWords ws openCondition)]

lemma isBranch_elseIf : elseIf.IsBranch ["else".toList, "if".toList] "then".toList := rfl

lemma isBranch_conditional (first last : Text) : (conditional first last).IsBranch [first] last :=
  rfl

lemma IsBranch.statement?_closed (hb : b.IsBranch ws last) (hws : ∀ w ∈ ws, w.IsSmall ∧ w ≠ [])
    (hlast : last.IsOrdinary) (hc : IsPhrase c) :
    b.statement? template .inOrder (withWords ws (c ++ ' ' :: last)) =
      some (Template.fill template [c]) := by
  rw [statement?, hb, List.map_cons, List.findSome?_cons,
    captures?_closedCondition hws hlast hc]
  rfl

lemma IsBranch.statement?_open (hb : b.IsBranch ws last) (hws : ∀ w ∈ ws, w.IsSmall ∧ w ≠ [])
    (hlast : last.IsOrdinary) (hc : IsPhrase c) (hend : ¬EndsWith last c) :
    b.statement? template .inOrder (withWords ws c) = some (Template.fill template [c]) := by
  rw [statement?, hb, List.map_cons, List.map_cons, List.findSome?_cons, List.findSome?_cons,
    captures?_closedCondition_eq_none hws hlast hc hend, captures?_openCondition hws hc]
  rfl

end BlockRule

namespace Rulebook

open BlockRule Line Pattern

/-- A line is converted by the first rule for its first word that makes a statement of it. -/
lemma convert_of_templates {n : Nat} {b : BlockRule} {template line statement : Text}
    {filling : Filling} (htemplate : templates[n]? = some (b, template, filling))
    (hbefore : ∀ x ∈ templates.take n, key line ∉ x.1.keys)
    (h : b.statement? template filling line = some statement) :
    standard.convert line = statement := by
  have hstandard : ∀ x ∈ templates, x.1 ∈ BlockRule.standard := fun x hx =>
    List.mem_map_of_mem (f := Prod.fst) hx
  have hcut : templates = templates.take n ++ (b, template, filling) :: templates.drop (n + 1) := by
    obtain ⟨hn, hget⟩ := List.getElem?_eq_some_iff.mp htemplate
    rw [← hget, List.getElem_cons_drop, List.take_append_drop]
  have hfound : templates.findSome? (fun x => x.1.statement? x.2.1 x.2.2 line) =
      some statement := by
    refine List.findSome?_eq_some_iff.mpr ⟨_, _, _, hcut, h, fun x hx => ?_⟩
    exact statement?_eq_none (hstandard x (List.mem_of_mem_take hx)) (hbefore x hx)
  have hfirst := congrArg (List.findSome? fun x : List Pattern × Text × Filling =>
    x.1.findSome? fun p => (p.captures? line).map fun groups =>
      Template.fill x.2.1 (Rule.arguments x.2.2 groups)) rules_templates.1
  rw [List.findSome?_map, List.findSome?_map] at hfirst
  have hstatement : standard.statement? line = some statement := by
    rw [statement?, ← List.take_append_drop 7 standard.rules, List.findSome?_append,
      Option.or_eq_some_iff]
    exact .inl (hfirst.trans hfound)
  rw [convert, hstatement]

lemma key_withWords {w : Text} (hw : w.IsSmall) (ws : List Text) (t : Text) :
    key (withWords (w :: ws) t) = w := by
  have hkey : key (w ++ ' ' :: withWords ws t) = w.map Text.fold :=
    key_append (isWordChar_of_map_fold hw hw.map_fold) (by rintro _ ⟨⟩; decide +kernel)
  exact hkey.trans hw.map_fold

lemma convert_branch (n : Nat) {b : BlockRule} {c first last template : Text} {ws : List Text}
    (hb : b.IsBranch (first :: ws) last)
    (htemplate : templates[n]? = some (b, template, .inOrder))
    (hbefore : ∀ x ∈ templates.take n, first ∉ x.1.keys)
    (hws : ∀ w ∈ first :: ws, w.IsSmall ∧ w ≠ []) (hlast : last.IsOrdinary) (hc : IsPhrase c) :
    standard.convert (withWords (first :: ws) (c ++ ' ' :: last)) = Template.fill template [c] ∧
      (¬EndsWith last c →
        standard.convert (withWords (first :: ws) c) = Template.fill template [c]) := by
  have hkey (t : Text) : ∀ x ∈ templates.take n, key (withWords (first :: ws) t) ∉ x.1.keys := by
    rwa [key_withWords (hws first List.mem_cons_self).1]
  constructor
  · exact convert_of_templates htemplate (hkey _) (hb.statement?_closed hws hlast hc)
  · intro hend
    exact convert_of_templates htemplate (hkey _) (hb.statement?_open hws hlast hc hend)

lemma convert_rangeLine {e s tail v : Text} (hv : v.IsWord) (hs : IsPhrase s) (he : IsPhrase e)
    (hto : ∀ w ∈ (Text.words s).tail, Text.sameWord w "to".toList = false)
    (htail : Takes secondBound (· = []) (e ++ tail) [] [(3, e)]) :
    standard.convert (rangeLine v s e tail) =
      Template.fill "for (int %s = %s; %s <= %s; %s++) \x7b".toList [v, s, v, e, v] := by
  have hkey : key (rangeLine v s e tail) = "for".toList := key_withWords (by decide) [] _
  refine convert_of_templates (n := 6) rfl (by rw [hkey]; decide) ?_
  show List.findSome? _ [enclosed (inTurn (afterWords ["for".toList] Line.range))] = _
  rw [List.findSome?_singleton, captures?_range hv hs hto he htail]
  rfl

/-- The closing word of a header never shows in its statement, and without it the statement is the
same. -/
theorem convert_closingWord :
    (∀ c : Text, IsPhrase c →
      (standard.convert ("if ".toList ++ c ++ " then".toList) =
          "if (".toList ++ c ++ ") \x7b".toList ∧
        standard.convert ("else if ".toList ++ c ++ " then".toList) =
          "\x7d else if (".toList ++ c ++ ") \x7b".toList ∧
        standard.convert ("while ".toList ++ c ++ " do".toList) =
          "while (".toList ++ c ++ ") \x7b".toList) ∧
      (¬EndsWith "then".toList c →
        standard.convert ("if ".toList ++ c) = "if (".toList ++ c ++ ") \x7b".toList ∧
        standard.convert ("else if ".toList ++ c) =
          "\x7d else if (".toList ++ c ++ ") \x7b".toList) ∧
      (¬EndsWith "do".toList c →
        standard.convert ("while ".toList ++ c) = "while (".toList ++ c ++ ") \x7b".toList)) ∧
    ∀ v s e : Text, v.IsWord → IsPhrase s → IsPhrase e →
      (∀ w ∈ (Text.words s).tail, Text.sameWord w "to".toList = false) →
      let header := "for ".toList ++ v ++ " = ".toList ++ s ++ " to ".toList ++ e
      let statement := "for (int ".toList ++ v ++ " = ".toList ++ s ++ "; ".toList ++ v ++
        " <= ".toList ++ e ++ "; ".toList ++ v ++ "++) \x7b".toList
      standard.convert (header ++ " do".toList) = statement ∧
        (¬EndsWith "do".toList e → standard.convert header = statement) := by
  constructor
  · intro c hc
    have hif := convert_branch 2 (isBranch_conditional "if".toList "then".toList) rfl
      (by decide) (by decide) (by decide) hc
    have helse := convert_branch 1 isBranch_elseIf rfl (by decide) (by decide) (by decide) hc
    have hwhile := convert_branch 5 (isBranch_conditional "while".toList "do".toList) rfl
      (by decide) (by decide) (by decide) hc
    exact ⟨⟨hif.1, helse.1, hwhile.1⟩, fun hend => ⟨hif.2 hend, helse.2 hend⟩, hwhile.2⟩
  · intro v s e hv hs he hto header statement
    have hline (tail : Text) : header ++ tail = rangeLine v s e tail := by
      simp only [header, List.append_assoc]
      rfl
    have hstatement :
        Template.fill "for (int %s = %s; %s <= %s; %s++) \x7b".toList [v, s, v, e, v] =
          statement := by
      simp only [statement, List.append_assoc]
      rfl
    constructor
    · have hbound := takes_secondBound he takes_closingDo fun a b hab hb =>
        not_spellsAll_closing (by decide) ((hab ▸ he).exists_mem_end hb)
      exact (hline _).symm ▸ (convert_rangeLine hv hs he hto hbound).trans hstatement
    · intro hend
      have hbound := takes_secondBound he takes_closingDo_nil fun a b hab hb h =>
        hend (hab ▸ endsWith_of_spellsAll (by decide) (List.append_nil b ▸ h) a)
      rw [← List.append_nil header, hline]
      exact (convert_rangeLine hv hs he hto hbound).trans hstatement

theorem convert_closingWord_within :
    let c := "x then y".toList
    let s := "to".toList
    let e := "n do m".toList
    IsPhrase c ∧ ¬EndsWith "then".toList c ∧
      standard.convert "if x then y then".toList = "if (x then y) \x7b".toList ∧
      standard.convert "if x then y".toList = "if (x then y) \x7b".toList ∧
      Text.IsWord ['i'] ∧ IsPhrase s ∧ IsPhrase e ∧
      (∀ w ∈ (Text.words s).tail, Text.sameWord w "to".toList = false) ∧
      ¬EndsWith "do".toList e ∧
      standard.convert "for i = to to n do m do".toList =
        "for (int i = to; i <= n do m; i++) \x7b".toList := by
  intro c s e
  have hc : IsPhrase c := by decide
  have hend : ¬EndsWith "then".toList c := by decide
  have hv : Text.IsWord ['i'] := by decide
  have hs : IsPhrase s := by decide
  have he : IsPhrase e := by decide
  have hto : ∀ w ∈ (Text.words s).tail, Text.sameWord w "to".toList = false := by decide
  have hend' : ¬EndsWith "do".toList e := by decide
  obtain ⟨⟨hclosed, -, -⟩, hopen, -⟩ := convert_closingWord.1 c hc
  have hcounted := convert_closingWord.2 ['i'] s e hv hs he hto
  exact ⟨hc, hend, hclosed, (hopen hend).1, hv, hs, he, hto, hend', hcounted.1⟩

end Rulebook
end Pseudocode
