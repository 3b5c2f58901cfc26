import Pseudocode.Proofs.WholeLine

/-!
# Templates that fit

A template is cut at its slots, and to fill it is to put the arguments as they are between its
parts. A rule is accepted only if its template fits its patterns: the header of a counting loop has
five slots and each pattern three groups, and any other template has no more slots than the pattern
with the most groups. Every line that an accepted rule applies to is therefore converted in one
way, whichever pattern matches.
-/

namespace Pseudocode
namespace Template

def slot : Text := "%s".toList

/-- The parts with the arguments between them in order. A gap without an argument is left empty
and surplus arguments are ignored. -/
def interleave : (parts args : List Text) → Text
  | [], _ => []
  | [part], _ => part
  | part :: next :: parts, args => part ++ args.headD [] ++ interleave (next :: parts) args.tail

/-! ### The parts of a template -/

lemma pieces_slot (rest : Text) : pieces ('%' :: 's' :: rest) = [] :: pieces rest := rfl

lemma pieces_ne_nil (t : Text) : pieces t ≠ [] := by
  fun_cases pieces t <;> exact List.cons_ne_nil _ _

lemma exists_pieces_cons {c : Char} {rest : Text}
    (h : ∀ rest', c = '%' → rest = 's' :: rest' → False) :
    ∃ part parts, pieces rest = part :: parts ∧ pieces (c :: rest) = (c :: part) :: parts := by
  obtain ⟨part, parts, hparts⟩ := List.exists_cons_of_ne_nil (pieces_ne_nil rest)
  refine ⟨part, parts, hparts, ?_⟩
  rw [pieces.eq_3 c rest h, hparts]

lemma length_pieces (t : Text) : (pieces t).length = slotCount t + 1 := by
  fun_induction slotCount t with
  | case1 => rfl
  | case2 rest ih => rw [pieces_slot, List.length_cons, ih]
  | case3 c rest h ih =>
    obtain ⟨part, parts, hrest, hparts⟩ := exists_pieces_cons h
    rw [hrest] at ih
    rw [hparts, ← ih]
    rfl

lemma joinWith_cons_cons (separator part : Text) {parts : List Text} (h : parts ≠ []) :
    Text.joinWith separator (part :: parts) =
      part ++ separator ++ Text.joinWith separator parts := by
  cases parts with
  | nil => exact absurd rfl h
  | cons next parts => rfl

lemma joinWith_cons (separator : Text) (c : Char) (part : Text) (parts : List Text) :
    Text.joinWith separator ((c :: part) :: parts) =
      c :: Text.joinWith separator (part :: parts) := by
  cases parts <;> rfl

lemma joinWith_pieces (t : Text) : Text.joinWith slot (pieces t) = t := by
  fun_induction slotCount t with
  | case1 => rfl
  | case2 rest ih =>
    rw [pieces_slot, joinWith_cons_cons slot [] (pieces_ne_nil rest), ih]
    rfl
  | case3 c rest h ih =>
    obtain ⟨part, parts, hrest, hparts⟩ := exists_pieces_cons h
    rw [hrest] at ih
    rw [hparts, joinWith_cons, ih]

lemma head_pieces_isPrefix {t part : Text} {parts : List Text} (h : pieces t = part :: parts) :
    part <+: t := by
  have hjoin := joinWith_pieces t
  rw [h] at hjoin
  cases parts with
  | nil => exact hjoin ▸ List.prefix_refl part
  | cons next parts =>
    rw [joinWith_cons_cons slot part (List.cons_ne_nil next parts), List.append_assoc] at hjoin
    exact ⟨_, hjoin⟩

lemma slot_notInfix_pieces (t : Text) : ∀ part ∈ pieces t, ¬slot <:+: part := by
  fun_induction slotCount t with
  | case1 => decide
  | case2 rest ih =>
    rw [pieces_slot, List.forall_mem_cons]
    exact ⟨by decide, ih⟩
  | case3 c rest h ih =>
    obtain ⟨part, parts, hrest, hparts⟩ := exists_pieces_cons h
    rw [hrest, List.forall_mem_cons] at ih
    rw [hparts, List.forall_mem_cons, List.infix_cons_iff]
    refine ⟨?_, ih.2⟩
    rintro (hslot | hslot)
    · obtain ⟨hc, hs⟩ := List.cons_prefix_cons.mp hslot
      obtain ⟨rest', hrest'⟩ := hs.trans (head_pieces_isPrefix hrest)
      exact h rest' hc.symm hrest'.symm
    · exact ih.1 hslot

lemma interleave_cons_cons (part : Text) {parts : List Text} (h : parts ≠ []) (args : List Text) :
    interleave (part :: parts) args = part ++ args.headD [] ++ interleave parts args.tail := by
  cases parts with
  | nil => exact absurd rfl h
  | cons next parts => rfl

lemma interleave_cons (c : Char) (part : Text) (parts args : List Text) :
    interleave ((c :: part) :: parts) args = c :: interleave (part :: parts) args := by
  cases parts <;> rfl

/-- What is filled in stands between the parts of the template as it is. -/
theorem fill_eq_interleave (t : Text) (args : List Text) :
    fill t args = interleave (pieces t) args := by
  fun_induction slotCount t generalizing args with
  | case1 => rfl
  | case2 rest ih =>
    rw [pieces_slot, interleave_cons_cons [] (pieces_ne_nil rest), ← ih]
    rfl
  | case3 c rest h ih =>
    obtain ⟨part, parts, hrest, hparts⟩ := exists_pieces_cons h
    rw [hparts, interleave_cons, ← hrest, ← ih, fill.eq_3 args c rest h]

end Template

/-! ### What an accepted rule guarantees -/

namespace Rule

section Read

variable {read? : Text → Option Pattern}

lemma compileWith_eq_ok_iff {written : WrittenRule} {rule : Rule} :
    compileWith read? written = .ok rule ↔
      written.patterns ≠ [] ∧ readPatterns read? written.patterns = .ok rule.patterns ∧
        rule.written = written ∧ rule.filling = fillingFor written.keyword ∧
        fits rule.filling (Template.slotCount written.template)
          (usableGroups rule.filling rule.patterns) = true := by
  obtain ⟨kept, patterns, filling⟩ := rule
  unfold compileWith
  by_cases hempty : written.patterns = []
  · simp [hempty]
  · rw [if_neg (mt List.isEmpty_iff.mp hempty)]
    cases hread : readPatterns read? written.patterns with
    | error bad => simp
    | ok read =>
      simp only [Except.ok.injEq]
      split_ifs with hfits
      · constructor
        · intro h
          cases h
          exact ⟨hempty, rfl, rfl, rfl, hfits⟩
        · rintro ⟨-, rfl, rfl, rfl, -⟩
          rfl
      · refine iff_of_false (by simp) ?_
        rintro ⟨-, rfl, rfl, rfl, h⟩
        exact hfits h

lemma readPatterns_ne_nil {written : List Text} {patterns : List Pattern} (hne : written ≠ [])
    (h : readPatterns read? written = .ok patterns) : patterns ≠ [] := by
  have hlength := (readPatterns_eq_ok_iff.mp h).length_eq
  rw [← List.length_pos_iff, hlength] at hne
  exact List.length_pos_iff.mp hne

lemma ne_nil_of_compileWith {written : WrittenRule} {rule : Rule}
    (h : compileWith read? written = .ok rule) : rule.patterns ≠ [] := by
  obtain ⟨hne, hread, -⟩ := compileWith_eq_ok_iff.mp h
  exact readPatterns_ne_nil hne hread

end Read

lemma fewestGroups_le {patterns : List Pattern} {p : Pattern} (hp : p ∈ patterns) :
    fewestGroups patterns ≤ p.groupCount := by
  have hmem : p.groupCount ∈ patterns.map Pattern.groupCount := List.mem_map_of_mem hp
  unfold fewestGroups
  cases hmin : (patterns.map Pattern.groupCount).min? with
  | none => exact Nat.zero_le _
  | some least => exact (List.min?_eq_some_iff.mp hmin).2 _ hmem

lemma exists_mostGroups {patterns : List Pattern} (hne : patterns ≠ []) :
    ∃ p ∈ patterns, (∀ q ∈ patterns, q.groupCount ≤ p.groupCount) ∧
      mostGroups patterns = p.groupCount := by
  have hmost : mostGroups patterns = ((patterns.map Pattern.groupCount).max?).getD 0 := by
    rw [mostGroups, List.foldl_max, Nat.zero_max]
  cases hmax : (patterns.map Pattern.groupCount).max? with
  | none => exact absurd (List.map_eq_nil_iff.mp (List.max?_eq_none_iff.mp hmax)) hne
  | some most =>
    obtain ⟨hmem, hle⟩ := List.max?_eq_some_iff.mp hmax
    obtain ⟨p, hp, rfl⟩ := List.mem_map.mp hmem
    rw [hmax] at hmost
    exact ⟨p, hp, fun q hq => hle _ (List.mem_map_of_mem hq), hmost⟩

/-- A keyword of counting loops, up to the case of ASCII letters. -/
def isLoopKeyword (keyword : Text) : Bool :=
  Text.sameWord "for".toList keyword || Text.sameWord "for loop".toList keyword

lemma fillingFor_eq (keyword : Text) :
    fillingFor keyword = if isLoopKeyword keyword then .countedLoop else .inOrder := by
  simp [fillingFor, loopKeywords, isLoopKeyword, or_comm]

lemma of_fits_countedLoop {slots groups : Nat} (h : fits .countedLoop slots groups = true) :
    slots = 5 ∧ 3 ≤ groups := by
  simpa [fits] using h

lemma of_fits_inOrder {slots groups : Nat} (h : fits .inOrder slots groups = true) :
    slots ≤ groups :=
  of_decide_eq_true h

lemma statement?_eq_fill {rule : Rule} {line : Text} {before after : List Pattern} {p : Pattern}
    {found : Pattern.Thread} (hpatterns : rule.patterns = before ++ p :: after)
    (hbefore : ∀ q ∈ before, q.searchFrom 0 none line = none)
    (hfound : p.searchFrom 0 none line = some found) :
    rule.statement? line = some (Template.fill rule.written.template (arguments rule.filling
      ((List.range p.groupCount).map fun i => found.captured (i + 1)))) := by
  refine List.findSome?_eq_some_iff.mpr ⟨before, p, after, hpatterns, ?_, fun q hq => ?_⟩
  · rw [Pattern.captures?, hfound, Option.map_some, Option.map_some]
  · rw [Pattern.captures?, hbefore q hq, Option.map_none, Option.map_none]

/-- An accepted rule converts every line that one of its patterns matches, and the first of these
patterns decides how. The template is cut at its slots into parts. In the header of a counting loop
the first three groups, which each pattern has, stand between the parts, the first of them three
times. In any other template, which has no more slots than the pattern with the most groups, the
groups stand between the parts in order. Captured texts are put in as they are, and a group that
takes no part is empty. -/
theorem statement?_fills {written : WrittenRule} {rule : Rule} (h : compile written = .ok rule)
    {line : Text} {before after : List Pattern} {p : Pattern} {found : Pattern.Thread}
    (hpatterns : rule.patterns = before ++ p :: after)
    (hbefore : ∀ q ∈ before, q.searchFrom 0 none line = none)
    (hfound : p.searchFrom 0 none line = some found) :
    let parts := Template.pieces written.template
    let slots := Template.slotCount written.template
    let groups := (List.range p.groupCount).map fun i => found.captured (i + 1)
    (parts.length = slots + 1 ∧ Text.joinWith Template.slot parts = written.template ∧
        ∀ part ∈ parts, ¬Template.slot <:+: part) ∧
      (isLoopKeyword written.keyword = true →
        slots = 5 ∧ (∀ q ∈ rule.patterns, 3 ≤ q.groupCount) ∧
          ∃ t₀ t₁ t₂ t₃ t₄ t₅ g₁ g₂ g₃ surplus,
            parts = [t₀, t₁, t₂, t₃, t₄, t₅] ∧ groups = g₁ :: g₂ :: g₃ :: surplus ∧
              rule.statement? line = some
                (t₀ ++ g₁ ++ t₁ ++ g₂ ++ t₂ ++ g₁ ++ t₃ ++ g₃ ++ t₄ ++ g₁ ++ t₅)) ∧
      (isLoopKeyword written.keyword = false →
        (∃ q ∈ rule.patterns, (∀ r ∈ rule.patterns, r.groupCount ≤ q.groupCount) ∧
            slots ≤ q.groupCount) ∧
          rule.statement? line = some (Template.interleave parts groups)) := by
  intro parts slots groups
  obtain ⟨-, -, hwritten, hfilling, hfits⟩ := compileWith_eq_ok_iff.mp h
  have hlength : parts.length = slots + 1 := Template.length_pieces written.template
  have hstatement := statement?_eq_fill hpatterns hbefore hfound
  rw [hwritten, Template.fill_eq_interleave] at hstatement
  rw [fillingFor_eq] at hfilling
  refine ⟨⟨hlength, Template.joinWith_pieces _, Template.slot_notInfix_pieces _⟩, fun hloop => ?_,
    fun hloop => ?_⟩
  · rw [if_pos hloop] at hfilling
    rw [hfilling] at hfits hstatement
    obtain ⟨hslots, hgroups⟩ := of_fits_countedLoop hfits
    have hthree : ∀ q ∈ rule.patterns, 3 ≤ q.groupCount :=
      fun q hq => hgroups.trans (fewestGroups_le hq)
    have hp : 3 ≤ groups.length := by
      simpa [groups] using hthree p (by simp [hpatterns])
    refine ⟨hslots, hthree, ?_⟩
    change rule.statement? line = some (Template.interleave parts (arguments .countedLoop groups))
      at hstatement
    have hsix : parts.length = 6 := hlength.trans (congrArg (· + 1) hslots)
    clear_value parts groups
    match parts, hsix, groups, hp with
    | [t₀, t₁, t₂, t₃, t₄, t₅], _, g₁ :: g₂ :: g₃ :: surplus, _ =>
      refine ⟨t₀, t₁, t₂, t₃, t₄, t₅, g₁, g₂, g₃, surplus, rfl, rfl, ?_⟩
      simpa [Template.interleave, arguments] using hstatement
  · rw [if_neg (by simp [hloop])] at hfilling
    rw [hfilling] at hfits hstatement
    obtain ⟨q, hq, hmost, heq⟩ := exists_mostGroups (ne_nil_of_compileWith h)
    exact ⟨⟨q, hq, hmost, (of_fits_inOrder hfits).trans heq.le⟩, hstatement⟩

theorem statement?_fills_percent :
    let loop : WrittenRule := ⟨"For".toList, ["(.)=(.),(..)".toList], "%s=%s;%s<%s;%s++".toList⟩
    let pair : WrittenRule := ⟨"pair".toList, ["x".toList, "a(b)?(..)".toList], "(%s|%s)".toList⟩
    (∃ rule, compile loop = .ok rule ∧
      rule.statement? "i=0,%s".toList = some "i=0;i<%s;i++".toList) ∧
    ∃ rule, compile pair = .ok rule ∧ rule.statement? "a%s".toList = some "(|%s)".toList := by
  intro loop pair
  let dot : Pattern := .one (.compl (.single '\n'))
  let sign (c : Char) : Pattern := .one (.anyCase (.single c))
  let three : Pattern := .enclosed (.seq (.seq (.seq (.seq (.group 1 dot) (sign '='))
    (.group 2 dot)) (sign ',')) (.group 3 (.seq dot dot)))
  let two : Pattern := .enclosed (.seq (.seq (sign 'a') (.upTo 1 true (.group 1 (sign 'b'))))
    (.group 2 (.seq dot dot)))
  have hloop : compile loop = .ok ⟨loop, [three], .countedLoop⟩ := by rfl
  have hpair : compile pair = .ok ⟨pair, [.enclosed (sign 'x'), two], .inOrder⟩ := by rfl
  refine ⟨⟨_, hloop, ?_⟩, _, hpair, ?_⟩
  · have hcaptures : three.captures? "i=0,%s".toList = some [['i'], ['0'], "%s".toList] := by
      decide +kernel
    obtain ⟨found, hfound, hcaptured⟩ := Option.map_eq_some_iff.mp hcaptures
    have hfirst : ([three] : List Pattern) = [] ++ three :: [] := rfl
    obtain ⟨-, hcounted, -⟩ := statement?_fills hloop hfirst (List.forall_mem_nil _) hfound
    obtain ⟨-, -, t₀, t₁, t₂, t₃, t₄, t₅, g₁, g₂, g₃, surplus, hparts, hgroups, hstatement⟩ :=
      hcounted rfl
    cases hparts
    cases hcaptured.symm.trans hgroups
    exact hstatement
  · have hcaptures : two.captures? "a%s".toList = some [[], "%s".toList] := by decide +kernel
    obtain ⟨found, hfound, hcaptured⟩ := Option.map_eq_some_iff.mp hcaptures
    have hsecond : [Pattern.enclosed (sign 'x'), two] = [.enclosed (sign 'x')] ++ two :: [] := rfl
    have hbefore : (Pattern.enclosed (sign 'x')).searchFrom 0 none "a%s".toList = none := by
      decide +kernel
    obtain ⟨-, -, hinOrder⟩ :=
      statement?_fills hpair hsecond (List.forall_mem_singleton.mpr hbefore) hfound
    have hstatement := (hinOrder rfl).2
    rw [hcaptured] at hstatement
    exact hstatement

end Rule
end Pseudocode
