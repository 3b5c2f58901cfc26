import Pseudocode.Proofs.BlockRules
import Pseudocode.Proofs.SourceLines

/-!
# Lines about blocks

A line opens, continues or closes a branch or a loop if it has certain words in certain places,
in either case and with white space between them. Such lines are trimmed and have no braces, and
for each of them there is a rule.
-/

namespace Pseudocode

open Text

/-! ### The forms of lines -/

namespace Line

/-- White space within a line, or none. -/
def IsSpace (g : Text) : Prop := ∀ c ∈ g, isWhite c = true ∧ c ≠ '\n'

/-- What may stand for an expression: a trimmed text of one line without braces. -/
structure IsExpression (t : Text) : Prop where
  ne_nil : t ≠ []
  trimmed : trim t = t
  isLine : t.IsLine
  plain : braces t = []

instance (g : Text) : Decidable (IsSpace g) :=
  inferInstanceAs (Decidable (∀ c ∈ g, isWhite c = true ∧ c ≠ '\n'))

instance (t : Text) : Decidable (IsExpression t) :=
  decidable_of_iff (t ≠ [] ∧ trim t = t ∧ t.IsLine ∧ braces t = [])
    ⟨fun ⟨hne, htrim, hline, hbraces⟩ => ⟨hne, htrim, hline, hbraces⟩,
      fun h => ⟨h.ne_nil, h.trimmed, h.isLine, h.plain⟩⟩

/-- Texts of two kinds with white space between them. -/
def Apart (kind other : Text → Prop) (t : Text) : Prop :=
  ∃ a g b, t = a ++ (g ++ b) ∧ kind a ∧ (g ≠ [] ∧ IsSpace g) ∧ other b

def keywords : List Text :=
  ["if", "then", "else", "while", "do", "for", "to", "next", "end"].map String.toList

/-- One of these words, in either case. -/
def IsKeyword (w t : Text) : Prop := w ∈ keywords ∧ sameWord t w = true

instance (w t : Text) : Decidable (IsKeyword w t) :=
  decidable_of_iff (keywords.contains w = true ∧ sameWord t w = true)
    (and_congr_left fun _ => List.elem_iff)

/-- An expression, and perhaps a word after it. -/
def IsCondition (last t : Text) : Prop := IsExpression t ∨ Apart IsExpression (IsKeyword last) t

/-- A line such as `if c then` or `while c do`, with or without the last word. -/
def IsConditional (first last : Text) : Text → Prop := Apart (IsKeyword first) (IsCondition last)

/-- A line such as `else if c then`. -/
def IsElseIf : Text → Prop :=
  Apart (IsKeyword "else".toList) (IsConditional "if".toList "then".toList)

/-- A text such as `v = s to e do`. -/
def IsRange (t : Text) : Prop :=
  ∃ v g g' b, t = v ++ (g ++ (['='] ++ (g' ++ b))) ∧ v.IsWord ∧ IsSpace g ∧ IsSpace g' ∧
    Apart IsExpression (Apart (IsKeyword "to".toList) (IsCondition "do".toList)) b

/-- A line such as `for v = s to e do`. -/
def IsCounted : Text → Prop := Apart (IsKeyword "for".toList) IsRange

def IsEnd (what t : Text) : Prop :=
  ∃ a g b, t = a ++ (g ++ b) ∧ IsKeyword "end".toList a ∧ IsSpace g ∧ IsKeyword what b

def IsNext (t : Text) : Prop :=
  IsKeyword "next".toList t ∨ Apart (IsKeyword "next".toList) IsWord t

/-- A line that is not about blocks, going by its first word. -/
structure IsSimple (line : Text) : Prop where
  trimmed : trim line = line
  isLine : line.IsLine
  plain : braces line = []
  firstWord : key line ∉ Rulebook.blockWords

/-! ### Lines about blocks may stand for expressions -/

variable {kind other : Text → Prop} {a b g t w : Text}

lemma IsSpace.braces_eq_nil (h : IsSpace g) : braces g = [] :=
  braces_eq_nil_of_forall (fun c hc => (h c hc).1) (by decide)

lemma isExpression_of_isWord (h : t.IsWord) : IsExpression t where
  ne_nil := h.1
  trimmed := trim_eq_self
    (fun c hc => isWhite_eq_false_of_isWordChar (h.2 c (List.mem_of_mem_head? hc)))
    (fun c hc => isWhite_eq_false_of_isWordChar (h.2 c (List.mem_of_mem_getLast? hc)))
  isLine := h.isLine
  plain := braces_eq_nil_of_forall h.2 (by decide +kernel)

lemma isSmall_keywords : ∀ w ∈ keywords, w ≠ [] ∧ w.IsSmall := by decide

lemma IsKeyword.spellsAll (h : IsKeyword w t) : Pattern.SpellsAll (Pattern.word w) t :=
  Pattern.spellsAll_word (isSmall_keywords w h.1).2 h.2

lemma IsKeyword.isExpression (h : IsKeyword w t) : IsExpression t := by
  obtain ⟨hne, hsmall⟩ := isSmall_keywords w h.1
  have hfold := Pattern.fold_eq_of_spellsAll_word hsmall h.spellsAll
  refine isExpression_of_isWord ⟨?_, isWordChar_of_map_fold hsmall hfold⟩
  rintro rfl
  exact hne hfold.symm

lemma IsExpression.append (ha : IsExpression a) (hg : IsSpace g) (hb : IsExpression b) :
    IsExpression (a ++ (g ++ b)) where
  ne_nil h := ha.ne_nil (List.append_eq_nil_iff.mp h).1
  trimmed := by
    have hrest : g ++ b ≠ [] := fun h => hb.ne_nil (List.append_eq_nil_iff.mp h).2
    refine trim_eq_self (fun c hc => ?_) (fun c hc => ?_)
    · rw [List.head?_append_of_ne_nil _ ha.ne_nil, ← ha.trimmed] at hc
      exact isWhite_of_mem_head?_trim hc
    · rw [List.getLast?_append_of_ne_nil _ hrest, List.getLast?_append_of_ne_nil _ hb.ne_nil,
        ← hb.trimmed] at hc
      exact isWhite_of_mem_getLast?_trim hc
  isLine := ha.isLine.append (IsLine.append (fun h => (hg _ h).2 rfl) hb.isLine)
  plain := by
    rw [braces_append, braces_append, ha.plain, hg.braces_eq_nil, hb.plain]
    rfl

lemma Apart.isExpression (h : Apart kind other t) (hkind : ∀ a, kind a → IsExpression a)
    (hother : ∀ b, other b → IsExpression b) : IsExpression t := by
  obtain ⟨a, g, b, rfl, ha, ⟨-, hg⟩, hb⟩ := h
  exact (hkind a ha).append hg (hother b hb)

lemma IsCondition.isExpression {last : Text} (h : IsCondition last t) : IsExpression t := by
  rcases h with h | h
  · exact h
  · exact h.isExpression (fun _ => id) fun _ => IsKeyword.isExpression

/-! ### The rules for lines about blocks -/

open Pattern

lemma Apart.spellsAll {ps qs : List Pattern} (h : Apart kind other t)
    (hkind : ∀ a, kind a → SpellsAll ps a) (hother : ∀ b, other b → SpellsAll qs b) :
    SpellsAll (ps ++ gap :: qs) t := by
  obtain ⟨a, g, b, rfl, ha, ⟨hne, hg⟩, hb⟩ := h
  exact spellsAll_append_iff.mpr ⟨a, g ++ b, rfl, hkind a ha, g, b, rfl,
    spells_gap_iff.mpr ⟨hne, fun c hc => (hg c hc).1⟩, hother b hb⟩

lemma IsSpace.spells (h : IsSpace g) : space.Spells g := spells_space_iff.mpr fun c hc => (h c hc).1

lemma spells_of_isWord (h : t.IsWord) : (plus true (one .word)).Spells t :=
  spells_plus_one_iff.mpr h

lemma IsExpression.spells (h : IsExpression t) (greedy : Bool) : (anything greedy).Spells t :=
  spells_anything_iff.mpr ⟨h.ne_nil, h.isLine⟩

lemma IsExpression.spellsAll (h : IsExpression t) {index : Nat} {greedy : Bool} :
    SpellsAll [group index (anything greedy)] t :=
  ⟨t, [], (List.append_nil t).symm, h.spells greedy, rfl⟩

/-- A line that a rule converts and that might as well stand for an expression, as all lines about
blocks do. -/
structure IsTakenBy (b : BlockRule) (line : Text) : Prop where
  isExpression : IsExpression line
  mem : b ∈ BlockRule.standard
  takes : b.takes line = true

lemma IsTakenBy.braces_convert {rule : BlockRule} {line : Text} (h : IsTakenBy rule line) :
    braces (Rulebook.standard.convert line) = rule.braces :=
  Rulebook.braces_convert_of_takes h.isExpression.plain h.mem h.takes

lemma IsExpression.isTakenBy {rule : BlockRule} (ht : IsExpression t)
    (hrule : rule ∈ BlockRule.standard) {ps : List Pattern} (hps : inTurn ps ∈ rule.forms)
    (h : SpellsAll ps t) : IsTakenBy rule t :=
  ⟨ht, hrule, (BlockRule.takes_iff hrule t).mpr ⟨inTurn ps, hps, spells_inTurn_iff.mpr h⟩⟩

variable {first last what : Text}

/-- With or without a last word, what follows the first word of a conditional line may stand for an
expression. The pattern without the last word therefore describes the line. -/
lemma IsConditional.spellsAll (h : IsConditional first last t) :
    SpellsAll (word first ++ [gap, group 1 (anything true)]) t :=
  Apart.spellsAll h (fun _ => IsKeyword.spellsAll) fun _ hb => hb.isExpression.spellsAll

lemma IsConditional.isExpression (h : IsConditional first last t) : IsExpression t :=
  Apart.isExpression h (fun _ => IsKeyword.isExpression) fun _ => IsCondition.isExpression

lemma IsConditional.isTakenBy (h : IsConditional first last t)
    (hrule : BlockRule.conditional first last ∈ BlockRule.standard) :
    IsTakenBy (.conditional first last) t :=
  h.isExpression.isTakenBy hrule (List.mem_pair.mpr (.inr rfl)) h.spellsAll

lemma IsElseIf.isTakenBy (h : IsElseIf t) : IsTakenBy .elseIf t := by
  have ht : IsExpression t :=
    Apart.isExpression h (fun _ => IsKeyword.isExpression) fun _ => IsConditional.isExpression
  exact ht.isTakenBy (by simp [BlockRule.standard]) (List.mem_pair.mpr (.inr rfl))
    (Apart.spellsAll h (fun _ => IsKeyword.spellsAll) fun _ => IsConditional.spellsAll)

lemma isTakenBy_otherwise (h : IsKeyword "else".toList t) : IsTakenBy .otherwise t :=
  h.isExpression.isTakenBy (by simp [BlockRule.standard]) (List.mem_singleton.mpr rfl) h.spellsAll

lemma IsRange.isExpression (h : IsRange t) : IsExpression t := by
  obtain ⟨v, g, g', b, rfl, hv, hg, hg', hb⟩ := h
  have hsign : IsExpression ['='] := by decide
  refine (isExpression_of_isWord hv).append hg (hsign.append hg' ?_)
  exact hb.isExpression (fun _ => id) fun _ h =>
    h.isExpression (fun _ => IsKeyword.isExpression) fun _ => IsCondition.isExpression

lemma IsCounted.isTakenBy (h : IsCounted t) : IsTakenBy .counted t := by
  have ht : IsExpression t :=
    Apart.isExpression h (fun _ => IsKeyword.isExpression) fun _ => IsRange.isExpression
  refine ht.isTakenBy (by simp [BlockRule.standard]) (List.mem_singleton.mpr rfl)
    (Apart.spellsAll h (fun _ => IsKeyword.spellsAll) ?_)
  rintro _ ⟨v, g, g', b, rfl, hv, hg, hg', hb⟩
  refine ⟨v, _, rfl, spells_of_isWord hv, g, _, rfl, hg.spells, ['='], _, rfl,
    ⟨'=', rfl, by decide⟩, g', b, rfl, hg'.spells, ?_⟩
  -- the last expression may have the word after it, which is then not read as one
  show SpellsAll ([group 2 (anything false)] ++ gap :: (word "to".toList ++ _)) b
  refine hb.spellsAll (fun _ hs => hs.spellsAll) fun _ h => ?_
  refine h.spellsAll (fun _ => IsKeyword.spellsAll) fun e he => ?_
  exact ⟨e, [], (List.append_nil e).symm, he.isExpression.spells false, [], [], rfl,
    spells_upTo_one_iff.mpr (.inl rfl), rfl⟩

lemma IsEnd.isTakenBy (h : IsEnd what t) (hform : BlockRule.ending what ∈ BlockRule.closing.forms) :
    IsTakenBy .closing t := by
  obtain ⟨a, g, b, rfl, ha, hg, hb⟩ := h
  have ht := ha.isExpression.append hg hb.isExpression
  exact ht.isTakenBy (by simp [BlockRule.standard]) hform (spellsAll_append_iff.mpr
    ⟨a, g ++ b, rfl, ha.spellsAll, g, b, rfl, hg.spells, hb.spellsAll⟩)

lemma IsNext.isTakenBy (h : IsNext t) : IsTakenBy .closing t := by
  have ht : IsExpression t := by
    rcases h with h | h
    · exact h.isExpression
    · exact h.isExpression (fun _ => IsKeyword.isExpression) fun _ => isExpression_of_isWord
  have hform : inTurn (word "next".toList ++ [upTo 1 true (inTurn [gap, plus true (one .word)])]) ∈
      BlockRule.closing.forms := by simp [BlockRule.closing]
  refine ht.isTakenBy (by simp [BlockRule.standard]) hform (spellsAll_append_iff.mpr ?_)
  rcases h with h | ⟨a, g, b, rfl, ha, ⟨hne, hg⟩, hb⟩
  · exact ⟨t, [], (List.append_nil t).symm, h.spellsAll, [], [], rfl,
      spells_upTo_one_iff.mpr (.inl rfl), rfl⟩
  · have hgap : gap.Spells g := spells_gap_iff.mpr ⟨hne, fun c hc => (hg c hc).1⟩
    exact ⟨a, g ++ b, rfl, ha.spellsAll, g ++ b, [], (List.append_nil _).symm,
      spells_upTo_one_iff.mpr (.inr ⟨g, b, rfl, hgap, spells_of_isWord hb⟩), rfl⟩

end Line
end Pseudocode
