import Pseudocode.Proofs.Backtracking
import Pseudocode.Proofs.BlockLines

/-!
# Phrases in lines

What stands for a condition or a bound is any trimmed text of one line. A lazy pattern takes such a
phrase as a whole unless what follows can be read from within it: a word that closes the line only
if there is none behind the phrase and the phrase itself ends with one, and a word between two
phrases only if it is a word of the first.
-/

namespace Pseudocode

namespace Text

variable {t w : Text} {c : Char}

/-! ### Small words -/

lemma IsSmall.map_fold (hw : w.IsSmall) : w.map fold = w :=
  Pattern.fold_eq_of_spellsAll_word hw (Pattern.spellsAll_word hw (sameWord_iff.mpr rfl))

lemma IsSmall.isWord_of_map_fold (hw : w.IsSmall) (hne : w ≠ []) (h : t.map fold = w) :
    t.IsWord := by
  refine ⟨?_, Line.isWordChar_of_map_fold hw h⟩
  rintro rfl
  exact hne h.symm

/-- A word of small letters other than s and k, to which letters beyond ASCII fold. -/
structure IsOrdinary (w : Text) : Prop where
  ne_nil : w ≠ []
  isSmall : w.IsSmall
  long : 's' ∉ w
  kelvin : 'k' ∉ w

instance (w : Text) : Decidable w.IsOrdinary :=
  decidable_of_iff (w ≠ [] ∧ w.IsSmall ∧ 's' ∉ w ∧ 'k' ∉ w)
    ⟨fun ⟨hne, hsmall, hs, hk⟩ => ⟨hne, hsmall, hs, hk⟩,
      fun h => ⟨h.ne_nil, h.isSmall, h.long, h.kelvin⟩⟩

lemma IsOrdinary.sameWord_of_map_fold (hw : w.IsOrdinary) (h : t.map fold = w) :
    sameWord t w = true := by
  have hlong : '\u017f' ∉ t := fun hmem => hw.long (h ▸ List.mem_map_of_mem hmem)
  have hkelvin : '\u212a' ∉ t := fun hmem => hw.kelvin (h ▸ List.mem_map_of_mem hmem)
  exact Text.sameWord_of_map_fold (fun d hd => CharSet.of_small (hw.isSmall d hd)) hlong hkelvin h

/-! ### Words of a text -/

lemma words_white_append_word {g : Text} (hg : ∀ c ∈ g, isWhite c = true) (hw : w.IsWord)
    (hc : isWhite c = true) (t : Text) : words (g ++ (w ++ c :: t)) = w :: words t := by
  have hplain : ∀ c ∈ w, isWhite c = false := fun c hc =>
    isWhite_eq_false_of_isWordChar (hw.2 c hc)
  rw [words_white_append hg, words_append_cons hc, words_of_forall hw.1 hplain]
  rfl

end Text

/-! ### Groups of patterns in turn -/

namespace Pattern

lemma groupCount_inTurn (ps : List Pattern) :
    (inTurn ps).groupCount = (ps.map groupCount).foldr max 0 := by
  have hfold (p : Pattern) (ps : List Pattern) :
      (ps.foldl seq p).groupCount = max p.groupCount ((ps.map groupCount).foldr max 0) := by
    induction ps generalizing p with
    | nil => exact (Nat.max_zero _).symm
    | cons q ps ih => rw [List.foldl_cons, ih, groupCount, Nat.max_assoc]; rfl
  cases ps with
  | nil => rfl
  | cons p ps => exact hfold p ps

lemma foldr_groupCount_word (w : Text) (n : Nat) : ((word w).map groupCount).foldr max n = n := by
  induction w with
  | nil => rfl
  | cons c w ih => exact (Nat.zero_max _).trans ih

end Pattern

namespace Line

open Text Pattern

/-! ### Phrases -/

/-- What may stand for a condition or a bound: a trimmed text of one line. -/
structure IsPhrase (t : Text) : Prop where
  ne_nil : t ≠ []
  trimmed : trim t = t
  isLine : t.IsLine

instance (t : Text) : Decidable (IsPhrase t) :=
  decidable_of_iff (t ≠ [] ∧ trim t = t ∧ t.IsLine)
    ⟨fun ⟨hne, htrim, hline⟩ => ⟨hne, htrim, hline⟩, fun h => ⟨h.ne_nil, h.trimmed, h.isLine⟩⟩

/-- The text ends with a word, in either case, and white space stands before it. -/
def EndsWith (w t : Text) : Prop :=
  ∃ before c last, t = before ++ c :: last ∧ isWhite c = true ∧ sameWord last w = true

instance (w t : Text) : Decidable (EndsWith w t) :=
  decidable_of_iff (∃ n < t.length, (t[n]?).any isWhite = true ∧ sameWord (t.drop (n + 1)) w = true)
    (by
      constructor
      · rintro ⟨n, hn, hwhite, hword⟩
        rw [List.getElem?_eq_getElem hn, Option.any_some] at hwhite
        refine ⟨t.take n, t[n], t.drop (n + 1), ?_, hwhite, hword⟩
        rw [List.getElem_cons_drop, List.take_append_drop]
      · rintro ⟨before, c, last, rfl, hwhite, hword⟩
        have hdrop : (before ++ c :: last).drop (before.length + 1) = last := by
          rw [List.append_cons]
          exact List.drop_left' (by simp)
        exact ⟨before.length, by simp, by simpa using hwhite, by rwa [hdrop]⟩)

variable {a b c e s t v w last : Text} {kind : Text → Prop} {ps qs : List Pattern}
  {new : List (Nat × Text)}

lemma IsExpression.isPhrase (h : IsExpression t) : IsPhrase t := ⟨h.ne_nil, h.trimmed, h.isLine⟩

lemma isPhrase_of_isWord (h : t.IsWord) : IsPhrase t := (isExpression_of_isWord h).isPhrase

lemma isPhrase_of_isSmall (hw : w.IsSmall) (hne : w ≠ []) : IsPhrase w :=
  isPhrase_of_isWord (hw.isWord_of_map_fold hne hw.map_fold)

lemma IsPhrase.isWhite_head? (h : IsPhrase t) : ∀ c ∈ (t ++ s).head?, isWhite c = false := by
  intro c hc
  rw [List.head?_append_of_ne_nil _ h.ne_nil, ← h.trimmed] at hc
  exact isWhite_of_mem_head?_trim hc

lemma IsPhrase.isWhite_head?_append (h : IsPhrase t) :
    ∀ c ∈ ((t ++ s) ++ a).head?, isWhite c = false := by
  rw [List.append_assoc]
  exact h.isWhite_head?

lemma IsPhrase.exists_mem_start (h : IsPhrase (a ++ b)) (ha : a ≠ []) :
    ∃ c ∈ a, isWhite c = false := by
  refine ⟨a.head ha, List.head_mem ha, ?_⟩
  have hfirst : a.head ha ∈ (trim (a ++ b)).head? := by
    rw [h.trimmed, List.head?_append_of_ne_nil _ ha]
    exact List.head?_eq_some_head ha
  exact isWhite_of_mem_head?_trim hfirst

lemma IsPhrase.exists_mem_end (h : IsPhrase (a ++ b)) (hb : b ≠ []) :
    ∃ c ∈ b, isWhite c = false := by
  refine ⟨b.getLast hb, List.getLast_mem hb, ?_⟩
  have hlast : b.getLast hb ∈ (trim (a ++ b)).getLast? := by
    rw [h.trimmed, List.getLast?_append_of_ne_nil _ hb]
    exact List.getLast?_eq_some_getLast hb
  exact isWhite_of_mem_getLast?_trim hlast

/-! ### Where a closing word may be read -/

lemma not_spellsAll_closing (hlast : last.IsSmall) (hb : ∃ c ∈ b, isWhite c = false) :
    ¬SpellsAll (gap :: word last) (b ++ ' ' :: last) := by
  rintro ⟨g, d, heq, hg, hd⟩
  obtain ⟨-, hwhite⟩ := spells_gap_iff.mp hg
  have hlength : d.length = last.length := by
    rw [← fold_eq_of_spellsAll_word hlast hd, List.length_map]
  rw [List.append_cons] at heq
  have hgap : b ++ [' '] = g := (List.append_inj' heq hlength.symm).1
  obtain ⟨c, hc, hnot⟩ := hb
  have hc : isWhite c = true := hwhite c (hgap ▸ List.mem_append_left _ hc)
  exact Bool.noConfusion (hnot.symm.trans hc)

lemma not_spellsAll_closing_nil : ¬SpellsAll (gap :: word last) [] := by
  rintro ⟨g, d, heq, hg, -⟩
  exact (spells_gap_iff.mp hg).1 (List.append_eq_nil_iff.mp heq.symm).1

lemma endsWith_of_spellsAll (hlast : last.IsOrdinary) (h : SpellsAll (gap :: word last) b)
    (a : Text) : EndsWith last (a ++ b) := by
  obtain ⟨g, d, rfl, hg, hd⟩ := h
  obtain ⟨hne, hwhite⟩ := spells_gap_iff.mp hg
  obtain ⟨g, c, rfl⟩ := (List.eq_nil_or_concat' g).resolve_left hne
  have hword := hlast.sameWord_of_map_fold (fold_eq_of_spellsAll_word hlast.isSmall hd)
  refine ⟨a ++ g, c, d, ?_, hwhite c (by simp), hword⟩
  simp

/-- Where a word between two phrases can be read from within the first, it is a word of that
phrase. -/
lemma exists_word_of_before (hw : w.IsSmall) (hne : w ≠ []) (hb : ∃ c ∈ b, isWhite c = false)
    (h : Before (gap :: (word w ++ gap :: qs)) kind (b ++ ' ' :: s)) :
    ∃ c rest, b = c :: rest ∧ isWhite c = true ∧ ∃ d ∈ words rest, d.map fold = w := by
  obtain ⟨_, z, heq, ⟨g, _, rfl, hg, hspells⟩, -⟩ := h
  obtain ⟨d, _, rfl, hd, g', r, rfl, hg', -⟩ := spellsAll_append_iff.mp hspells
  obtain ⟨hgne, hwhite⟩ := spells_gap_iff.mp hg
  obtain ⟨hgne', hwhite'⟩ := spells_gap_iff.mp hg'
  obtain ⟨x, g, rfl⟩ := List.exists_cons_of_ne_nil hgne
  obtain ⟨y, g', rfl⟩ := List.exists_cons_of_ne_nil hgne'
  obtain ⟨c, rest, rfl⟩ : ∃ c rest, b = c :: rest := by
    obtain ⟨c, hc, -⟩ := hb
    exact List.exists_cons_of_ne_nil (List.ne_nil_of_mem hc)
  have hxc : c = x := (List.cons.inj heq).1
  have hc : isWhite c = true := hxc ▸ hwhite x List.mem_cons_self
  have hfold := fold_eq_of_spellsAll_word hw hd
  have hword := hw.isWord_of_map_fold hne hfold
  have hwords : words (c :: rest) ++ words s = d :: words (g' ++ (r ++ z)) := by
    rw [← words_append_cons (by decide : isWhite ' ' = true), heq]
    simp only [List.append_assoc, List.cons_append]
    exact words_white_append_word hwhite hword (hwhite' y List.mem_cons_self) _
  obtain ⟨d', ds, hds⟩ := List.exists_cons_of_ne_nil (words_ne_nil hb)
  rw [hds] at hwords
  have hfirst : d' = d := (List.cons.inj hwords).1
  have hrest : words (c :: rest) = words rest := words_append_cons hc [] rest
  refine ⟨c, rest, rfl, hc, d, ?_, hfold⟩
  rw [← hrest, hds, hfirst]
  exact List.mem_cons_self

/-! ### Patterns after words -/

def afterWords (ws : List Text) (ps : List Pattern) : List Pattern :=
  ws.foldr (fun w ps => word w ++ gap :: ps) ps

def withWords (ws : List Text) (t : Text) : Text := ws.foldr (fun w t => w ++ ' ' :: t) t

lemma isPlain_gap_cons (hps : ∀ p ∈ ps, p.isPlain = true) : ∀ p ∈ gap :: ps, p.isPlain = true :=
  List.forall_mem_cons.mpr ⟨rfl, hps⟩

lemma isPlain_afterWords (ws : List Text) (hps : ∀ p ∈ ps, p.isPlain = true) :
    ∀ p ∈ afterWords ws ps, p.isPlain = true := by
  induction ws with
  | nil => exact hps
  | cons w ws ih => exact List.forall_mem_append.mpr ⟨isPlain_word w, isPlain_gap_cons ih⟩

lemma takes_gap (hs : ∀ c ∈ s.head?, isWhite c = false) : Takes [gap] kind [' '] s [] :=
  takes_greedy (List.cons_ne_nil _ _) (by decide) hs

lemma takes_space (hs : ∀ c ∈ s.head?, isWhite c = false) : Takes [space] kind [' '] s [] :=
  have hgap : Takes [gap] kind [' '] s [] := takes_gap hs
  hgap.optional (by decide)

lemma IsPhrase.contains (hc : IsPhrase c) :
    ∀ x ∈ c, (CharSet.compl (.single '\n')).contains x = true := by
  intro x hx
  have hfeed : x ≠ '\n' := fun heq => hc.isLine (heq ▸ hx)
  simp [CharSet.contains, hfeed]

/-- A phrase that goes on as long as what follows it cannot be read from within it. -/
lemma takes_phrase (index : Nat) (hc : IsPhrase c)
    (hsooner : ∀ a b, c = a ++ b → a ≠ [] → b ≠ [] → ¬kind (b ++ s)) :
    Takes [group index (anything false)] kind c s [(index, c)] := by
  exact (takes_lazy hc.ne_nil hc.contains hsooner).group

lemma takes_lastPhrase (index : Nat) (hc : IsPhrase c) :
    Takes [group index (anything true)] (· = []) c [] [(index, c)] := by
  exact (takes_greedy hc.ne_nil hc.contains (by simp)).group

lemma groupCount_afterWords (ws : List Text) (ps : List Pattern) :
    (inTurn (afterWords ws ps)).groupCount = (inTurn ps).groupCount := by
  induction ws with
  | nil => rfl
  | cons w ws ih =>
    have hgap : (gap :: afterWords ws ps).map groupCount =
        0 :: (afterWords ws ps).map groupCount := rfl
    have hws : afterWords (w :: ws) ps = word w ++ gap :: afterWords ws ps := rfl
    rw [hws, ← ih, groupCount_inTurn, groupCount_inTurn, List.map_append, List.foldr_append,
      foldr_groupCount_word, hgap, List.foldr_cons, Nat.zero_max]

/-! ### Conditions -/

/-- The patterns of a condition and its closing word. -/
def closedCondition (last : Text) : List Pattern :=
  group 1 (anything false) :: gap :: word last

/-- The pattern of a condition without a closing word. -/
def openCondition : List Pattern := [group 1 (anything true)]

lemma isPlain_closing (last : Text) : ∀ p ∈ gap :: word last, p.isPlain = true :=
  isPlain_gap_cons (isPlain_word last)

lemma isPlain_closedCondition (last : Text) : ∀ p ∈ closedCondition last, p.isPlain = true :=
  List.forall_mem_cons.mpr ⟨rfl, isPlain_closing last⟩

lemma takes_closing (hlast : last.IsOrdinary) :
    Takes (gap :: word last) (· = []) (' ' :: last) [] [] :=
  have hhead : ∀ c ∈ (last ++ []).head?, isWhite c = false :=
    (isPhrase_of_isSmall hlast.isSmall hlast.ne_nil).isWhite_head?
  (takes_gap hhead).append (takes_word hlast.isSmall) (isPlain_word last)

lemma takes_closedCondition (hlast : last.IsOrdinary) (hc : IsPhrase c) :
    Takes (closedCondition last) (· = []) (c ++ ' ' :: last) [] [(1, c)] := by
  have hcondition : Takes [group 1 (anything false)] (Before (gap :: word last) (· = [])) c
      (' ' :: last ++ []) [(1, c)] := by
    refine takes_phrase 1 hc ?_
    rintro a b rfl - hb h
    rw [before_end_iff, List.append_nil] at h
    exact not_spellsAll_closing hlast.isSmall (hc.exists_mem_end hb) h
  exact hcondition.append (takes_closing hlast) (isPlain_closing last)

/-! ### Lines with words before a condition -/

section WithWords

variable {ws : List Text} (hws : ∀ w ∈ ws, w.IsSmall ∧ w ≠ [])

include hws

lemma isWhite_head?_withWords (ha : ∀ c ∈ (a ++ s).head?, isWhite c = false) :
    ∀ c ∈ (withWords ws a ++ s).head?, isWhite c = false := by
  cases ws with
  | nil => exact ha
  | cons w ws =>
    obtain ⟨hw, hne⟩ := hws w List.mem_cons_self
    exact (isPhrase_of_isSmall hw hne).isWhite_head?_append

lemma takes_afterWords (h : Takes ps kind a s new) (hps : ∀ p ∈ ps, p.isPlain = true)
    (ha : ∀ c ∈ (a ++ s).head?, isWhite c = false) :
    Takes (afterWords ws ps) kind (withWords ws a) s new := by
  induction ws with
  | nil => exact h
  | cons w ws ih =>
    obtain ⟨⟨hw, -⟩, hws⟩ := List.forall_mem_cons.mp hws
    have hplain := isPlain_afterWords ws hps
    have hgap : Takes (gap :: afterWords ws ps) kind (' ' :: withWords ws a) s (new ++ []) :=
      (takes_gap (isWhite_head?_withWords hws ha)).append (ih hws) hplain
    have hline := (takes_word hw).append hgap (isPlain_gap_cons hplain)
    rwa [List.append_nil, List.append_nil] at hline

lemma spellsAll_of_afterWords (ha : ∀ c ∈ a.head?, isWhite c = false)
    (h : SpellsAll (afterWords ws ps) (withWords ws a)) : SpellsAll ps a := by
  induction ws with
  | nil => exact h
  | cons w ws ih =>
    obtain ⟨⟨hw, -⟩, hws⟩ := List.forall_mem_cons.mp hws
    obtain ⟨d, _, heq, hd, g, b, rfl, hg, hb⟩ := spellsAll_append_iff.mp h
    obtain ⟨hne, hwhite⟩ := spells_gap_iff.mp hg
    have hlength : w.length = d.length := by
      rw [← fold_eq_of_spellsAll_word hw hd, List.length_map]
    obtain ⟨x, g, rfl⟩ := List.exists_cons_of_ne_nil hne
    have hrest : withWords ws a = g ++ b := (List.cons.inj (List.append_inj heq hlength).2).2
    have hhead := isWhite_head?_withWords (s := []) hws (by rwa [List.append_nil])
    rw [List.append_nil, hrest] at hhead
    -- the text behind the word does not begin with white space
    have hg : g = [] := by
      cases g with
      | nil => rfl
      | cons y g =>
        have hy := hwhite y (List.mem_cons_of_mem x List.mem_cons_self)
        exact Bool.noConfusion ((hhead y rfl).symm.trans hy)
    subst hg
    exact ih hws (hrest ▸ hb)

lemma captures?_closedCondition (hlast : last.IsOrdinary) (hc : IsPhrase c) :
    (enclosed (inTurn (afterWords ws (closedCondition last)))).captures?
      (withWords ws (c ++ ' ' :: last)) = some [c] := by
  have htakes := takes_afterWords hws (takes_closedCondition hlast hc)
    (isPlain_closedCondition last) hc.isWhite_head?_append
  have hcount : (inTurn (closedCondition last)).groupCount = 1 := by
    rw [groupCount_inTurn]
    show max 1 (max 0 (((word last).map groupCount).foldr max 0)) = 1
    rw [foldr_groupCount_word]
    rfl
  rw [captures?_of_takes htakes (isPlain_afterWords ws (isPlain_closedCondition last)),
    groupCount_afterWords, hcount]
  rfl

lemma captures?_openCondition (hc : IsPhrase c) :
    (enclosed (inTurn (afterWords ws openCondition))).captures? (withWords ws c) = some [c] := by
  have htakes := takes_afterWords hws (takes_lastPhrase 1 hc) (by decide)
    hc.isWhite_head?
  rw [openCondition, captures?_of_takes htakes (isPlain_afterWords ws (by decide)),
    groupCount_afterWords]
  rfl

lemma captures?_closedCondition_eq_none (hlast : last.IsOrdinary) (hc : IsPhrase c)
    (hend : ¬EndsWith last c) :
    (enclosed (inTurn (afterWords ws (closedCondition last)))).captures? (withWords ws c) =
      none := by
  have hplain := isPlain_afterWords ws (isPlain_closedCondition last)
  have hhead : ∀ x ∈ c.head?, isWhite x = false := by
    have hhead := hc.isWhite_head? (s := [])
    rwa [List.append_nil] at hhead
  have hnone : ¬SpellsAll (afterWords ws (closedCondition last)) (withWords ws c) := by
    intro h
    obtain ⟨a, b, rfl, -, hb⟩ := spellsAll_of_afterWords hws hhead h
    exact hend (endsWith_of_spellsAll hlast hb a)
  exact captures?_eq_none hplain hnone

end WithWords

/-! ### Ranges -/

/-- The closing word of a range, which may be missing. -/
def closingDo : Pattern := upTo 1 true (inTurn (gap :: word "do".toList))

/-- The patterns from the second bound of a range on. -/
def secondBound : List Pattern := [group 3 (anything false), closingDo]

/-- The patterns from the first bound of a range on. -/
def firstBound : List Pattern :=
  group 2 (anything false) :: gap :: afterWords ["to".toList] secondBound

/-- The patterns of a range. -/
def range : List Pattern :=
  group 1 (plus true (one .word)) :: space :: one (.anyCase (.single '=')) :: space :: firstBound

/-- A line with a range and what may close it. -/
def rangeLine (v s e tail : Text) : Text :=
  withWords ["for".toList] (v ++ (" = ".toList ++ (s ++ ' ' :: withWords ["to".toList] (e ++ tail))))

lemma takes_closingDo : Takes [closingDo] (· = []) (' ' :: "do".toList) [] [] :=
  (takes_closing (by decide)).optional (isPlain_closing _)

lemma takes_closingDo_nil : Takes [closingDo] (· = []) [] [] [] :=
  takes_optional_nil (isPlain_closing _) (mt before_end_iff.mp not_spellsAll_closing_nil)

lemma takes_secondBound (he : IsPhrase e) {tail : Text}
    (htail : Takes [closingDo] (· = []) tail [] [])
    (hsooner : ∀ a b, e = a ++ b → b ≠ [] → ¬SpellsAll (gap :: word "do".toList) (b ++ tail)) :
    Takes secondBound (· = []) (e ++ tail) [] [(3, e)] := by
  have hbound : Takes [group 3 (anything false)] (Before [closingDo] (· = [])) e (tail ++ [])
      [(3, e)] := by
    refine takes_phrase 3 he fun a b hab _ hb h => ?_
    rw [before_end_iff, List.append_nil] at h
    obtain ⟨d, _, hd, h, rfl⟩ := h
    rw [List.append_nil] at hd
    rcases spells_upTo_one_iff.mp h with rfl | h
    · exact hb (List.append_eq_nil_iff.mp hd).1
    · exact hsooner a b hab hb (hd ▸ spells_inTurn_iff.mp h)
  exact hbound.append htail (by decide)

lemma takes_firstBound (hs : IsPhrase s)
    (hto : ∀ w ∈ (words s).tail, sameWord w "to".toList = false) (he : IsPhrase e) {tail : Text}
    (h : Takes secondBound (· = []) (e ++ tail) [] new) :
    Takes firstBound (· = []) (s ++ ' ' :: withWords ["to".toList] (e ++ tail)) []
      (new ++ [(2, s)]) := by
  have hws : ∀ w ∈ ["to".toList], Text.IsSmall w ∧ w ≠ [] := by decide
  have hhead : ∀ c ∈ ((e ++ tail) ++ []).head?, isWhite c = false := he.isWhite_head?_append
  have hplain : ∀ p ∈ gap :: afterWords ["to".toList] secondBound, p.isPlain = true := by decide
  have hrest := (takes_gap (isWhite_head?_withWords hws hhead)).append
    (takes_afterWords hws h (by decide) hhead) (isPlain_afterWords _ (by decide))
  have hbound : Takes [group 2 (anything false)]
      (Before (gap :: afterWords ["to".toList] secondBound) (· = [])) s
      (' ' :: withWords ["to".toList] (e ++ tail) ++ []) [(2, s)] := by
    refine takes_phrase 2 hs ?_
    rintro a b rfl ha hb hbefore
    obtain ⟨c, rest, rfl, hc, d, hd, hfold⟩ := exists_word_of_before (by decide) (by decide)
      (hs.exists_mem_end hb) hbefore
    -- what stands before is a word of the bound, so that this one is not its first
    obtain ⟨w, ws, hwords⟩ := List.exists_cons_of_ne_nil (words_ne_nil (hs.exists_mem_start ha))
    have hmem : d ∈ (words (a ++ c :: rest)).tail := by
      rw [words_append_cons hc, hwords]
      exact List.mem_append_right _ hd
    have hword : sameWord d "to".toList = true :=
      IsOrdinary.sameWord_of_map_fold (by decide) hfold
    exact Bool.noConfusion ((hto d hmem).symm.trans hword)
  have htakes := hbound.append hrest hplain
  rwa [List.append_nil] at htakes

lemma takes_range (hv : v.IsWord) (hs : IsPhrase s)
    (h : Takes firstBound (· = []) (s ++ t) [] new) :
    Takes range (· = []) (v ++ (" = ".toList ++ (s ++ t))) [] (new ++ [(1, v)]) := by
  have hbound : Takes (space :: firstBound) (· = []) (' ' :: (s ++ t)) [] (new ++ []) :=
    (takes_space hs.isWhite_head?_append).append h (by decide)
  have hsign : Takes (one (.anyCase (.single '=')) :: space :: firstBound) (· = [])
      ('=' :: ' ' :: (s ++ t)) [] ((new ++ []) ++ []) :=
    (takes_one (by decide)).append hbound (by decide)
  have hspace : Takes (space :: one (.anyCase (.single '=')) :: space :: firstBound) (· = [])
      (" = ".toList ++ (s ++ t)) [] (((new ++ []) ++ []) ++ []) :=
    (takes_space (by rintro _ ⟨⟩; decide)).append hsign (by decide)
  have hcounter : Takes [group 1 (plus true (one .word))]
      (Before (space :: one (.anyCase (.single '=')) :: space :: firstBound) (· = [])) v
      ((" = ".toList ++ (s ++ t)) ++ []) [(1, v)] :=
    .group (takes_greedy hv.1 hv.2 (by rintro _ ⟨⟩; decide))
  have htakes := hcounter.append hspace (by decide)
  simp only [List.append_nil] at htakes
  exact htakes

lemma captures?_range (hv : v.IsWord) (hs : IsPhrase s)
    (hto : ∀ w ∈ (words s).tail, sameWord w "to".toList = false) (he : IsPhrase e) {tail : Text}
    (h : Takes secondBound (· = []) (e ++ tail) [] [(3, e)]) :
    (enclosed (inTurn (afterWords ["for".toList] range))).captures? (rangeLine v s e tail) =
      some [v, s, e] := by
  have hws : ∀ w ∈ ["for".toList], Text.IsSmall w ∧ w ≠ [] := by decide
  have htakes := takes_afterWords hws (takes_range hv hs (takes_firstBound hs hto he h))
    (by decide) (isPhrase_of_isWord hv).isWhite_head?_append
  rw [rangeLine, captures?_of_takes htakes (isPlain_afterWords _ (by decide))]
  rfl

end Line

end Pseudocode
