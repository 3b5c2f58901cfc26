import Pseudocode.Proofs.Balance
import Pseudocode.Proofs.StatementText
import Pseudocode.Proofs.WordForms
import Pseudocode.Rule.Standard

/-!
# Rules that open and close blocks

Only the first of the standard rules have braces in their templates, and their patterns begin with
words. The first word of a line therefore tells which of them may convert it, and the braces of
its statement are those of the template, as long as the line has none of its own.
-/

namespace Pseudocode

deriving instance DecidableEq for CharSet, Anchor, Pattern

open Pattern

/-- A rule as far as braces go: what its patterns are between the ends of the line, the first words
of the lines that it converts, and the braces of its template. -/
structure BlockRule where
  forms : List Pattern
  keys : List Text
  braces : Text

namespace BlockRule

/-- Whether the rule converts a line. -/
def takes (b : BlockRule) (line : Text) : Bool := b.forms.any fun p => decide (p.Describes line)

def comment : BlockRule where
  forms := [inTurn [alt (inTurn (word "//".toList)) (one (.anyCase (.single '#'))), space,
    group 1 (upTo 1 true (anything true))]]
  keys := [[]]
  braces := []

def elseIf : BlockRule where
  forms := [
    inTurn (word "else".toList ++ gap :: (word "if".toList ++
      gap :: group 1 (anything false) :: gap :: word "then".toList)),
    inTurn (word "else".toList ++ gap :: (word "if".toList ++ [gap, group 1 (anything true)]))]
  keys := ["else".toList]
  braces := ['\x7d', '\x7b']

/-- A block with a condition after its first word and perhaps a last word. -/
def conditional (first last : Text) : BlockRule where
  forms := [
    inTurn (word first ++ gap :: group 1 (anything false) :: gap :: word last),
    inTurn (word first ++ [gap, group 1 (anything true)])]
  keys := [first]
  braces := ['\x7b']

def otherwise : BlockRule where
  forms := [inTurn (word "else".toList)]
  keys := ["else".toList]
  braces := ['\x7d', '\x7b']

/-- The end of what begins with a word. -/
def ending (what : Text) : Pattern := inTurn (word "end".toList ++ space :: word what)

def closing : BlockRule where
  forms := [ending "if".toList, ending "while".toList, ending "for".toList,
    inTurn (word "next".toList ++ [upTo 1 true (inTurn [gap, plus true (one .word)])])]
  keys := ["end", "endif", "endwhile", "endfor", "next"].map String.toList
  braces := ['\x7d']

def counted : BlockRule where
  forms := [inTurn (word "for".toList ++ gap :: group 1 (plus true (one .word)) :: space ::
    one (.anyCase (.single '=')) :: space :: group 2 (anything false) :: gap ::
    (word "to".toList ++ [gap, group 3 (anything false),
      upTo 1 true (inTurn (gap :: word "do".toList))]))]
  keys := ["for".toList]
  braces := ['\x7b']

/-- The first standard rules. -/
def standard : List BlockRule := [comment, elseIf, conditional "if".toList "then".toList, otherwise,
  closing, conditional "while".toList "do".toList, counted]

/-- The first standard rules with their templates. -/
def templates : List (BlockRule × Text × Filling) := [
  (comment, "// %s".toList, .inOrder),
  (elseIf, "\x7d else if (%s) \x7b".toList, .inOrder),
  (conditional "if".toList "then".toList, "if (%s) \x7b".toList, .inOrder),
  (otherwise, "\x7d else \x7b".toList, .inOrder),
  (closing, "\x7d".toList, .inOrder),
  (conditional "while".toList "do".toList, "while (%s) \x7b".toList, .inOrder),
  (counted, "for (int %s = %s; %s <= %s; %s++) \x7b".toList, .countedLoop)]

end BlockRule

lemma Rulebook.rules_templates :
    (standard.rules.take 7).map (fun r => (r.patterns, r.written.template, r.filling)) =
        BlockRule.templates.map (fun x => (x.1.forms.map enclosed, x.2)) ∧
      ∀ r ∈ standard.rules.drop 7, Text.braces r.written.template = [] := by
  decide +kernel

lemma Rulebook.rules_standard :
    (standard.rules.take 7).map (fun r => (r.patterns, Text.braces r.written.template)) =
        BlockRule.standard.map (fun b => (b.forms.map enclosed, b.braces)) ∧
      ∀ r ∈ standard.rules.drop 7, Text.braces r.written.template = [] := by
  obtain ⟨hfirst, hrest⟩ := rules_templates
  have hbraces := congrArg (List.map fun x : List Pattern × Text × Filling =>
    (x.1, Text.braces x.2.1)) hfirst
  rw [List.map_map, List.map_map] at hbraces
  exact ⟨hbraces, hrest⟩

/-! ### The first words of lines -/

namespace BlockRule

open Line

lemma isPlain_standard : ∀ b ∈ standard, ∀ p ∈ b.forms, p.isPlain = true := by decide

lemma takes_iff {b : BlockRule} (hb : b ∈ standard) (line : Text) :
    b.takes line = true ↔ ∃ p ∈ b.forms, p.Spells line := by
  rw [takes, List.any_eq_true]
  refine exists_congr fun p => and_congr_right fun hp => ?_
  rw [decide_eq_true_iff, describes_iff_spells (isPlain_standard b hb p hp)]

lemma key_of_comment {line : Text} (h : ∃ p ∈ comment.forms, p.Spells line) : key line = [] := by
  obtain ⟨p, hp, h⟩ := h
  rw [List.mem_singleton.mp hp, spells_inTurn_iff] at h
  obtain ⟨a, b, rfl, ha, -⟩ := h
  -- the signs of a comment are folded to themselves only
  have hsign {c d : Char} (hc : c ∈ ['/', '#'])
      (hd : (CharSet.anyCase (.single c)).contains d = true) : Text.isWordChar d = false := by
    have hplain : ∀ c ∈ ['/', '#'], c.toNat < 128 ∧ Text.asciiLower c = c ∧ c ≠ '\x00' := by decide
    obtain ⟨hascii, hlower, hnull⟩ := hplain c hc
    rw [← CharSet.fold_eq_of_contains hascii hlower hnull hd] at hc
    exact CharSet.isWordChar_of_fold_sign hc
  have hfirst : ∃ d rest, a = d :: rest ∧ Text.isWordChar d = false := by
    rcases ha with ha | ⟨d, rfl, hd⟩
    · obtain ⟨_, rest, rfl, ⟨d, rfl, hd⟩, -⟩ := spells_inTurn_iff.mp ha
      exact ⟨d, rest, rfl, hsign (by decide) hd⟩
    · exact ⟨d, [], rfl, hsign (by decide) hd⟩
  obtain ⟨d, rest, rfl, hd⟩ := hfirst
  rw [key, List.cons_append, List.takeWhile_cons_of_neg (Bool.eq_false_iff.mp hd), List.map_nil]

lemma key_of_closing {line : Text} (h : ∃ p ∈ closing.forms, p.Spells line) :
    key line ∈ closing.keys := by
  obtain ⟨p, hp, h⟩ := h
  have hend {w : Text} (hw : w.IsSmall) (h : (ending w).Spells line) :
      key line = "end".toList ∨ key line = "end".toList ++ w :=
    key_of_word_space (by decide) hw (spells_inTurn_iff.mp h)
  simp only [closing, List.mem_cons, List.not_mem_nil, or_false] at hp
  rcases hp with rfl | rfl | rfl | rfl
  · rcases hend (by decide) h with hkey | hkey <;> rw [hkey] <;> decide
  · rcases hend (by decide) h with hkey | hkey <;> rw [hkey] <;> decide
  · rcases hend (by decide) h with hkey | hkey <;> rw [hkey] <;> decide
  · have hkey : key line = "next".toList := by
      refine key_of_word_append (by decide) (spells_inTurn_iff.mp h) ?_
      rintro _ ⟨o, _, rfl, ho, rfl⟩
      rw [List.append_nil]
      rcases spells_upTo_one_iff.mp ho with rfl | ho
      · exact fun c hc => absurd hc (by simp)
      · obtain ⟨g, v, rfl, hg, -⟩ := spells_inTurn_iff.mp ho
        obtain ⟨hne, hwhite⟩ := spells_gap_iff.mp hg
        exact isWordChar_head?_white hne hwhite
    rw [hkey]
    decide

/-- The first word of a line tells the rules that may convert it. -/
lemma key_mem_of_takes {b : BlockRule} (hb : b ∈ standard) {line : Text}
    (h : b.takes line = true) : key line ∈ b.keys := by
  rw [takes_iff hb] at h
  have hword {w : Text} (hw : w.IsSmall) {ps : List Pattern}
      (h : (inTurn (word w ++ gap :: ps)).Spells line) : key line ∈ [w] :=
    List.mem_singleton.mpr (key_of_word_gap hw (spells_inTurn_iff.mp h))
  simp only [standard, List.mem_cons, List.not_mem_nil, or_false] at hb
  rcases hb with rfl | rfl | rfl | rfl | rfl | rfl | rfl
  · exact List.mem_singleton.mpr (key_of_comment h)
  · obtain ⟨p, hp, h⟩ := h
    rcases List.mem_pair.mp hp with rfl | rfl <;> exact hword (by decide) h
  · obtain ⟨p, hp, h⟩ := h
    rcases List.mem_pair.mp hp with rfl | rfl <;> exact hword (by decide) h
  · obtain ⟨p, hp, h⟩ := h
    rw [List.mem_singleton.mp hp] at h
    exact List.mem_singleton.mpr (key_of_word (by decide) (spells_inTurn_iff.mp h))
  · exact key_of_closing h
  · obtain ⟨p, hp, h⟩ := h
    rcases List.mem_pair.mp hp with rfl | rfl <;> exact hword (by decide) h
  · obtain ⟨p, hp, h⟩ := h
    rw [List.mem_singleton.mp hp] at h
    exact hword (by decide) h

end BlockRule

/-! ### The braces of a statement -/

open Text

lemma Template.braces_fill {template : Text} {args : List Text}
    (h : ∀ arg ∈ args, braces arg = []) : braces (fill template args) = braces template := by
  fun_induction fill template args with
  | case1 => rfl
  | case2 rest args ih =>
    have hfirst : braces (args.headD []) = [] := by
      cases args with
      | nil => rfl
      | cons arg args => exact h arg List.mem_cons_self
    rw [braces_append, hfirst, List.nil_append,
      ih fun arg harg => h arg (List.mem_of_mem_tail harg)]
    rfl
  | case3 d rest args _ ih => simp only [braces, List.filter_cons] at ih ⊢; rw [ih h]

namespace Rule

lemma braces_statement? {rule : Rule} {line statement : Text} (hline : braces line = [])
    (h : rule.statement? line = some statement) :
    braces statement = braces rule.written.template := by
  obtain ⟨p, -, hp⟩ := List.exists_of_findSome?_eq_some h
  obtain ⟨groups, hgroups, rfl⟩ := Option.map_eq_some_iff.mp hp
  refine Template.braces_fill fun arg harg => braces_eq_nil_iff.mpr fun c hc => ?_
  exact braces_eq_nil_iff.mp hline c (subset_of_captures? hgroups arg (mem_arguments harg hc) hc)

lemma isSome_statement?_eq_any (rule : Rule) (line : Text) :
    (rule.statement? line).isSome = rule.patterns.any fun p => (p.captures? line).isSome := by
  rw [statement?, Bool.eq_iff_iff, List.findSome?_isSome_iff, List.any_eq_true]
  simp only [Option.isSome_map]

end Rule

namespace Rulebook

lemma braces_convert (book : Rulebook) {line : Text} (hline : braces line = []) :
    braces (book.convert line) = ((book.rules.find? fun r => (r.statement? line).isSome).map
      fun r => braces r.written.template).getD [] := by
  cases hfind : book.rules.find? fun r => (r.statement? line).isSome with
  | none =>
    refine braces_eq_nil_iff.mpr fun c hc => Bool.eq_false_iff.mpr fun hbrace => ?_
    have hlayout : isLayout c = true := by
      rw [isLayout, Bool.or_assoc]
      exact Bool.or_eq_true_iff.mpr (.inr hbrace)
    rcases mem_of_mem_convert hlayout hc with hc | ⟨rule, hrule, happlies, -⟩
    · exact Bool.noConfusion (hbrace.symm.trans (braces_eq_nil_iff.mp hline c hc))
    · exact absurd happlies (List.find?_eq_none.mp hfind rule hrule)
  | some rule =>
    obtain ⟨happlies, before, after, hrules, hbefore⟩ := List.find?_eq_some_iff_append.mp hfind
    obtain ⟨statement, hstatement⟩ := Option.isSome_iff_exists.mp happlies
    have hfirst : book.statement? line = some statement := by
      have hnone : before.findSome? (·.statement? line) = none :=
        List.findSome?_eq_none_iff.mpr fun r hr => by simpa using hbefore r hr
      rw [statement?, hrules, List.findSome?_append, hnone, List.findSome?_cons, hstatement]
      rfl
    rw [convert, hfirst]
    exact Rule.braces_statement? hline hstatement

lemma braces_convert_standard {line : Text} (hline : braces line = []) :
    braces (Rulebook.standard.convert line) =
      ((BlockRule.standard.find? (·.takes line)).map (·.braces)).getD [] := by
  obtain ⟨hfirst, hrest⟩ := rules_standard
  let summary (r : Rule) : List Pattern × Text := (r.patterns, braces r.written.template)
  let matching (x : List Pattern × Text) : Bool := x.1.any fun p => (p.captures? line).isSome
  have happlies : (fun r : Rule => (r.statement? line).isSome) = matching ∘ summary :=
    funext fun r => r.isSome_statement?_eq_any line
  have htakes : matching ∘ (fun b : BlockRule => (b.forms.map enclosed, b.braces)) =
      (·.takes line) := by
    funext b
    show (b.forms.map enclosed).any (fun p => (p.captures? line).isSome) = b.takes line
    rw [List.any_map, BlockRule.takes]
    exact congrArg b.forms.any (funext fun p => isSome_captures?_enclosed p line)
  have hblocks : ((standard.rules.take 7).find? (matching ∘ summary)).map (fun r => (summary r).2) =
      (BlockRule.standard.find? (·.takes line)).map (·.braces) := by
    have hfind := congrArg (List.find? matching) hfirst
    rw [List.find?_map, List.find?_map, htakes] at hfind
    have hbraces := congrArg (Option.map Prod.snd) hfind
    rwa [Option.map_map, Option.map_map] at hbraces
  rw [braces_convert _ hline, happlies, ← List.take_append_drop 7 standard.rules, List.find?_append,
    ← hblocks]
  cases hfound : (standard.rules.take 7).find? (matching ∘ summary) with
  | some r => rfl
  | none =>
    cases hlater : (standard.rules.drop 7).find? (matching ∘ summary) with
    | none => rfl
    | some r => exact hrest r (List.mem_of_find?_eq_some hlater)

/-- Which rule converts a line does not matter to the braces: all rules for one first word have the
same ones. -/
lemma braces_convert_of_takes {line : Text} (hline : braces line = []) {b : BlockRule}
    (hb : b ∈ BlockRule.standard) (h : b.takes line = true) :
    braces (Rulebook.standard.convert line) = b.braces := by
  have hkeys : ∀ b ∈ BlockRule.standard, ∀ b' ∈ BlockRule.standard, ∀ k ∈ b.keys, k ∈ b'.keys →
      b'.braces = b.braces := by decide
  have hsome : (BlockRule.standard.find? (·.takes line)).isSome = true :=
    List.find?_isSome.mpr ⟨b, hb, h⟩
  obtain ⟨b', hfind⟩ := Option.isSome_iff_exists.mp hsome
  have hb' := List.mem_of_find?_eq_some hfind
  have h' := List.find?_some (p := fun b : BlockRule => b.takes line) hfind
  rw [braces_convert_standard hline, hfind]
  exact hkeys b hb b' hb' _ (BlockRule.key_mem_of_takes hb h) (BlockRule.key_mem_of_takes hb' h')

def blockWords : List Text :=
  ["if", "else", "while", "for", "next", "end", "endif", "endwhile", "endfor"].map String.toList

lemma braces_convert_of_key {line : Text} (hline : braces line = [])
    (h : Line.key line ∉ blockWords) : braces (Rulebook.standard.convert line) = [] := by
  have hkeys : ∀ b ∈ BlockRule.standard, b.braces = [] ∨ ∀ k ∈ b.keys, k ∈ blockWords := by decide
  rw [braces_convert_standard hline]
  cases hfind : BlockRule.standard.find? (·.takes line) with
  | none => rfl
  | some b =>
    have hb := List.mem_of_find?_eq_some hfind
    have htakes := List.find?_some (p := fun b : BlockRule => b.takes line) hfind
    rcases hkeys b hb with hbraces | hwords
    · exact hbraces
    · exact absurd (hwords _ (BlockRule.key_mem_of_takes hb htakes)) h

end Rulebook
end Pseudocode
