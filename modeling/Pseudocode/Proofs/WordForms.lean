import Pseudocode.Proofs.Pieces
import Pseudocode.Proofs.Spelling

/-!
# Patterns of words

Most patterns of rules are words with white space between them, and texts to capture. Letters match
in either case, and under case folding some match that are not ASCII. The first word of a line that
such a pattern describes is the first word of the pattern, as far as folding goes.
-/

namespace Pseudocode

/-! ### Letters in either case -/

/-- A word of small ASCII letters. -/
def Text.IsSmall (w : Text) : Prop := ∀ c ∈ w, 'a' ≤ c ∧ c ≤ 'z'

instance (w : Text) : Decidable w.IsSmall :=
  inferInstanceAs (Decidable (∀ c ∈ w, 'a' ≤ c ∧ c ≤ 'z'))

namespace CharSet

open Text

lemma fold_runs_ascii : ∀ run ∈ Table.fold, 65 ≤ run.lo ∧ run.hi ≤ 90 ∨ 128 ≤ run.lo := by
  decide +kernel

lemma notMem_shiftedTo {c d : Char} (hc : c.toNat < 128) (hlower : asciiLower c = c)
    (hnull : c ≠ '\x00') : c ∉ shiftedTo Table.fold d := by
  intro hmem
  obtain ⟨run, hrun, hshift⟩ := List.mem_filterMap.mp hmem
  simp only [Option.ite_none_right_eq_some, Option.some.injEq] at hshift
  obtain ⟨hcovers, hchar⟩ := hshift
  simp only [CaseRun.covers, Bool.and_eq_true, decide_eq_true_eq] at hcovers
  rcases toNat_ofNat_or (Int.toNat (d.toNat - run.shift)) with hnat | hzero
  · rw [hchar] at hnat
    rcases fold_runs_ascii run hrun with ⟨hlo, hhi⟩ | hlo
    · -- a capital letter is not its own lower case
      have hcapital : 'A' ≤ c ∧ c ≤ 'Z' := by
        constructor
        · show 65 ≤ c.toNat
          omega
        · show c.toNat ≤ 90
          omega
      have hlower' := toNat_asciiLower hcapital
      rw [hlower] at hlower'
      omega
    · omega
  · exact hnull (hchar.symm.trans hzero)

lemma sameCase_ascii : ∀ n < 128, ∀ x ∈ sameCase (Char.ofNat n), x.toNat < 128 → asciiLower x = x →
    x = asciiLower (Char.ofNat n) := by
  decide +kernel

lemma small_ascii : ∀ n < 128, 'a' ≤ asciiLower (Char.ofNat n) ∧ asciiLower (Char.ofNat n) ≤ 'z' →
    isWordChar (Char.ofNat n) = true ∧ asciiLower (Char.ofNat n) ∈ sameCase (Char.ofNat n) := by
  decide +kernel

variable {c d : Char}

/-- A character that matches a small letter or a sign in either case folds to it. -/
lemma fold_eq_of_contains (hc : c.toNat < 128) (hlower : asciiLower c = c) (hnull : c ≠ '\x00')
    (h : (anyCase (single c)).contains d = true) : fold d = c := by
  obtain ⟨x, hx, hxc⟩ := List.any_eq_true.mp h
  rw [beq_iff_eq.mp hxc] at hx
  by_cases hd : d.toNat < 128
  · have hcase := sameCase_ascii d.toNat hd
    rw [Char.ofNat_toNat] at hcase
    rw [fold, if_pos hd, ← hcase c hx hc hlower]
  · unfold sameCase at hx
    rw [if_neg hd] at hx
    rcases List.mem_cons.mp hx with hx | hx
    · exact hx.symm
    · exact absurd hx (notMem_shiftedTo hc hlower hnull)

lemma lt_of_asciiLower_lt (h : (asciiLower d).toNat < 128) : d.toNat < 128 := by
  by_contra hd
  have hcapital : ¬('A' ≤ d ∧ d ≤ 'Z') := by
    rintro ⟨-, hle⟩
    have hle : d.toNat ≤ 90 := hle
    omega
  rw [asciiLower, if_neg hcapital] at h
  exact hd h

lemma of_small (hc : 'a' ≤ c ∧ c ≤ 'z') : c.toNat < 128 ∧ asciiLower c = c ∧ c ≠ '\x00' := by
  have hlo : 97 ≤ c.toNat := hc.1
  have hhi : c.toNat ≤ 122 := hc.2
  refine ⟨by omega, ?_, ?_⟩
  · rw [asciiLower, if_neg]
    rintro ⟨-, hle⟩
    have hle : c.toNat ≤ 90 := hle
    omega
  · rintro rfl
    exact absurd hlo (by decide)

lemma contains_of_sameLetter (hc : 'a' ≤ c ∧ c ≤ 'z') (h : sameLetter d c = true) :
    (anyCase (single c)).contains d = true := by
  obtain ⟨hascii, hsame, -⟩ := of_small hc
  have hlower : asciiLower d = c := (beq_iff_eq.mp h).trans hsame
  have hsmall := small_ascii d.toNat (lt_of_asciiLower_lt (hlower ▸ hascii))
  rw [Char.ofNat_toNat, hlower] at hsmall
  exact List.any_eq_true.mpr ⟨c, (hsmall hc).2, beq_self_eq_true c⟩

lemma isWordChar_of_fold_eq (hc : 'a' ≤ c ∧ c ≤ 'z') (h : fold d = c) : isWordChar d = true := by
  obtain ⟨hascii, -, hnull⟩ := of_small hc
  by_cases hlong : d = '\u017f'
  · rw [hlong]
    decide +kernel
  · by_cases hkelvin : d = '\u212a'
    · rw [hkelvin]
      decide +kernel
    · have hlower : asciiLower d = c :=
        (asciiLower_eq_fold (h ▸ hascii) (h ▸ hnull) hlong hkelvin).trans h
      have hsmall := small_ascii d.toNat (lt_of_asciiLower_lt (hlower ▸ hascii))
      rw [Char.ofNat_toNat, hlower] at hsmall
      exact (hsmall hc).1

lemma signs_ascii : ∀ n < 128, asciiLower (Char.ofNat n) ∈ ['/', '#'] →
    isWordChar (Char.ofNat n) = false := by
  decide +kernel

lemma isWordChar_of_fold_sign (h : fold d ∈ ['/', '#']) : isWordChar d = false := by
  have hsigns : ∀ c ∈ ['/', '#'], c.toNat < 128 ∧ c ≠ '\x00' := by decide
  obtain ⟨hascii, hnull⟩ := hsigns _ h
  by_cases hlong : d = '\u017f'
  · rw [hlong] at h
    exact absurd h (by decide +kernel)
  · by_cases hkelvin : d = '\u212a'
    · rw [hkelvin] at h
      exact absurd h (by decide +kernel)
    · have hlower := asciiLower_eq_fold hascii hnull hlong hkelvin
      have hsign := signs_ascii d.toNat (lt_of_asciiLower_lt (hlower ▸ hascii))
      rw [Char.ofNat_toNat, hlower] at hsign
      exact hsign h

end CharSet

/-! ### Patterns in turn -/

namespace Pattern

/-- The letters of a word in either case. -/
def word (w : Text) : List Pattern := w.map fun c => one (.anyCase (.single c))

/-- White space. -/
def gap : Pattern := plus true (one .white)

/-- White space that may be missing. -/
def space : Pattern := upTo 1 true gap

/-- Any characters but line feeds. -/
def anything (greedy : Bool) : Pattern := plus greedy (one (.compl (.single '\n')))

/-- Patterns one after the other. -/
def inTurn : List Pattern → Pattern
  | [] => empty
  | p :: rest => rest.foldl seq p

/-- A text that the patterns spell one after the other. -/
def SpellsAll : List Pattern → Text → Prop
  | [], t => t = []
  | p :: rest, t => ∃ a b, t = a ++ b ∧ p.Spells a ∧ SpellsAll rest b

lemma spells_foldl_seq_iff {p : Pattern} {rest : List Pattern} {t : Text} :
    (rest.foldl seq p).Spells t ↔ ∃ a b, t = a ++ b ∧ p.Spells a ∧ SpellsAll rest b := by
  induction rest generalizing p with
  | nil =>
    constructor
    · exact fun h => ⟨t, [], (List.append_nil t).symm, h, rfl⟩
    · rintro ⟨a, b, rfl, ha, rfl⟩
      rwa [List.append_nil]
  | cons q rest ih =>
    rw [List.foldl_cons, ih]
    constructor
    · rintro ⟨_, c, rfl, ⟨a, b, rfl, ha, hb⟩, hc⟩
      exact ⟨a, b ++ c, List.append_assoc a b c, ha, b, c, rfl, hb, hc⟩
    · rintro ⟨a, _, rfl, ha, b, c, rfl, hb, hc⟩
      exact ⟨a ++ b, c, (List.append_assoc a b c).symm, ⟨a, b, rfl, ha, hb⟩, hc⟩

lemma spells_inTurn_iff {ps : List Pattern} {t : Text} : (inTurn ps).Spells t ↔ SpellsAll ps t := by
  cases ps with
  | nil => exact Iff.rfl
  | cons p rest => exact spells_foldl_seq_iff

lemma spellsAll_append_iff {ps qs : List Pattern} {t : Text} :
    SpellsAll (ps ++ qs) t ↔ ∃ a b, t = a ++ b ∧ SpellsAll ps a ∧ SpellsAll qs b := by
  induction ps generalizing t with
  | nil =>
    constructor
    · exact fun h => ⟨[], t, rfl, rfl, h⟩
    · rintro ⟨_, b, rfl, rfl, hb⟩
      exact hb
  | cons p ps ih =>
    constructor
    · rintro ⟨a, s, rfl, ha, hs⟩
      obtain ⟨b, c, rfl, hb, hc⟩ := ih.mp hs
      exact ⟨a ++ b, c, (List.append_assoc a b c).symm, ⟨a, b, rfl, ha, hb⟩, hc⟩
    · rintro ⟨_, c, rfl, ⟨a, b, rfl, ha, hb⟩, hc⟩
      exact ⟨a, b ++ c, List.append_assoc a b c, ha, ih.mpr ⟨b, c, rfl, hb, hc⟩⟩

variable {w t : Text}

lemma fold_eq_of_spellsAll_word (hw : w.IsSmall) (h : SpellsAll (word w) t) :
    t.map Text.fold = w := by
  induction w generalizing t with
  | nil =>
    cases h
    rfl
  | cons c w ih =>
    obtain ⟨hc, hw⟩ := List.forall_mem_cons.mp hw
    obtain ⟨_, b, rfl, ⟨d, rfl, hd⟩, hb⟩ := h
    obtain ⟨hascii, hlower, hnull⟩ := CharSet.of_small hc
    rw [List.singleton_append, List.map_cons, ih hw hb,
      CharSet.fold_eq_of_contains hascii hlower hnull hd]

lemma spellsAll_word (hw : w.IsSmall) (h : Text.sameWord t w = true) : SpellsAll (word w) t := by
  induction w generalizing t with
  | nil => exact List.length_eq_zero_iff.mp (Text.length_eq_of_sameWord h)
  | cons c w ih =>
    obtain ⟨hc, hw⟩ := List.forall_mem_cons.mp hw
    obtain ⟨d, ds, rfl, hd, hds⟩ := Text.sameWord_cons h
    exact ⟨[d], ds, rfl, ⟨d, rfl, CharSet.contains_of_sameLetter hc hd⟩, ih hw hds⟩

lemma spells_gap_iff : gap.Spells t ↔ t ≠ [] ∧ ∀ c ∈ t, Text.isWhite c = true := spells_plus_one_iff

lemma spells_space_iff : space.Spells t ↔ ∀ c ∈ t, Text.isWhite c = true := by
  rw [space, spells_upTo_one_iff, spells_gap_iff]
  constructor
  · rintro (rfl | ⟨-, hwhite⟩)
    · exact fun c hc => absurd hc List.not_mem_nil
    · exact hwhite
  · intro hwhite
    by_cases hne : t = []
    · exact .inl hne
    · exact .inr ⟨hne, hwhite⟩

lemma spells_anything_iff {greedy : Bool} : (anything greedy).Spells t ↔ t ≠ [] ∧ '\n' ∉ t := by
  have hset (c : Char) : (CharSet.compl (.single '\n')).contains c = true ↔ c ≠ '\n' := by
    simp [CharSet.contains]
  rw [anything, spells_plus_one_iff]
  simp only [hset]
  exact and_congr_right fun _ => ⟨fun h hmem => h _ hmem rfl, fun h c hc heq => h (heq ▸ hc)⟩

end Pattern

/-! ### The first word of a line -/

namespace Line

open Pattern

/-- The first word of a line, folded. -/
def key (line : Text) : Text := (line.takeWhile Text.isWordChar).map Text.fold

lemma key_append {a b : Text} (ha : ∀ c ∈ a, Text.isWordChar c = true)
    (hb : ∀ c ∈ b.head?, Text.isWordChar c = false) : key (a ++ b) = a.map Text.fold := by
  have hrest : b.takeWhile Text.isWordChar = [] := by
    cases b with
    | nil => rfl
    | cons c b => exact List.takeWhile_cons_of_neg (Bool.eq_false_iff.mp (hb c rfl))
  rw [key, List.takeWhile_append_of_pos ha, hrest, List.append_nil]

lemma isWordChar_of_map_fold {a w : Text} (hw : w.IsSmall) (h : a.map Text.fold = w) :
    ∀ c ∈ a, Text.isWordChar c = true := by
  intro c hc
  have hmem : Text.fold c ∈ w := h ▸ List.mem_map_of_mem hc
  exact CharSet.isWordChar_of_fold_eq (hw _ hmem) rfl

lemma isWordChar_head?_white {t s : Text} (hne : t ≠ [])
    (hwhite : ∀ c ∈ t, Text.isWhite c = true) :
    ∀ c ∈ (t ++ s).head?, Text.isWordChar c = false := by
  obtain ⟨d, t, rfl⟩ := List.exists_cons_of_ne_nil hne
  intro c hc
  obtain rfl : d = c := Option.some.inj hc
  exact Text.isWordChar_eq_false_of_isWhite (hwhite d List.mem_cons_self)

variable {w t : Text} (hw : w.IsSmall)

include hw

/-- A line that begins with a word and goes on as another pattern spells, if not with a letter. -/
lemma key_of_word_append {ps : List Pattern} (h : SpellsAll (word w ++ ps) t)
    (hps : ∀ b, SpellsAll ps b → ∀ c ∈ b.head?, Text.isWordChar c = false) : key t = w := by
  obtain ⟨a, b, rfl, ha, hb⟩ := spellsAll_append_iff.mp h
  have hfold := fold_eq_of_spellsAll_word hw ha
  rw [key_append (isWordChar_of_map_fold hw hfold) (hps b hb), hfold]

lemma key_of_word (h : SpellsAll (word w) t) : key t = w := by
  have h : SpellsAll (word w ++ []) t := by rwa [List.append_nil]
  refine key_of_word_append hw h fun b hb c hc => ?_
  cases hb
  exact absurd hc (by simp)

lemma key_of_word_gap {ps : List Pattern} (h : SpellsAll (word w ++ gap :: ps) t) : key t = w := by
  refine key_of_word_append hw h ?_
  rintro _ ⟨g, s, rfl, hg, -⟩
  obtain ⟨hne, hwhite⟩ := spells_gap_iff.mp hg
  exact isWordChar_head?_white hne hwhite

lemma key_of_word_space {w' : Text} (hw' : w'.IsSmall)
    (h : SpellsAll (word w ++ space :: word w') t) : key t = w ∨ key t = w ++ w' := by
  obtain ⟨a, _, rfl, ha, g, b, rfl, hg, hb⟩ := spellsAll_append_iff.mp h
  have hwhite := spells_space_iff.mp hg
  have hfold := fold_eq_of_spellsAll_word hw ha
  have hfold' := fold_eq_of_spellsAll_word hw' hb
  by_cases hne : g = []
  · subst hne
    right
    have hword : ∀ c ∈ a ++ b, Text.isWordChar c = true := fun c hc =>
      (List.mem_append.mp hc).elim (isWordChar_of_map_fold hw hfold c)
        (isWordChar_of_map_fold hw' hfold' c)
    have hkey := key_append (b := []) hword (by simp)
    rwa [List.append_nil, List.map_append, hfold, hfold'] at hkey
  · left
    rw [key_append (isWordChar_of_map_fold hw hfold) (isWordChar_head?_white hne hwhite), hfold]

end Line
end Pseudocode
