import Pseudocode.Proofs.Declarations
import Mathlib.Data.List.Forall2

/-!
# The grammar of method headers

A header is a word that names the method, with its parameters in parentheses and perhaps a word for
its type before it. Reading accepts exactly the texts of this form, and since words hold neither
white space nor parentheses, no text has the form in two ways. The parameters go by the commas
between the outer parentheses, whatever else stands there.
-/

namespace Pseudocode

namespace Text

variable {c : Char} {t : Text}

/-! ### Words, white space and pieces -/

lemma spanWord_append {word rest : Text} (hword : ∀ c ∈ word, isWordChar c = true)
    (hrest : ∀ c ∈ rest.head?, isWordChar c = false) : spanWord (word ++ rest) = (word, rest) := by
  rw [spanWord, List.span_eq_takeWhile_dropWhile, List.takeWhile_append_of_pos hword,
    List.dropWhile_append_of_pos hword]
  cases rest with
  | nil => rw [List.takeWhile_nil, List.dropWhile_nil, List.append_nil]
  | cons c rest =>
    have hc : ¬isWordChar c = true := Bool.eq_false_iff.mp (hrest c rfl)
    rw [List.takeWhile_cons_of_neg hc, List.dropWhile_cons_of_neg hc, List.append_nil]

lemma eq_append_of_spanWord {word rest : Text} (h : spanWord t = (word, rest)) :
    t = word ++ rest := by
  rw [spanWord, List.span_eq_takeWhile_dropWhile, Prod.mk.injEq] at h
  rw [← h.1, ← h.2, List.takeWhile_append_dropWhile]

lemma exists_trimStart (t : Text) :
    ∃ before : Text, (∀ c ∈ before, isWhite c = true) ∧ t = before ++ trimStart t :=
  ⟨t.takeWhile isWhite, fun _ hc => List.mem_takeWhile_imp hc,
    List.takeWhile_append_dropWhile.symm⟩

lemma trimStart_white_append {s : Text} (hs : ∀ c ∈ s, isWhite c = true)
    (ht : ∀ c ∈ t.head?, isWhite c = false) : trimStart (s ++ t) = t := by
  rw [trimStart, List.dropWhile_append_of_pos hs]
  cases t with
  | nil => rfl
  | cons c t => exact List.dropWhile_cons_of_neg (Bool.eq_false_iff.mp (ht c rfl))

lemma IsWord.isWhite_eq_false (h : t.IsWord) : ∀ c ∈ t, isWhite c = false :=
  fun c hc => isWhite_eq_false_of_isWordChar (h.2 c hc)

lemma IsWord.isWhite_head? (h : t.IsWord) (s : Text) :
    ∀ c ∈ (t ++ s).head?, isWhite c = false := by
  intro c hc
  rw [List.head?_append_of_ne_nil _ h.1] at hc
  exact h.isWhite_eq_false c (List.mem_of_mem_head? hc)

lemma IsWord.trimStart_append (h : t.IsWord) (s : Text) : trimStart (t ++ s) = t ++ s :=
  trimStart_white_append (s := []) (List.forall_mem_nil _) (h.isWhite_head? s)

lemma isWordChar_head?_white_append {s : Text} (hs : ∀ c ∈ s, isWhite c = true)
    (ht : ∀ c ∈ t.head?, isWordChar c = false) : ∀ c ∈ (s ++ t).head?, isWordChar c = false := by
  cases s with
  | nil => exact ht
  | cons d s =>
    intro c hc
    obtain rfl : d = c := Option.some.inj hc
    exact isWordChar_eq_false_of_isWhite (hs d List.mem_cons_self)

/-- A text cut at every occurrence of a character. -/
structure IsCutAt (c : Char) (t : Text) (pieces : List Text) : Prop where
  ne_nil : pieces ≠ []
  notMem : ∀ piece ∈ pieces, c ∉ piece
  joined : [c].intercalate pieces = t

lemma isCutAt_iff {pieces : List Text} : IsCutAt c t pieces ↔ splitAt (· == c) t = pieces := by
  rw [splitAt_eq_splitOnP]
  constructor
  · rintro ⟨hne, hnotMem, rfl⟩
    exact List.splitOn_intercalate c hnotMem hne
  · rintro rfl
    refine ⟨List.splitOnP_ne_nil _ _, fun piece hpiece hmem => ?_, List.intercalate_splitOn c⟩
    rw [← splitAt_eq_splitOnP] at hpiece
    exact absurd (of_mem_splitAt hpiece hmem).1 (by simp)

/-- A text of two runs without white space, and white space between and perhaps around them. -/
structure IsPair (t first second : Text) : Prop where
  first_ne_nil : first ≠ []
  isWhite_first : ∀ c ∈ first, isWhite c = false
  second_ne_nil : second ≠ []
  isWhite_second : ∀ c ∈ second, isWhite c = false
  spaced : ∃ before gap after : Text, (∀ c ∈ before, isWhite c = true) ∧ gap ≠ [] ∧
    (∀ c ∈ gap, isWhite c = true) ∧ (∀ c ∈ after, isWhite c = true) ∧
    t = before ++ (first ++ (gap ++ (second ++ after)))

lemma exists_of_words_eq_cons {word : Text} {more : List Text} (h : words t = word :: more) :
    ∃ before rest : Text, t = before ++ (word ++ rest) ∧ (∀ c ∈ before, isWhite c = true) ∧
      (∀ c ∈ rest.head?, isWhite c = true) ∧ words rest = more := by
  obtain ⟨before, hbefore, ht⟩ := exists_trimStart t
  rw [ht, words_white_append hbefore] at h
  cases hstart : trimStart t with
  | nil =>
    rw [hstart] at h
    exact absurd h.symm (List.cons_ne_nil _ _)
  | cons c s =>
    have hc : isWhite c = false := by
      have hstop := List.head?_dropWhile_not isWhite t
      rwa [← trimStart, hstart] at hstop
    have hrun : ∀ d ∈ c :: s.takeWhile (!isWhite ·), isWhite d = false :=
      List.forall_mem_cons.mpr ⟨hc, fun d hd => by simpa using List.mem_takeWhile_imp hd⟩
    have hsplit : c :: s = (c :: s.takeWhile (!isWhite ·)) ++ s.dropWhile (!isWhite ·) := by
      rw [List.cons_append, List.takeWhile_append_dropWhile]
    have hfirst := words_of_forall (List.cons_ne_nil _ _) hrun
    rw [hstart, hsplit] at h ht
    cases hend : s.dropWhile (!isWhite ·) with
    | nil =>
      rw [hend, List.append_nil, hfirst] at h
      obtain ⟨rfl, rfl⟩ := List.cons.inj h
      exact ⟨before, [], hend ▸ ht, hbefore, by simp, rfl⟩
    | cons d rest =>
      have hd : isWhite d = true := by
        have hstop := List.head?_dropWhile_not (!isWhite ·) s
        rw [hend] at hstop
        simpa using hstop
      rw [hend, words_append_cons hd, hfirst] at h
      obtain ⟨rfl, rfl⟩ := List.cons.inj h
      exact ⟨before, d :: rest, hend ▸ ht, hbefore, by simpa using hd, words_append_cons hd [] rest⟩

lemma isWhite_of_words_eq_nil (h : words t = []) : ∀ c ∈ t, isWhite c = true := by
  by_contra hplain
  push Not at hplain
  obtain ⟨c, hc, hwhite⟩ := hplain
  exact words_ne_nil ⟨c, hc, Bool.eq_false_iff.mpr hwhite⟩ h

lemma isPair_iff {first second : Text} : IsPair t first second ↔ words t = [first, second] := by
  constructor
  · rintro ⟨hfirst, hplain, hsecond, hplain', before, gap, after, hbefore, hne, hgap, hafter, rfl⟩
    obtain ⟨d, gap, rfl⟩ := List.exists_cons_of_ne_nil hne
    obtain ⟨hd, hgap⟩ := List.forall_mem_cons.mp hgap
    rw [words_white_append hbefore, List.cons_append, words_append_cons hd, words_white_append hgap,
      words_append_white hafter, words_of_forall hfirst hplain, words_of_forall hsecond hplain']
    rfl
  · intro h
    obtain ⟨before, rest, rfl, hbefore, hrest, hwords⟩ := exists_of_words_eq_cons h
    obtain ⟨gap, after, rfl, hgap, -, hafter⟩ := exists_of_words_eq_cons hwords
    have hfirst : first ∈ words (before ++ (first ++ (gap ++ (second ++ after)))) := by simp [h]
    have hsecond : second ∈ words (before ++ (first ++ (gap ++ (second ++ after)))) := by simp [h]
    refine ⟨ne_nil_of_mem_words hfirst, fun c hc => (of_mem_words hfirst hc).1,
      ne_nil_of_mem_words hsecond, fun c hc => (of_mem_words hsecond hc).1,
      before, gap, after, hbefore, ?_, hgap, isWhite_of_words_eq_nil hafter, rfl⟩
    -- without a gap the second word would begin with white space
    rintro rfl
    obtain ⟨c, second, rfl⟩ := List.exists_cons_of_ne_nil (ne_nil_of_mem_words hsecond)
    have hplain := (of_mem_words hsecond List.mem_cons_self).1
    exact Bool.noConfusion (hplain.symm.trans (hrest c rfl))

end Text

/-! ### The parts of a header -/

namespace HeaderParts

/-- The texts that write a header: its type with white space behind it, if it has one, its name, and
its parameters in parentheses, the last of which ends the text. -/
inductive Writes : HeaderParts → Text → Prop
  | untyped {name gap inner : Text} (hname : name.IsWord)
      (hgap : ∀ c ∈ gap, Text.isWhite c = true) (hinner : '\n' ∉ inner) :
      Writes ⟨none, name, inner⟩ (name ++ (gap ++ '(' :: (inner ++ [')'])))
  | typed {ty space name gap inner : Text} (hty : ty.IsWord) (hne : space ≠ [])
      (hspace : ∀ c ∈ space, Text.isWhite c = true) (hname : name.IsWord)
      (hgap : ∀ c ∈ gap, Text.isWhite c = true) (hinner : '\n' ∉ inner) :
      Writes ⟨some ty, name, inner⟩ (ty ++ (space ++ (name ++ (gap ++ '(' :: (inner ++ [')'])))))

variable {t inner : Text} {parts other : HeaderParts}

lemma untilClose?_eq_some_iff :
    untilClose? t = some inner ↔ '\n' ∉ inner ∧ t = inner ++ [')'] := by
  constructor
  · intro h
    unfold untilClose? at h
    split at h
    · rename_i hlast
      split_ifs at h with hline
      obtain rfl := Option.some.inj h
      exact ⟨by simpa using hline, (List.dropLast_append_getLast? _ hlast).symm⟩
    · simp at h
  · rintro ⟨hline, rfl⟩
    rw [untilClose?, List.getLast?_concat, List.dropLast_concat]
    exact if_neg (by simpa using hline)

lemma parameters?_eq_some_iff : parameters? t = some inner ↔ '\n' ∉ inner ∧
    ∃ gap : Text, (∀ c ∈ gap, Text.isWhite c = true) ∧ t = gap ++ '(' :: (inner ++ [')']) := by
  constructor
  · intro h
    obtain ⟨gap, hgap, ht⟩ := Text.exists_trimStart t
    unfold parameters? at h
    split at h
    · rename_i rest hstart
      obtain ⟨hline, rfl⟩ := untilClose?_eq_some_iff.mp h
      exact ⟨hline, gap, hgap, hstart ▸ ht⟩
    · simp at h
  · rintro ⟨hline, gap, hgap, rfl⟩
    have hopen : ∀ c ∈ ('(' :: (inner ++ [')'])).head?, Text.isWhite c = false := by
      intro c hc
      obtain rfl := Option.some.inj hc
      decide
    rw [parameters?, Text.trimStart_white_append hgap hopen]
    exact untilClose?_eq_some_iff.mpr ⟨hline, rfl⟩

lemma parameters?_word_append {space word : Text} (hspace : ∀ c ∈ space, Text.isWhite c = true)
    (hword : word.IsWord) (rest : Text) : parameters? (space ++ (word ++ rest)) = none := by
  rw [parameters?, Text.trimStart_white_append hspace (hword.isWhite_head? rest)]
  obtain ⟨c, word, rfl⟩ := List.exists_cons_of_ne_nil hword.1
  split
  · rename_i heq
    obtain ⟨rfl, -⟩ := List.cons.inj heq
    exact absurd (hword.2 _ List.mem_cons_self) (by decide)
  · rfl

lemma writes_of_ofText? (h : ofText? t = some parts) : parts.Writes t := by
  unfold ofText? at h
  split at h
  · simp at h
  · rename_i first rest hfirst hspan
    obtain rfl := Text.eq_append_of_spanWord hspan
    have hword := (isWord_of_spanWord hspan hfirst).1
    split at h
    · rename_i inner hinner
      obtain ⟨hline, gap, hgap, rfl⟩ := parameters?_eq_some_iff.mp hinner
      obtain rfl := Option.some.inj h
      exact .untyped hword hgap hline
    · split_ifs at h with hwhite
      split at h
      · simp at h
      · rename_i second after hsecond hspan'
        obtain ⟨inner, hinner, rfl⟩ := Option.map_eq_some_iff.mp h
        obtain ⟨hline, gap, hgap, rfl⟩ := parameters?_eq_some_iff.mp hinner
        obtain ⟨space, hspace, hrest⟩ := Text.exists_trimStart rest
        have hword' := (isWord_of_spanWord hspan' hsecond).1
        rw [Text.eq_append_of_spanWord hspan'] at hrest
        have hne : space ≠ [] := by
          -- the character after the first word would be of the second
          rintro rfl
          obtain ⟨c, hc, hwhite⟩ := (Option.any_eq_true _ _).mp hwhite
          rw [hrest, List.nil_append] at hc
          exact Bool.noConfusion (hwhite.symm.trans (hword'.isWhite_head? _ c hc))
        rw [hrest]
        exact .typed hword hne hspace hword' hgap hline

lemma Writes.ofText?_eq (h : parts.Writes t) : ofText? t = some parts := by
  have hopen {gap : Text} (hgap : ∀ c ∈ gap, Text.isWhite c = true) (inner : Text) :
      ∀ c ∈ (gap ++ '(' :: (inner ++ [')'])).head?, Text.isWordChar c = false :=
    Text.isWordChar_head?_white_append hgap fun c hc => Option.some.inj hc ▸ by decide
  cases h with
  | @untyped name gap inner hname hgap hinner =>
    have hparameters := parameters?_eq_some_iff.mpr ⟨hinner, gap, hgap, rfl⟩
    have hspan := Text.spanWord_append hname.2 (hopen hgap inner)
    obtain ⟨c, name, rfl⟩ := List.exists_cons_of_ne_nil hname.1
    rw [ofText?, hspan]
    simp only [hparameters]
  | @typed ty space name gap inner hty hne hspace hname hgap hinner =>
    have hparameters := parameters?_eq_some_iff.mpr ⟨hinner, gap, hgap, rfl⟩
    have hnone := parameters?_word_append hspace hname (gap ++ '(' :: (inner ++ [')']))
    have hstart := Text.trimStart_white_append hspace
      (hname.isWhite_head? (gap ++ '(' :: (inner ++ [')'])))
    have hspan' := Text.spanWord_append hname.2 (hopen hgap inner)
    obtain ⟨d, space, rfl⟩ := List.exists_cons_of_ne_nil hne
    have hd : Text.isWhite d = true := hspace d List.mem_cons_self
    have hsign : ∀ c ∈ (d :: space ++ (name ++ (gap ++ '(' :: (inner ++ [')'])))).head?,
        Text.isWordChar c = false :=
      fun c hc => Option.some.inj hc ▸ Text.isWordChar_eq_false_of_isWhite hd
    have hspan := Text.spanWord_append hty.2 hsign
    obtain ⟨b, ty, rfl⟩ := List.exists_cons_of_ne_nil hty.1
    obtain ⟨c, name, rfl⟩ := List.exists_cons_of_ne_nil hname.1
    rw [ofText?, hspan]
    simp only [hnone, hstart, hspan', hparameters, Option.map_some]
    exact if_pos hd

lemma ofText?_eq_some_iff : ofText? t = some parts ↔ parts.Writes t :=
  ⟨writes_of_ofText?, Writes.ofText?_eq⟩

lemma Writes.lineFeed_notMem (h : parts.Writes t) : '\n' ∉ parts.parameters := by
  cases h with
  | untyped _ _ hinner => exact hinner
  | typed _ _ _ _ _ hinner => exact hinner

lemma Writes.unique (h : parts.Writes t) (hother : other.Writes t) : parts = other :=
  Option.some.inj (h.ofText?_eq.symm.trans hother.ofText?_eq)

end HeaderParts

open Statement

/-! ### Parameters -/

namespace Parameter

/-- What a piece between commas is read as: two words are a type and a name, and any other piece is
kept as it is, trimmed. -/
inductive Reads (piece : Text) : Parameter → Prop
  | typed {ty name : Text} (h : piece.IsPair ty name) : Reads piece (.typed (typeName ty) name)
  | raw (h : ∀ ty name, ¬piece.IsPair ty name) : Reads piece (.raw (Text.trim piece))

/-- What the text between the parentheses is read as: nothing if it is blank, and otherwise what
its pieces are read as, once it is trimmed and cut at every comma. -/
inductive ListReads (t : Text) : List Parameter → Prop
  | blank (h : Text.isBlank t = true) : ListReads t []
  | pieces {pieces : List Text} {parameters : List Parameter} (h : Text.isBlank t = false)
      (hcut : (Text.trim t).IsCutAt ',' pieces) (hread : List.Forall₂ Reads pieces parameters) :
      ListReads t parameters

variable {t : Text} {parameter : Parameter} {parameters : List Parameter}

lemma reads_iff : Reads t parameter ↔ ofText t = parameter := by
  constructor
  · intro h
    cases h with
    | typed h => rw [ofText, Text.isPair_iff.mp h]
    | raw h =>
      unfold ofText
      split
      · rename_i ty name hwords
        exact absurd (Text.isPair_iff.mpr hwords) (h ty name)
      · rfl
  · rintro rfl
    by_cases hpair : ∃ ty name, Text.words t = [ty, name]
    · obtain ⟨ty, name, hwords⟩ := hpair
      rw [ofText, hwords]
      exact .typed (Text.isPair_iff.mpr hwords)
    · rcases ofText_eq_or t with ⟨ty, name, hwords, -⟩ | hraw
      · exact absurd ⟨ty, name, hwords⟩ hpair
      · rw [hraw]
        exact .raw fun ty name h => hpair ⟨ty, name, Text.isPair_iff.mp h⟩

lemma forall₂_reads_iff {pieces : List Text} :
    List.Forall₂ Reads pieces parameters ↔ pieces.map ofText = parameters := by
  have hreads : Reads = fun piece parameter => ofText piece = parameter :=
    funext₂ fun _ _ => propext reads_iff
  rw [← List.forall₂_eq_eq_eq, List.forall₂_map_left_iff, hreads]

lemma listReads_iff : ListReads t parameters ↔ listOfText t = parameters := by
  unfold listOfText
  constructor
  · intro h
    cases h with
    | blank h => exact if_pos h
    | pieces h hcut hread =>
      rw [if_neg (Bool.eq_false_iff.mp h), Text.isCutAt_iff.mp hcut]
      exact forall₂_reads_iff.mp hread
  · rintro rfl
    split_ifs with h
    · exact .blank h
    · exact .pieces (Bool.eq_false_iff.mpr h) (Text.isCutAt_iff.mpr rfl) (forall₂_reads_iff.mpr rfl)

end Parameter

/-! ### Signatures -/

namespace Signature

/-- The signature of a header with the given parts in the class `owner`, whose name makes a
constructor of any header, with a type or without. -/
structure HasParts (owner : Text) (parts : HeaderParts) (s : Signature) : Prop where
  owner_eq : s.owner = owner
  name_eq : s.name = parts.name
  of_eq : parts.name = owner → s.kind = .constructor ∧ s.returnType = none
  of_ne : parts.name ≠ owner → s.kind = .method ∧ s.returnType =
    match parts.returnType with
    | some ty => some (typeName ty)
    | none => some "void".toList
  parameters : Parameter.ListReads parts.parameters s.parameters
  no_diagnostic : s.diagnostic = none

variable {owner header : Text} {parts : HeaderParts} {s : Signature}

lemma hasParts_iff (hparts : HeaderParts.ofText? (Text.trim header) = some parts) :
    HasParts owner parts s ↔ ofHeader? owner header = some s := by
  rw [ofHeader?, hparts, Option.map_some, Option.some_inj]
  constructor
  · rintro ⟨howner, hname, hconstructor, hmethod, hparameters, hdiagnostic⟩
    obtain ⟨owner', kind, name, returnType, parameters, diagnostic⟩ := s
    simp only at howner hname hconstructor hmethod hparameters hdiagnostic
    subst howner hname hdiagnostic
    rw [Parameter.listReads_iff.mp hparameters]
    split_ifs with h
    · obtain ⟨rfl, rfl⟩ := hconstructor h
      rfl
    · obtain ⟨rfl, rfl⟩ := hmethod h
      cases parts.returnType <;> rfl
  · rintro rfl
    have hparameters : Parameter.ListReads parts.parameters
        (Parameter.listOfText parts.parameters) := Parameter.listReads_iff.mpr rfl
    split_ifs with h
    · exact ⟨rfl, rfl, fun _ => ⟨rfl, rfl⟩, fun hne => absurd h hne, hparameters, rfl⟩
    · refine ⟨rfl, rfl, fun heq => absurd heq h, fun _ => ⟨rfl, ?_⟩, hparameters, rfl⟩
      cases parts.returnType <;> rfl

/-- A text is read as a header exactly if it is one by the grammar, trimmed. It is one in at most
one way, and what is read is the signature of the parts that the grammar gives. -/
theorem ofHeader?_grammar (owner header : Text) :
    ((∃ s, ofHeader? owner header = some s) ↔
        ∃ parts : HeaderParts, parts.Writes (Text.trim header)) ∧
      (∀ parts other : HeaderParts, parts.Writes (Text.trim header) →
        other.Writes (Text.trim header) → parts = other) ∧
      ∀ s, ofHeader? owner header = some s ↔
        ∃ parts : HeaderParts, parts.Writes (Text.trim header) ∧ HasParts owner parts s := by
  refine ⟨?_, fun parts other h hother => h.unique hother, fun s => ?_⟩
  · simp only [← HeaderParts.ofText?_eq_some_iff, ← Option.isSome_iff_exists]
    rw [ofHeader?, Option.isSome_map]
  · constructor
    · intro h
      obtain ⟨parts, hparts, -⟩ := Option.map_eq_some_iff.mp h
      exact ⟨parts, HeaderParts.writes_of_ofText? hparts, (hasParts_iff hparts).mpr h⟩
    · rintro ⟨parts, hparts, h⟩
      exact (hasParts_iff hparts.ofText?_eq).mp h

theorem ofHeader?_grammar_greet :
    let header := "\tSTRING\u3000 greet ((string who),, int\ta, string who) ".toList
    let parts : HeaderParts :=
      ⟨some "STRING".toList, "greet".toList, "(string who),, int\ta, string who".toList⟩
    let parameters : List Parameter := [.typed "(string".toList "who)".toList, .raw [],
      .typed "int".toList "a".toList, .typed "String".toList "who".toList]
    parts.Writes (Text.trim header) ∧
      (∀ other : HeaderParts, other.Writes (Text.trim header) → parts = other) ∧
      ofHeader? "Dog".toList header = some ⟨"Dog".toList, .method, "greet".toList,
        some "String".toList, parameters, none⟩ ∧
      ofHeader? "greet".toList header = some ⟨"greet".toList, .constructor, "greet".toList, none,
        parameters, none⟩ ∧
      ¬∃ parts : HeaderParts, parts.Writes (Text.trim "greet(who) now".toList) := by
  intro header parts parameters
  have hparts : parts.Writes (Text.trim header) :=
    HeaderParts.writes_of_ofText? (by decide +kernel)
  obtain ⟨-, hunique, hmethod⟩ := ofHeader?_grammar "Dog".toList header
  obtain ⟨-, -, hconstructor⟩ := ofHeader?_grammar "greet".toList header
  have hparameters : Parameter.ListReads parts.parameters parameters :=
    Parameter.listReads_iff.mpr (by decide +kernel)
  refine ⟨hparts, fun other => hunique parts other hparts,
    (hmethod _).mpr ⟨parts, hparts, rfl, rfl, ?_, fun _ => ⟨rfl, rfl⟩, hparameters, rfl⟩,
    (hconstructor _).mpr ⟨parts, hparts, rfl, rfl, fun _ => ⟨rfl, rfl⟩, ?_, hparameters, rfl⟩, ?_⟩
  · exact fun h => absurd h (by decide)
  · exact fun h => absurd rfl h
  · have hnone : ofHeader? "Dog".toList "greet(who) now".toList = none := by decide +kernel
    rw [← (ofHeader?_grammar "Dog".toList "greet(who) now".toList).1, hnone]
    simp

end Signature
end Pseudocode
