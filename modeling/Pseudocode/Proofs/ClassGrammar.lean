import Pseudocode.Proofs.HeaderGrammar

/-!
# The grammar of class headers

A class header is its keyword, white space and a name, and perhaps a comma and another name, with
white space around the comma. It takes up its line. Since names hold neither white space nor commas,
no line is a class header in two ways, whatever letters of other scripts stand in it: neither name
takes anything of the other, and no white space is shared out differently.
-/

namespace Pseudocode

namespace Text

variable {s t s' t' : Text}

lemma white_append_inj (hs : ∀ c ∈ s, isWhite c = true) (hs' : ∀ c ∈ s', isWhite c = true)
    (ht : ∀ c ∈ t.head?, isWhite c = false) (ht' : ∀ c ∈ t'.head?, isWhite c = false)
    (h : s ++ t = s' ++ t') : s = s' ∧ t = t' := by
  have htail : t = t' := by
    rw [← trimStart_white_append hs ht, h, trimStart_white_append hs' ht']
  exact ⟨List.append_cancel_right (htail ▸ h), htail⟩

lemma word_append_inj (hs : ∀ c ∈ s, isWordChar c = true) (hs' : ∀ c ∈ s', isWordChar c = true)
    (ht : ∀ c ∈ t.head?, isWordChar c = false) (ht' : ∀ c ∈ t'.head?, isWordChar c = false)
    (h : s ++ t = s' ++ t') : s = s' ∧ t = t' := by
  have hspan := spanWord_append hs ht
  rw [h, spanWord_append hs' ht', Prod.mk.injEq] at hspan
  exact ⟨hspan.1.symm, hspan.2.symm⟩

end Text

namespace ClassHeader

/-- A comma with the white space around it, and the name of a parent. -/
structure Clause where
  before : Text
  after : Text
  parent : Text

/-- The name of a class and what follows it. -/
structure Names where
  name : Text
  clause : Option Clause

/-- The pieces of a line that is a class header. -/
structure Pieces where
  keyword : Text
  gap : Text
  names : Names

lemma isWhite_head?_comma (t : Text) : ∀ c ∈ (',' :: t).head?, Text.isWhite c = false := by
  intro c hc
  obtain rfl := Option.some.inj hc
  decide

lemma isWordChar_head?_comma (t : Text) : ∀ c ∈ (',' :: t).head?, Text.isWordChar c = false := by
  intro c hc
  obtain rfl := Option.some.inj hc
  decide

/-! ### The clause of a parent -/

namespace Clause

def text (clause : Clause) : Text := clause.before ++ ',' :: (clause.after ++ clause.parent)

structure IsProper (clause : Clause) : Prop where
  isWhite_before : ∀ c ∈ clause.before, Text.isWhite c = true
  isWhite_after : ∀ c ∈ clause.after, Text.isWhite c = true
  isWord_parent : clause.parent.IsWord

variable {clause other : Clause}

lemma text_ne_nil (clause : Clause) : clause.text ≠ [] :=
  List.append_ne_nil_of_right_ne_nil _ (List.cons_ne_nil _ _)

lemma IsProper.isWordChar_head? (h : clause.IsProper) :
    ∀ c ∈ clause.text.head?, Text.isWordChar c = false :=
  Text.isWordChar_head?_white_append h.isWhite_before (isWordChar_head?_comma _)

lemma IsProper.isWhite_head?_parent (h : clause.IsProper) :
    ∀ c ∈ clause.parent.head?, Text.isWhite c = false :=
  List.append_nil clause.parent ▸ h.isWord_parent.isWhite_head? []

lemma IsProper.unique (h : clause.IsProper) (hother : other.IsProper)
    (htext : clause.text = other.text) : clause = other := by
  have hparent := h.isWhite_head?_parent
  have hparent' := hother.isWhite_head?_parent
  obtain ⟨before, after, parent⟩ := clause
  obtain ⟨before', after', parent'⟩ := other
  obtain ⟨rfl, hcomma⟩ := Text.white_append_inj h.isWhite_before hother.isWhite_before
    (isWhite_head?_comma _) (isWhite_head?_comma _) htext
  obtain ⟨rfl, rfl⟩ := Text.white_append_inj h.isWhite_after hother.isWhite_after hparent hparent'
    (List.cons.inj hcomma).2
  rfl

end Clause

/-! ### The names -/

namespace Names

def tail (names : Names) : Text :=
  match names.clause with
  | some clause => clause.text
  | none => []

def text (names : Names) : Text := names.name ++ names.tail

def header (names : Names) : ClassHeader := ⟨names.name, names.clause.map (·.parent)⟩

structure IsProper (names : Names) : Prop where
  isWord_name : names.name.IsWord
  proper_clause : ∀ clause ∈ names.clause, clause.IsProper

variable {names other : Names}

lemma IsProper.isWordChar_head?_tail (h : names.IsProper) :
    ∀ c ∈ names.tail.head?, Text.isWordChar c = false := by
  obtain ⟨name, clause⟩ := names
  cases clause with
  | none => exact fun c hc => nomatch hc
  | some clause => exact (h.proper_clause clause rfl).isWordChar_head?

lemma IsProper.unique (h : names.IsProper) (hother : other.IsProper)
    (htext : names.text = other.text) : names = other := by
  have htail := h.isWordChar_head?_tail
  have htail' := hother.isWordChar_head?_tail
  obtain ⟨name, clause⟩ := names
  obtain ⟨name', clause'⟩ := other
  obtain ⟨rfl, hends⟩ :=
    Text.word_append_inj h.isWord_name.2 hother.isWord_name.2 htail htail' htext
  cases clause with
  | none =>
    cases clause' with
    | none => rfl
    | some clause' => exact absurd hends.symm clause'.text_ne_nil
  | some clause =>
    cases clause' with
    | none => exact absurd hends clause.text_ne_nil
    | some clause' =>
      rw [(h.proper_clause clause rfl).unique (hother.proper_clause clause' rfl) hends]

lemma exists_of_ofNames? {t : Text} {header : ClassHeader} (h : ofNames? t = some header) :
    ∃ names : Names, names.IsProper ∧ names.text = t ∧ names.header = header := by
  unfold ofNames? at h
  split at h
  · simp at h
  · rename_i name hne hspan
    have hword := (HeaderParts.isWord_of_spanWord hspan hne).1
    exact ⟨⟨name, none⟩, ⟨hword, fun _ hclause => nomatch hclause⟩,
      (Text.eq_append_of_spanWord hspan).symm, Option.some.inj h⟩
  · rename_i name rest hne _ hspan
    have hword := (HeaderParts.isWord_of_spanWord hspan hne).1
    obtain ⟨before, hbefore, hrest⟩ := Text.exists_trimStart rest
    split at h
    · rename_i afterComma hcomma
      obtain ⟨after, hafter, hparent⟩ := Text.exists_trimStart afterComma
      split at h
      · rename_i c parent hspan'
        have hend : Text.trimStart afterComma = c :: parent :=
          (Text.eq_append_of_spanWord hspan').trans (List.append_nil _)
        have hproper : Clause.IsProper ⟨before, after, c :: parent⟩ :=
          ⟨hbefore, hafter, (HeaderParts.isWord_of_spanWord hspan' (List.cons_ne_nil _ _)).1⟩
        refine ⟨⟨name, some ⟨before, after, c :: parent⟩⟩, ⟨hword, ?_⟩, ?_, Option.some.inj h⟩
        · rintro _ ⟨⟩
          exact hproper
        · rw [Text.eq_append_of_spanWord hspan, hrest, hcomma, hparent, hend]
          rfl
      · simp at h
    · simp at h

lemma IsProper.ofNames?_eq (h : names.IsProper) : ofNames? names.text = some names.header := by
  have hspan := Text.spanWord_append h.isWord_name.2 h.isWordChar_head?_tail
  obtain ⟨name, clause⟩ := names
  obtain ⟨c, name, rfl⟩ := List.exists_cons_of_ne_nil h.isWord_name.1
  rw [ofNames?, text, hspan]
  cases clause with
  | none => rfl
  | some clause =>
    have hclause := h.proper_clause clause rfl
    have hparent := hclause.isWhite_head?_parent
    obtain ⟨before, after, parent⟩ := clause
    obtain ⟨d, parent, rfl⟩ := List.exists_cons_of_ne_nil hclause.isWord_parent.1
    have hcomma := Text.trimStart_white_append hclause.isWhite_before
      (isWhite_head?_comma (after ++ d :: parent))
    have hstart := Text.trimStart_white_append hclause.isWhite_after hparent
    have hend : Text.spanWord ((d :: parent) ++ []) = (d :: parent, []) :=
      Text.spanWord_append hclause.isWord_parent.2 fun _ hc => nomatch hc
    rw [List.append_nil] at hend
    obtain ⟨x, rest, htail⟩ := List.exists_cons_of_ne_nil (Clause.text_ne_nil
      ⟨before, after, d :: parent⟩)
    simp only [tail, htail]
    rw [← htail, Clause.text, hcomma]
    simp only [hstart, hend]
    rfl

lemma ofNames?_eq_some_iff {t : Text} {header : ClassHeader} : ofNames? t = some header ↔
    ∃ names : Names, names.IsProper ∧ names.text = t ∧ names.header = header := by
  constructor
  · exact exists_of_ofNames?
  · rintro ⟨names, hproper, rfl, rfl⟩
    exact hproper.ofNames?_eq

end Names

/-! ### The line -/

namespace Pieces

def line (pieces : Pieces) : Text := pieces.keyword ++ (pieces.gap ++ pieces.names.text)

/-- The keyword is `class` under simple case folding, and white space follows it. -/
structure IsProper (pieces : Pieces) : Prop where
  fold_keyword : pieces.keyword.map Text.fold = "class".toList
  gap_ne_nil : pieces.gap ≠ []
  isWhite_gap : ∀ c ∈ pieces.gap, Text.isWhite c = true
  proper_names : pieces.names.IsProper

variable {pieces other : Pieces}

lemma IsProper.length_keyword (h : pieces.IsProper) : pieces.keyword.length = 5 := by
  rw [← List.length_map Text.fold, h.fold_keyword]
  rfl

lemma IsProper.unique (h : pieces.IsProper) (hother : other.IsProper)
    (hline : pieces.line = other.line) : pieces = other := by
  have hlength := h.length_keyword.trans hother.length_keyword.symm
  have hname := h.proper_names.isWord_name.isWhite_head? pieces.names.tail
  have hname' := hother.proper_names.isWord_name.isWhite_head? other.names.tail
  obtain ⟨keyword, gap, names⟩ := pieces
  obtain ⟨keyword', gap', names'⟩ := other
  obtain ⟨rfl, hrest⟩ := List.append_inj hline hlength
  obtain ⟨rfl, hnames⟩ := Text.white_append_inj h.isWhite_gap hother.isWhite_gap hname hname' hrest
  obtain rfl : names = names' := h.proper_names.unique hother.proper_names hnames
  rfl

lemma ofLine?_eq_some_iff {line : Text} {header : ClassHeader} : ofLine? line = some header ↔
    ∃ pieces : Pieces, pieces.IsProper ∧ pieces.line = line ∧ pieces.names.header = header := by
  rw [ClassHeader.ofLine?_eq_some_iff]
  constructor
  · rintro ⟨hkeyword, c, rest, hdrop, hc, hnames⟩
    obtain ⟨names, hproper, htext, hheader⟩ := Names.ofNames?_eq_some_iff.mp hnames
    obtain ⟨gap, hgap, hrest⟩ := Text.exists_trimStart rest
    refine ⟨⟨line.take 5, c :: gap, names⟩, ⟨hkeyword, List.cons_ne_nil c gap,
      List.forall_mem_cons.mpr ⟨hc, hgap⟩, hproper⟩, ?_, hheader⟩
    rw [Pieces.line, htext, List.cons_append, ← hrest, ← hdrop, List.take_append_drop]
  · rintro ⟨⟨keyword, gap, names⟩, hproper, rfl, hheader⟩
    have hlength := hproper.length_keyword
    obtain ⟨hkeyword, hne, hgap, hnames⟩ := hproper
    obtain ⟨c, gap, rfl⟩ := List.exists_cons_of_ne_nil hne
    obtain ⟨hc, hgap⟩ := List.forall_mem_cons.mp hgap
    have hstart := Text.trimStart_white_append hgap (hnames.isWord_name.isWhite_head? names.tail)
    refine ⟨?_, c, gap ++ names.text, ?_, hc, ?_⟩
    · rwa [Pieces.line, ← hlength, List.take_left]
    · rw [Pieces.line, ← hlength, List.drop_left, List.cons_append]
    · rw [Names.text, hstart, ← hheader]
      exact hnames.ofNames?_eq

end Pieces

/-- A line is read as a class header exactly if it is one by the grammar, and what is read are the
names in it. It is one in at most one way. -/
theorem ofLine?_grammar (line : Text) :
    (∀ header, ofLine? line = some header ↔ ∃ pieces : Pieces,
        pieces.IsProper ∧ pieces.line = line ∧ pieces.names.header = header) ∧
      ∀ pieces other : Pieces, pieces.IsProper → other.IsProper → pieces.line = line →
        other.line = line → pieces = other :=
  ⟨fun _ => Pieces.ofLine?_eq_some_iff, fun _ _ hproper hother hline hline' =>
    hproper.unique hother (hline.trans hline'.symm)⟩

theorem ofLine?_grammar_dog :
    let line := "Cla\u017fs\u3000\tH\u00fcnd_\u0967\u2003,\u00a0\u017fier".toList
    let pieces : Pieces := ⟨"Cla\u017fs".toList, "\u3000\t".toList,
      "H\u00fcnd_\u0967".toList, some ⟨"\u2003".toList, "\u00a0".toList, "\u017fier".toList⟩⟩
    pieces.IsProper ∧ pieces.line = line ∧
      ofLine? line = some ⟨"H\u00fcnd_\u0967".toList, some "\u017fier".toList⟩ ∧
      (∀ other : Pieces, other.IsProper → other.line = line → pieces = other) ∧
      (¬∃ other : Pieces, other.IsProper ∧ other.line = "class Dog extends Animal".toList) ∧
      ¬∃ other : Pieces, other.IsProper ∧ other.line = "class Dog ,".toList := by
  intro line pieces
  have hclause : Clause.IsProper ⟨"\u2003".toList, "\u00a0".toList, "\u017fier".toList⟩ :=
    ⟨by decide, by decide, by decide, by decide +kernel⟩
  have hproper : pieces.IsProper :=
    ⟨by decide, by decide, by decide, ⟨⟨by decide, by decide +kernel⟩,
      fun _ hmem => Option.some.inj hmem ▸ hclause⟩⟩
  have hline : pieces.line = line := by decide +kernel
  have hread := ((ofLine?_grammar line).1 _).mpr ⟨pieces, hproper, hline, rfl⟩
  have hunread {t : Text} (h : ofLine? t = none) :
      ¬∃ other : Pieces, other.IsProper ∧ other.line = t := by
    rintro ⟨other, hother, hline⟩
    rw [((ofLine?_grammar t).1 _).mpr ⟨other, hother, hline, rfl⟩] at h
    exact Option.some_ne_none _ h
  exact ⟨hproper, hline, hread, fun other hother hother' =>
    (ofLine?_grammar line).2 pieces other hproper hother hline hother', hunread (by decide +kernel),
    hunread (by decide +kernel)⟩

end ClassHeader
end Pseudocode
