import Pseudocode.Proofs.Provenance

/-!
# Declarations

A field and a header of a method are read from the words of a line and written with single spaces
and commas between them. What was read can be told from what is written: no two fields have one
line of source, and no two headers of a class one declaration.
-/

namespace Pseudocode

lemma Text.mem_of_mem_joinWith {separator : Text} {parts : List Text} {c : Char}
    (h : c ∈ joinWith separator parts) : c ∈ separator ∨ ∃ part ∈ parts, c ∈ part := by
  fun_induction joinWith separator parts with
  | case1 => exact absurd h List.not_mem_nil
  | case2 part => exact .inr ⟨part, List.mem_singleton_self part, h⟩
  | case3 part rest _ ih =>
    rcases List.mem_append.mp h with h | h
    · rcases List.mem_append.mp h with h | h
      · exact .inr ⟨part, List.mem_cons_self, h⟩
      · exact .inl h
    · exact (ih h).imp_right fun ⟨other, hother, hc⟩ =>
        ⟨other, List.mem_cons_of_mem part hother, hc⟩

namespace Statement

lemma mem_of_mem_typeName {ty : Text} {c : Char} (h : c ∈ typeName ty) :
    c ∈ "String".toList ∨ c ∈ ty := by
  unfold typeName at h
  split_ifs at h
  · exact .inl h
  · exact .inr h

lemma typeName_typeName (ty : Text) : typeName (typeName ty) = typeName ty := by
  by_cases h : Text.sameWord ty "string".toList = true
  · rw [typeName.eq_def ty, if_pos h]
    rfl
  · rw [typeName.eq_def ty, if_neg h, typeName, if_neg h]

lemma isWord_typeName {ty : Text} (h : ty.IsWord) : (typeName ty).IsWord := by
  have hstring : ∀ c ∈ "String".toList, Text.isWordChar c = true := by decide
  refine ⟨?_, fun c hc => (mem_of_mem_typeName hc).elim (hstring c) (h.2 c)⟩
  unfold typeName
  split_ifs
  · exact List.cons_ne_nil _ _
  · exact h.1

end Statement

open Statement

/-! ### Fields -/

namespace FieldEntry

/-- The entry that the words after a visibility declare. -/
def ofNames (line : Text) (v : Visibility) : List Text → FieldEntry
  | ty :: name :: _ => .declared ⟨v, typeName ty, Text.dropEndWhile (· == ';') name⟩
  | _ => .unreadable line

lemma exists_ofLine_eq (line : Text) :
    ∃ v rest, rest ⊆ Text.words line ∧ ofLine line = ofNames line v rest := by
  unfold ofLine
  generalize Text.words line = words
  cases words with
  | nil => exact ⟨.owner, [], List.Subset.refl _, rfl⟩
  | cons first rest =>
    cases hv : Visibility.ofWord? first with
    | some v => exact ⟨v, rest, List.subset_cons_self first rest, by simp only [hv]; rfl⟩
    | none => exact ⟨.owner, first :: rest, List.Subset.refl _, by simp only [hv]; rfl⟩

lemma ofLine_eq_or (line : Text) : ofLine line = .unreadable line ∨
    ∃ v, ∃ ty ∈ Text.words line, ∃ name ∈ Text.words line,
      ofLine line = .declared ⟨v, typeName ty, Text.dropEndWhile (· == ';') name⟩ := by
  obtain ⟨v, rest, hsub, h⟩ := exists_ofLine_eq line
  match rest, hsub, h with
  | [], _, h => exact .inl h
  | [_], _, h => exact .inl h
  | ty :: name :: _, hsub, h => exact .inr ⟨v, ty, hsub (by simp), name, hsub (by simp), h⟩

lemma isWhite_word (v : Visibility) : ∀ c ∈ v.word, (!Text.isWhite c) = true := by
  cases v <;> decide

lemma isWhite_typeName {ty line : Text} (h : ty ∈ Text.words line) :
    ∀ c ∈ typeName ty, (!Text.isWhite c) = true := by
  intro c hc
  have hstring : ∀ c ∈ "String".toList, (!Text.isWhite c) = true := by decide
  rcases mem_of_mem_typeName hc with hc | hc
  · exact hstring c hc
  · rw [(Text.of_mem_words h hc).1]
    rfl

lemma word_injective {v w : Visibility} (h : v.word = w.word) : v = w := by
  cases v <;> cases w <;> first | rfl | exact absurd h (by decide)

lemma render_declared (v : Visibility) (ty name : Text) : render (.declared ⟨v, ty, name⟩) =
    v.word ++ ' ' :: (ty ++ ' ' :: (name ++ [';'])) := by
  have h : render (.declared ⟨v, ty, name⟩) = v.word ++ ' ' :: ty ++ ' ' :: name ++ [';'] := rfl
  rw [h, List.append_assoc, List.append_assoc, List.cons_append, List.cons_append]

lemma head?_render_declared (field : Field) : (render (.declared field)).head? = some 'p' := by
  obtain ⟨v, ty, name⟩ := field
  cases v <;> rfl

lemma render_declared_ne_unreadable (field : Field) (line : Text) :
    render (.declared field) ≠ render (.unreadable line) := by
  intro h
  have hslash : (render (.unreadable line)).head? = some '/' := rfl
  rw [← h, head?_render_declared] at hslash
  exact absurd hslash (by decide)

lemma ofLine_eq_of_render_eq {line other : Text}
    (h : (ofLine line).render = (ofLine other).render) : ofLine line = ofLine other := by
  rcases ofLine_eq_or line with hl | ⟨v, ty, hty, name, -, hl⟩
  · rcases ofLine_eq_or other with ho | ⟨w, ty', hty', name', -, ho⟩
    · rw [hl, ho] at h ⊢
      exact congrArg unreadable (List.append_cancel_left h)
    · rw [hl, ho] at h
      exact absurd h.symm (render_declared_ne_unreadable _ _)
  · rcases ofLine_eq_or other with ho | ⟨w, ty', hty', name', -, ho⟩
    · rw [hl, ho] at h
      exact absurd h (render_declared_ne_unreadable _ _)
    · rw [hl, ho, render_declared, render_declared] at h
      -- each of the first two words ends at the first white space
      have hspace : (!Text.isWhite ' ') = false := by decide
      obtain ⟨hword, -, h⟩ :=
        Text.append_cons_inj (isWhite_word v) (isWhite_word w) hspace hspace h
      obtain ⟨htype, -, h⟩ :=
        Text.append_cons_inj (isWhite_typeName hty) (isWhite_typeName hty') hspace hspace h
      rw [hl, ho, word_injective hword, htype, List.append_cancel_right h]

end FieldEntry

/-! ### Parameters -/

namespace Parameter

lemma ofText_congr {s t : Text} (hwords : Text.words s = Text.words t)
    (htrim : Text.trim s = Text.trim t) : ofText s = ofText t := by
  rw [ofText, ofText, hwords, htrim]

lemma ofText_white_append {s : Text} (h : ∀ c ∈ s, Text.isWhite c = true) (t : Text) :
    ofText (s ++ t) = ofText t :=
  ofText_congr (Text.words_white_append h t) (Text.trim_white_append h t)

lemma ofText_append_white {s : Text} (h : ∀ c ∈ s, Text.isWhite c = true) (t : Text) :
    ofText (t ++ s) = ofText t :=
  ofText_congr (Text.words_append_white h t) (Text.trim_append_whites h t)

lemma ofText_eq_or (t : Text) : (∃ ty name, Text.words t = [ty, name] ∧
    ofText t = .typed (typeName ty) name) ∨ ofText t = .raw (Text.trim t) := by
  unfold ofText
  split
  · rename_i ty name h
    exact .inl ⟨ty, name, h, rfl⟩
  · exact .inr rfl

lemma words_typed {t ty name : Text} (h : Text.words t = [ty, name]) :
    Text.words (render (.typed (typeName ty) name)) = [typeName ty, name] := by
  have hty : ty ∈ Text.words t := by simp [h]
  have hname : name ∈ Text.words t := by simp [h]
  have hwhite := FieldEntry.isWhite_typeName hty
  have hne : typeName ty ≠ [] := by
    unfold typeName
    split_ifs
    · exact List.cons_ne_nil _ _
    · exact Text.ne_nil_of_mem_words hty
  rw [render, Text.words_append_cons rfl,
    Text.words_of_forall hne fun c hc => by simpa using hwhite c hc,
    Text.words_of_forall (Text.ne_nil_of_mem_words hname) fun c hc =>
      (Text.of_mem_words hname hc).1]
  rfl

lemma ofText_render (t : Text) : ofText (ofText t).render = ofText t := by
  rcases ofText_eq_or t with ⟨ty, name, hwords, h⟩ | h
  · have hread : ofText (render (.typed (typeName ty) name)) =
        .typed (typeName (typeName ty)) name := by
      rw [ofText, words_typed hwords]
    rw [h, hread, typeName_typeName]
  · rw [h]
    exact (ofText_congr (Text.words_trim t) (Text.trim_trim t)).trans h

lemma mem_of_mem_render {t : Text} {c : Char} (h : c ∈ (ofText t).render) :
    c ∈ "String ".toList ∨ c ∈ t := by
  rcases ofText_eq_or t with ⟨ty, name, hwords, ht⟩ | ht
  · have hword {word : Text} (hword : word ∈ Text.words t) (hc : c ∈ word) : c ∈ t :=
      (Text.of_mem_words hword hc).2
    rw [ht, render] at h
    rcases List.mem_append.mp h with h | h
    · rcases mem_of_mem_typeName h with h | h
      · exact .inl (List.mem_append_left [' '] h)
      · exact .inr (hword (by simp [hwords]) h)
    · rcases List.mem_cons.mp h with rfl | h
      · exact .inl (by decide)
      · exact .inr (hword (by simp [hwords]) h)
  · rw [ht] at h
    exact .inr (Text.mem_of_mem_trim h)

lemma isBlank_of_isBlank_render {t : Text} (h : Text.isBlank (ofText t).render = true) :
    Text.isBlank t = true := by
  have htrim := (Text.trim_eq_nil_iff _).mpr h
  rcases ofText_eq_or t with ⟨ty, name, hwords, ht⟩ | ht
  · have hnone : Text.words (ofText t).render = [] := by
      rw [← Text.words_trim, htrim]
      rfl
    rw [ht, words_typed hwords] at hnone
    exact absurd hnone (List.cons_ne_nil _ _)
  · rw [ht, render, Text.trim_trim] at htrim
    exact (Text.trim_eq_nil_iff t).mp htrim

lemma splitAt_joinWith {first : Text} {rest : List Text} (hfirst : ',' ∉ first)
    (hrest : ∀ piece ∈ rest, ',' ∉ piece) :
    Text.splitAt (· == ',') (Text.joinWith ", ".toList (first :: rest)) =
      first :: rest.map (' ' :: ·) := by
  have hcut {piece : Text} (h : ',' ∉ piece) : ∀ c ∈ piece, (c == ',') = false :=
    fun c hc => beq_eq_false_iff_ne.mpr fun heq => h (heq ▸ hc)
  induction rest generalizing first with
  | nil => exact Text.splitAt_of_forall (hcut hfirst)
  | cons second rest ih =>
    obtain ⟨hsecond, hrest⟩ := List.forall_mem_cons.mp hrest
    have hspace : Text.joinWith ", ".toList (first :: second :: rest) =
        first ++ ',' :: ([] ++ ' ' :: Text.joinWith ", ".toList (second :: rest)) := by
      rw [Text.joinWith, List.append_assoc]
      · rfl
      · exact List.cons_ne_nil _ _
    rw [hspace, Text.splitAt_append_cons rfl, Text.splitAt_of_forall (hcut hfirst),
      List.nil_append, Text.splitAt_cons_of_neg _ rfl, ih hsecond hrest]
    rfl

lemma map_ofText_splitAt_white_append {s : Text} (h : ∀ c ∈ s, Text.isWhite c = true) (t : Text) :
    (Text.splitAt (· == ',') (s ++ t)).map ofText = (Text.splitAt (· == ',') t).map ofText := by
  induction s with
  | nil => rfl
  | cons c s ih =>
    obtain ⟨hc, hs⟩ := List.forall_mem_cons.mp h
    obtain ⟨piece, pieces, hpieces⟩ :=
      List.exists_cons_of_ne_nil (Text.splitAt_ne_nil (· == ',') (s ++ t))
    have hcut : (c == ',') = false := by
      refine beq_eq_false_iff_ne.mpr ?_
      rintro rfl
      exact absurd hc (by decide)
    have hfirst : ofText (c :: piece) = ofText piece :=
      ofText_white_append (s := [c]) (by simpa using hc) piece
    rw [List.cons_append, Text.splitAt_cons_of_neg (· == ',') hcut, ← ih hs, hpieces, List.map_cons,
      List.map_cons]
    exact congrArg (· :: pieces.map ofText) hfirst

lemma map_ofText_splitAt_append_white {s : Text} (h : ∀ c ∈ s, Text.isWhite c = true) (t : Text) :
    (Text.splitAt (· == ',') (t ++ s)).map ofText = (Text.splitAt (· == ',') t).map ofText := by
  have hcut : ∀ c ∈ s, (c == ',') = false := by
    refine fun c hc => beq_eq_false_iff_ne.mpr ?_
    rintro rfl
    exact absurd (h ',' hc) (by decide)
  obtain ⟨pieces, last, ht, hts⟩ := Text.exists_splitAt_append hcut t
  rw [ht, hts, List.map_append, List.map_append, List.map_singleton, List.map_singleton,
    ofText_append_white h]

lemma map_ofText_splitAt_trim (t : Text) : (Text.splitAt (· == ',') (Text.trim t)).map ofText =
    (Text.splitAt (· == ',') t).map ofText := by
  obtain ⟨before, after, ht, hbefore, hafter⟩ := Text.exists_eq_append_trim t
  conv_rhs => rw [ht, map_ofText_splitAt_append_white hafter,
    map_ofText_splitAt_white_append hbefore]

lemma listOfText_of_not_isBlank {t : Text} (h : Text.isBlank t = false) :
    listOfText t = (Text.splitAt (· == ',') t).map ofText := by
  rw [listOfText, h, if_neg Bool.false_ne_true, map_ofText_splitAt_trim]

/-- The text between the parentheses of a declaration. -/
def written (parameters : List Parameter) : Text :=
  Text.joinWith ", ".toList (parameters.map render)

lemma splitAt_written {first : Text} {rest : List Text} (h : ∀ piece ∈ first :: rest, ',' ∉ piece) :
    Text.splitAt (· == ',') (written ((first :: rest).map ofText)) =
      (ofText first).render :: rest.map fun piece => ' ' :: (ofText piece).render := by
  have hcomma : ∀ piece ∈ first :: rest, ',' ∉ (ofText piece).render := by
    intro piece hpiece hmem
    rcases mem_of_mem_render hmem with hmem | hmem
    · exact absurd hmem (by decide)
    · exact h piece hpiece hmem
  obtain ⟨hfirst, hrest⟩ := List.forall_mem_cons.mp hcomma
  have hpieces : ∀ piece ∈ rest.map (render ∘ ofText), ',' ∉ piece := by
    simpa using hrest
  have hsplit := splitAt_joinWith hfirst hpieces
  rw [List.map_map] at hsplit
  rw [written, List.map_map]
  exact hsplit

lemma isBlank_written {t : Text} (h : Text.isBlank t = false) :
    Text.isBlank (written ((Text.splitAt (· == ',') t).map ofText)) = false := by
  refine Bool.eq_false_iff.mpr fun hblank => ?_
  obtain ⟨first, rest, hpieces⟩ := List.exists_cons_of_ne_nil (Text.splitAt_ne_nil (· == ',') t)
  rw [hpieces] at hblank
  cases rest with
  | nil =>
    rw [Text.eq_of_splitAt_eq_singleton hpieces, isBlank_of_isBlank_render hblank] at h
    exact Bool.noConfusion h
  | cons second rest =>
    have hmem : ',' ∈ written ((first :: second :: rest).map ofText) := by
      simp [written, Text.joinWith]
    exact absurd (List.all_eq_true.mp hblank ',' hmem) (by decide)

lemma listOfText_written (t : Text) : listOfText (written (listOfText t)) = listOfText t := by
  cases hblank : Text.isBlank t with
  | true =>
    have hnone : listOfText t = [] := by rw [listOfText, hblank, if_pos rfl]
    rw [hnone]
    rfl
  | false =>
    have hspace (piece : Text) : ofText (' ' :: (ofText piece).render) = ofText piece :=
      (ofText_white_append (s := [' ']) (by decide) _).trans (ofText_render piece)
    obtain ⟨first, rest, hpieces⟩ := List.exists_cons_of_ne_nil (Text.splitAt_ne_nil (· == ',') t)
    have hcomma : ∀ piece ∈ first :: rest, ',' ∉ piece := by
      intro piece hpiece hmem
      exact absurd (Text.of_mem_splitAt (hpieces ▸ hpiece) hmem).1 (by decide)
    rw [listOfText_of_not_isBlank hblank, listOfText_of_not_isBlank (isBlank_written hblank),
      hpieces, splitAt_written hcomma, List.map_cons, List.map_cons, ofText_render, List.map_map]
    exact congrArg _ (List.map_congr_left fun piece _ => hspace piece)

lemma mem_of_mem_written {t : Text} {c : Char} (h : c ∈ written (listOfText t)) :
    c ∈ ", ".toList ∨ c ∈ "String ".toList ∨ c ∈ t := by
  refine (Text.mem_of_mem_joinWith h).imp_right ?_
  rintro ⟨part, hpart, hc⟩
  cases hblank : Text.isBlank t with
  | true =>
    rw [listOfText, hblank, if_pos rfl] at hpart
    exact absurd hpart List.not_mem_nil
  | false =>
    rw [listOfText_of_not_isBlank hblank, List.map_map] at hpart
    obtain ⟨piece, hpiece, rfl⟩ := List.mem_map.mp hpart
    exact (mem_of_mem_render hc).imp_right fun hc => (Text.of_mem_splitAt hpiece hc).2

end Parameter

/-! ### Headers -/

namespace HeaderParts

lemma subset_of_untilClose? {t inner : Text} (h : untilClose? t = some inner) : inner ⊆ t := by
  unfold untilClose? at h
  split at h
  · split_ifs at h
    rw [← Option.some.inj h]
    exact List.dropLast_subset t
  · simp at h

lemma subset_of_parameters? {t inner : Text} (h : parameters? t = some inner) : inner ⊆ t := by
  unfold parameters? at h
  split at h
  · rename_i rest hstart
    have hsub : '(' :: rest ⊆ t := hstart ▸ (List.dropWhile_sublist _).subset
    exact fun c hc => hsub (List.mem_cons_of_mem '(' (subset_of_untilClose? h hc))
  · simp at h

lemma isWord_of_spanWord {t word rest : Text} (h : Text.spanWord t = (word, rest))
    (hne : word ≠ []) : word.IsWord ∧ rest ⊆ t := by
  rw [Text.spanWord, List.span_eq_takeWhile_dropWhile, Prod.mk.injEq] at h
  obtain ⟨rfl, rfl⟩ := h
  exact ⟨⟨hne, fun c hc => List.mem_takeWhile_imp hc⟩, (List.dropWhile_sublist _).subset⟩

lemma of_ofText? {t : Text} {parts : HeaderParts} (h : ofText? t = some parts) :
    parts.name.IsWord ∧ (∀ ty ∈ parts.returnType, Text.IsWord ty) ∧ parts.parameters ⊆ t := by
  unfold ofText? at h
  split at h
  · simp at h
  · rename_i first rest hne hspan
    obtain ⟨hfirst, hrest⟩ := isWord_of_spanWord hspan hne
    split at h
    · rename_i inner hinner
      rw [← Option.some.inj h]
      exact ⟨hfirst, by simp, fun c hc => hrest (subset_of_parameters? hinner hc)⟩
    · split_ifs at h
      split at h
      · simp at h
      · rename_i second rest' hne' hspan'
        obtain ⟨hsecond, hrest'⟩ := isWord_of_spanWord hspan' hne'
        obtain ⟨inner, hinner, rfl⟩ := Option.map_eq_some_iff.mp h
        refine ⟨hsecond, by simpa using hfirst, fun c hc => hrest ?_⟩
        exact (List.dropWhile_sublist _).subset (hrest' (subset_of_parameters? hinner hc))

end HeaderParts

namespace Signature

/-- What can be read in a header in the class `owner`. -/
inductive ReadFrom (owner header : Text) : Signature → Prop
  | unreadable : ReadFrom owner header (unreadable owner header)
  | constructor {inner : Text} (howner : owner.IsWord) (hinner : inner ⊆ header) :
      ReadFrom owner header
        ⟨owner, .constructor, owner, none, Parameter.listOfText inner, none⟩
  | method {name ty inner : Text} (hne : name ≠ owner) (hname : name.IsWord) (hty : ty.IsWord)
      (hinner : inner ⊆ header) :
      ReadFrom owner header ⟨owner, .method, name, some ty, Parameter.listOfText inner, none⟩

lemma readFrom_ofHeader (owner header : Text) : ReadFrom owner header (ofHeader owner header) := by
  cases hparts : HeaderParts.ofText? (Text.trim header) with
  | none =>
    rw [ofHeader, ofHeader?, hparts]
    exact .unreadable
  | some parts =>
    obtain ⟨hname, hty, hinner⟩ := HeaderParts.of_ofText? hparts
    have hinner : parts.parameters ⊆ header := fun c hc => Text.mem_of_mem_trim (hinner hc)
    rw [ofHeader, ofHeader?, hparts, Option.map_some, Option.getD_some]
    by_cases howner : parts.name = owner
    · subst howner
      rw [if_pos rfl]
      exact .constructor hname hinner
    · rw [if_neg howner]
      refine .method howner hname ?_ hinner
      cases hreturn : parts.returnType with
      | none => exact ⟨List.cons_ne_nil _ _, by decide⟩
      | some ty => exact isWord_typeName (hty ty hreturn)

def parentheses (parameters : List Parameter) : Text := '(' :: Parameter.written parameters ++ [')']

lemma declaration_constructor (owner name : Text) (parameters : List Parameter) :
    declaration ⟨owner, .constructor, name, none, parameters, none⟩ =
      "public ".toList ++ (name ++ parentheses parameters) :=
  List.append_assoc _ _ _

lemma declaration_method (owner name ty : Text) (parameters : List Parameter)
    (diagnostic : Option Text) :
    declaration ⟨owner, .method, name, some ty, parameters, diagnostic⟩ =
      "public ".toList ++ (ty ++ ' ' :: (name ++ parentheses parameters)) := by
  have h : declaration ⟨owner, .method, name, some ty, parameters, diagnostic⟩ =
      "public ".toList ++ ty ++ ' ' :: name ++ parentheses parameters := rfl
  rw [h, List.append_assoc, List.append_assoc, List.cons_append]

lemma listOfText_eq_of_parentheses_eq {s t : Text}
    (h : parentheses (Parameter.listOfText s) = parentheses (Parameter.listOfText t)) :
    Parameter.listOfText s = Parameter.listOfText t := by
  have hwritten : Parameter.written (Parameter.listOfText s) =
      Parameter.written (Parameter.listOfText t) :=
    List.append_cancel_right (List.cons.inj h).2
  rw [← Parameter.listOfText_written s, hwritten, Parameter.listOfText_written]

variable {owner header header' : Text} {s s' : Signature}

lemma isWordChar_signs : Text.isWordChar ' ' = false ∧ Text.isWordChar '(' = false := by decide

/-- A name is followed by a parenthesis and a type by a space. -/
lemma name_append_ne {name ty : Text} (hname : name.IsWord) (hty : ty.IsWord) (rest : Text)
    (parameters : List Parameter) : name ++ parentheses parameters ≠ ty ++ ' ' :: rest := by
  intro h
  have hsign := Text.append_cons_inj hname.2 hty.2 isWordChar_signs.2 isWordChar_signs.1 h
  exact absurd hsign.2.1 (by decide)

lemma ReadFrom.eq_of_declaration_eq (hs : ReadFrom owner header s) (hs' : ReadFrom owner header' s')
    (hdiagnostic : s.diagnostic = s'.diagnostic) (h : s.declaration = s'.declaration) : s = s' := by
  obtain ⟨hspace, hparen⟩ := isWordChar_signs
  cases hs with
  | unreadable =>
    cases hs' with
    | unreadable =>
      rw [List.append_cancel_left (Option.some.inj hdiagnostic)]
    | constructor | method => exact absurd hdiagnostic (by simp [Signature.unreadable])
  | constructor howner =>
    cases hs' with
    | unreadable => exact absurd hdiagnostic (by simp [Signature.unreadable])
    | constructor =>
      rw [declaration_constructor, declaration_constructor] at h
      rw [listOfText_eq_of_parentheses_eq
        (List.append_cancel_left (List.append_cancel_left h))]
    | method _ _ hty =>
      rw [declaration_constructor, declaration_method] at h
      exact absurd (List.append_cancel_left h) (name_append_ne howner hty _ _)
  | method _ hname hty =>
    cases hs' with
    | unreadable => exact absurd hdiagnostic (by simp [Signature.unreadable])
    | constructor howner =>
      rw [declaration_constructor, declaration_method] at h
      exact absurd (List.append_cancel_left h).symm (name_append_ne howner hty _ _)
    | method _ hname' hty' =>
      rw [declaration_method, declaration_method] at h
      obtain ⟨rfl, -, h⟩ :=
        Text.append_cons_inj hty.2 hty'.2 hspace hspace (List.append_cancel_left h)
      obtain ⟨rfl, -, hinner⟩ := Text.append_cons_inj hname.2 hname'.2 hparen hparen h
      rw [listOfText_eq_of_parentheses_eq (congrArg ('(' :: ·) hinner)]

end Signature
end Pseudocode
