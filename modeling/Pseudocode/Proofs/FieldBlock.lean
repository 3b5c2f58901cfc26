import Pseudocode.Proofs.HeaderText
import Pseudocode.Proofs.Headerless
import Pseudocode.Proofs.ScanInvariant
import Pseudocode.Proofs.WordForms

/-!
# Fields read back from their source

A line is taken for a field by its shape and read by its words, and the two may disagree on the
type: a visibility that runs into a word is part of the type for the one and not for the other.
Either way no word of statements becomes a type, so that the line of source for a field has the
shape of a field again, and a block of such lines makes a class with the same fields.
-/

namespace Pseudocode

/-- A field in the form in which lines declare fields. -/
structure Field.IsDeclared (f : Field) : Prop where
  isWord_ty : f.ty.IsWord
  typeName_ty : Statement.typeName f.ty = f.ty
  no_keyword : Keyword.leadsStatement f.ty = false
  isWord_name : f.name.IsWord

lemma Visibility.exists_ofWord? {v : Visibility} {word : Text}
    (h : Text.sameWord word v.word = true) : ∃ w, ofWord? word = some w :=
  Option.isSome_iff_exists.mp (List.find?_isSome.mpr ⟨v, by cases v <;> decide, h⟩)

lemma Text.IsWord.append {s t : Text} (hs : s.IsWord) (ht : t.IsWord) : IsWord (s ++ t) :=
  ⟨List.append_ne_nil_of_left_ne_nil hs.1 t, List.forall_mem_append.mpr ⟨hs.2, ht.2⟩⟩

/-! ### The shape of a field -/

namespace Line

/-- A text of a type and a name with white space before each, perhaps with a semicolon. -/
structure TypeAndName (t ty name ending : Text) : Prop where
  isWord_ty : ty.IsWord
  isWord_name : name.IsWord
  ending_eq : ending = [] ∨ ending = [';']
  spaced : ∃ before gap : Text, (∀ c ∈ before, Text.isWhite c = true) ∧
    (∀ c ∈ gap, Text.isWhite c = true) ∧ gap ≠ [] ∧
    t = before ++ (ty ++ (gap ++ (name ++ ending)))

lemma exists_of_typeOfField? {t ty : Text} (h : typeOfField? t = some ty) :
    ∃ name ending, TypeAndName t ty name ending := by
  obtain ⟨before, hbefore, ht⟩ := Text.exists_trimStart t
  unfold typeOfField? at h
  split at h
  · simp at h
  · simp at h
  · rename_i first c rest hfirst hspan
    split_ifs at h with hc
    obtain ⟨gap, hgap, hrest⟩ := Text.exists_trimStart rest
    have htype := (HeaderParts.isWord_of_spanWord hspan hfirst).1
    have hwhite : ∀ d ∈ c :: gap, Text.isWhite d = true := List.forall_mem_cons.mpr ⟨hc, hgap⟩
    have heq {name ending : Text} (hspan' : Text.spanWord (Text.trimStart rest) = (name, ending)) :
        t = before ++ (first ++ (c :: gap ++ (name ++ ending))) := by
      rw [← Text.eq_append_of_spanWord hspan', List.cons_append, ← hrest, ← Text.eq_append_of_spanWord hspan,
        ← ht]
    split at h
    · simp at h
    · rename_i name hname hspan'
      obtain rfl := Option.some.inj h
      exact ⟨name, [], htype, (HeaderParts.isWord_of_spanWord hspan' hname).1, .inl rfl,
        before, c :: gap, hbefore, hwhite, List.cons_ne_nil _ _, heq hspan'⟩
    · rename_i name hname hspan'
      obtain rfl := Option.some.inj h
      exact ⟨name, [';'], htype, (HeaderParts.isWord_of_spanWord hspan' hname).1, .inr rfl,
        before, c :: gap, hbefore, hwhite, List.cons_ne_nil _ _, heq hspan'⟩
    · simp at h

variable {t ty name ending : Text}

lemma TypeAndName.words_eq (h : TypeAndName t ty name ending) :
    Text.words t = [ty, name ++ ending] := by
  obtain ⟨before, gap, hbefore, hgap, hne, rfl⟩ := h.spaced
  obtain ⟨c, gap, rfl⟩ := List.exists_cons_of_ne_nil hne
  obtain ⟨hc, hgap⟩ := List.forall_mem_cons.mp hgap
  have hlast : ∀ d ∈ name ++ ending, Text.isWhite d = false := by
    intro d hd
    rcases List.mem_append.mp hd with hd | hd
    · exact h.isWord_name.isWhite_eq_false d hd
    · rcases h.ending_eq with rfl | rfl
      · exact absurd hd List.not_mem_nil
      · rw [List.mem_singleton.mp hd]
        decide
  rw [Text.words_white_append hbefore, List.cons_append, Text.words_append_cons hc,
    Text.words_white_append hgap,
    Text.words_of_forall h.isWord_ty.1 h.isWord_ty.isWhite_eq_false,
    Text.words_of_forall (List.append_ne_nil_of_left_ne_nil h.isWord_name.1 _) hlast]
  rfl

lemma TypeAndName.dropEndWhile_eq (h : TypeAndName t ty name ending) :
    Text.dropEndWhile (· == ';') (name ++ ending) = name := by
  have hname : Text.dropEndWhile (· == ';') name = name := by
    refine List.rdropWhile_eq_self_iff.mpr fun hne hlast => ?_
    have hword := h.isWord_name.2 _ (List.getLast_mem hne)
    rw [beq_iff_eq.mp hlast] at hword
    exact absurd hword (by decide)
  rcases h.ending_eq with rfl | rfl
  · rw [List.append_nil, hname]
  · exact (List.rdropWhile_concat_pos _ _ _ rfl).trans hname

lemma TypeAndName.typeOfField?_eq (h : TypeAndName t ty name ending) :
    typeOfField? t = some ty := by
  obtain ⟨before, gap, hbefore, hgap, hne, rfl⟩ := h.spaced
  have hstart : Text.trimStart (before ++ (ty ++ (gap ++ (name ++ ending)))) =
      ty ++ (gap ++ (name ++ ending)) := by
    rw [Text.trimStart, List.dropWhile_append_of_pos hbefore]
    exact h.isWord_ty.trimStart_append _
  have hspan : Text.spanWord (ty ++ (gap ++ (name ++ ending))) = (ty, gap ++ (name ++ ending)) :=
    Text.spanWord_append h.isWord_ty.2 (isWordChar_head?_white hne hgap)
  obtain ⟨c, gap, rfl⟩ := List.exists_cons_of_ne_nil hne
  obtain ⟨hc, hgap⟩ := List.forall_mem_cons.mp hgap
  have hspan' : Text.spanWord (Text.trimStart (gap ++ (name ++ ending))) = (name, ending) := by
    have hsign : ∀ c ∈ ending.head?, Text.isWordChar c = false := by
      intro c hc
      rcases h.ending_eq with rfl | rfl
      · exact absurd hc (by simp)
      · obtain rfl : ';' = c := Option.some.inj hc
        decide
    rw [Text.trimStart, List.dropWhile_append_of_pos hgap]
    exact (congrArg _ (h.isWord_name.trimStart_append ending)).trans
      (Text.spanWord_append h.isWord_name.2 hsign)
  obtain ⟨a, ty', hty⟩ := List.exists_cons_of_ne_nil h.isWord_ty.1
  obtain ⟨b, name', hname⟩ := List.exists_cons_of_ne_nil h.isWord_name.1
  rw [typeOfField?, hstart, hspan, hty, List.cons_append]
  simp only [hc, if_true, hspan']
  rw [hname]
  rcases h.ending_eq with rfl | rfl <;> rfl

lemma TypeAndName.exists_of_takeWhile (h : TypeAndName t ty name ending)
    (hword : t.takeWhile Text.isWordChar ≠ []) :
    t.takeWhile Text.isWordChar = ty ∧ ∃ gap : Text, (∀ c ∈ gap, Text.isWhite c = true) ∧
      gap ≠ [] ∧ t = ty ++ (gap ++ (name ++ ending)) := by
  obtain ⟨before, gap, hbefore, hgap, hne, rfl⟩ := h.spaced
  cases before with
  | nil =>
    have hspan : Text.spanWord (ty ++ (gap ++ (name ++ ending))) = (ty, gap ++ (name ++ ending)) :=
      Text.spanWord_append h.isWord_ty.2 (isWordChar_head?_white hne hgap)
    rw [Text.spanWord, List.span_eq_takeWhile_dropWhile] at hspan
    exact ⟨congrArg Prod.fst hspan, gap, hgap, hne, rfl⟩
  | cons c before =>
    have hc := Text.isWordChar_eq_false_of_isWhite (hbefore c List.mem_cons_self)
    exact absurd (List.takeWhile_cons_of_neg (Bool.eq_false_iff.mp hc)) hword

lemma TypeAndName.words_append {head rest : Text} (hhead : head.IsWord)
    (h : TypeAndName rest ty name ending) (hgap : rest.head?.any Text.isWhite = true) :
    Text.words (head ++ rest) = [head, ty, name ++ ending] := by
  obtain ⟨c, hc, hwhite⟩ := (Option.any_eq_true _ _).mp hgap
  obtain ⟨rest, rfl⟩ := List.head?_eq_some_iff.mp hc
  have hrest : Text.words (c :: rest) = Text.words rest :=
    Text.words_white_append (s := [c]) (by simpa using hwhite) rest
  rw [Text.words_append_cons hwhite, Text.words_of_forall hhead.1 hhead.isWhite_eq_false,
    ← hrest, h.words_eq]
  rfl

lemma leadsStatement_visibility_append {v : Visibility} {head : Text}
    (h : Text.sameWord head v.word = true) (t : Text) :
    Keyword.leadsStatement (head ++ t) = false := by
  have hwords : ∀ v ∈ Visibility.list, ∀ w ∈ Keyword.statementWords,
      v.word.map Text.asciiLower ≠ (w.take v.word.length).map Text.asciiLower := by decide
  have hv : v ∈ Visibility.list := by cases v <;> decide
  refine List.any_eq_false.mpr fun w hw hsame => hwords v hv w hw ?_
  have htake := Text.sameWord_take hsame head.length
  rw [List.take_left, Text.length_eq_of_sameWord h] at htake
  exact (Text.sameWord_iff.mp h).symm.trans (Text.sameWord_iff.mp htake).symm

lemma isWord_of_visibility {v : Visibility} {head : Text}
    (h : Text.sameWord head v.word = true) : head.IsWord := by
  refine ⟨?_, fun c hc => ?_⟩
  · rintro rfl
    cases v <;> exact absurd h (by decide)
  · obtain ⟨d, hd, hletter⟩ := Text.exists_sameLetter_of_mem h hc
    have hsmall : ∀ v ∈ Visibility.list, ∀ d ∈ v.word, ('a' ≤ d ∧ d ≤ 'z') ∧
        (Text.asciiLower d).toNat < 128 ∧ Text.asciiLower d = d := by decide
    obtain ⟨hrange, hlt, hlower⟩ := hsmall v (by cases v <;> decide) d hd
    exact CharSet.isWordChar_of_fold_eq hrange
      ((Text.fold_eq_of_sameLetter hlt hletter).trans hlower)

lemma exists_of_afterVisibility? {line rest : Text} (h : afterVisibility? line = some rest) :
    ∃ (v : Visibility) (head : Text), line = head ++ rest ∧ Text.sameWord head v.word = true := by
  obtain ⟨v, -, hv⟩ := List.exists_of_findSome?_eq_some h
  obtain ⟨head, hline, hword⟩ := Keyword.append_of_after? hv
  exact ⟨v, head, hline, hword⟩

end Line

namespace FieldEntry

variable {line first : Text} {rest : List Text}

lemma ofLine_of_visibility {v : Visibility} (h : Text.words line = first :: rest)
    (hv : Visibility.ofWord? first = some v) : ofLine line = ofNames line v rest := by
  unfold ofLine
  simp only [h, hv]
  rfl

lemma ofLine_of_no_visibility (h : Text.words line = first :: rest)
    (hv : Visibility.ofWord? first = none) : ofLine line = ofNames line .owner (first :: rest) := by
  unfold ofLine
  simp only [h, hv]
  rfl

end FieldEntry

namespace Field

open FieldEntry

variable {f : Field}

lemma isDeclared_of_ofNames {v : Visibility} {line t ty name ending : Text}
    (hparts : Line.TypeAndName t ty name ending) (hno : Keyword.leadsStatement ty = false)
    (h : ofNames line v [ty, name ++ ending] = .declared f) : f.IsDeclared := by
  rw [ofNames, hparts.dropEndWhile_eq] at h
  rw [← FieldEntry.declared.inj h]
  refine ⟨Statement.isWord_typeName hparts.isWord_ty, Statement.typeName_typeName ty, ?_,
    hparts.isWord_name⟩
  change Keyword.leadsStatement (Statement.typeName ty) = false
  unfold Statement.typeName
  split_ifs
  · decide
  · exact hno

lemma isDeclared_of_typeAndName {line ty name ending : Text}
    (hparts : Line.TypeAndName line ty name ending) (hno : Keyword.leadsStatement ty = false)
    (h : ofLine line = .declared f) : f.IsDeclared := by
  cases hv : Visibility.ofWord? ty with
  | some v =>
    rw [ofLine_of_visibility hparts.words_eq hv] at h
    cases h
  | none =>
    rw [ofLine_of_no_visibility hparts.words_eq hv] at h
    exact isDeclared_of_ofNames hparts hno h

lemma isDeclared_of_visibility {v : Visibility} {head rest ty name ending : Text}
    (hword : Text.sameWord head v.word = true) (hparts : Line.TypeAndName rest ty name ending)
    (hno : Keyword.leadsStatement ty = false) (h : ofLine (head ++ rest) = .declared f) :
    f.IsDeclared := by
  have hhead : head.IsWord := Line.isWord_of_visibility hword
  obtain ⟨before, gap, hbefore, hgap, hne, rfl⟩ := hparts.spaced
  cases before with
  | nil =>
    -- the visibility runs into the type, and the words know of none
    have hglued : Line.TypeAndName (head ++ (ty ++ (gap ++ (name ++ ending)))) (head ++ ty) name
        ending :=
      ⟨hhead.append hparts.isWord_ty, hparts.isWord_name, hparts.ending_eq, [], gap, hbefore,
        hgap, hne, (List.append_assoc _ _ _).symm⟩
    exact isDeclared_of_typeAndName hglued (Line.leadsStatement_visibility_append hword ty) h
  | cons c before =>
    have hwords := hparts.words_append hhead (hbefore c List.mem_cons_self)
    obtain ⟨w, hw⟩ := Visibility.exists_ofWord? hword
    rw [ofLine_of_visibility hwords hw] at h
    exact isDeclared_of_ofNames hparts hno h

/-- A line of the shape of a field whose words declare one declares it in the form of fields. -/
lemma isDeclared_of_isField {line : Text} (hshape : Line.isField line = true)
    (h : ofLine line = .declared f) : f.IsDeclared := by
  obtain ⟨ty, htype, hkeyword⟩ := (Option.any_eq_true _ _).mp hshape
  have hno : Keyword.leadsStatement ty = false := by simpa using hkeyword
  rcases Option.or_eq_some_iff.mp htype with hafter | ⟨-, hplain⟩
  · obtain ⟨rest, hrest, hinner⟩ := Option.bind_eq_some_iff.mp hafter
    obtain ⟨v, head, rfl, hword⟩ := Line.exists_of_afterVisibility? hrest
    obtain ⟨name, ending, hparts⟩ := Line.exists_of_typeOfField? hinner
    exact isDeclared_of_visibility hword hparts hno h
  · obtain ⟨name, ending, hparts⟩ := Line.exists_of_typeOfField? hplain
    exact isDeclared_of_typeAndName hparts hno h

end Field

/-! ### The line of source for a field -/

namespace Field

variable {f : Field}

def source (f : Field) : Text := FieldEntry.render (.declared f)

lemma source_eq (f : Field) :
    f.source = f.visibility.word ++ ' ' :: (f.ty ++ ' ' :: (f.name ++ [';'])) :=
  FieldEntry.render_declared f.visibility f.ty f.name

lemma isWord_visibility (v : Visibility) : v.word.IsWord := by cases v <;> decide

namespace IsDeclared

lemma typeAndName (h : f.IsDeclared) :
    Line.TypeAndName (' ' :: (f.ty ++ ' ' :: (f.name ++ [';']))) f.ty f.name [';'] :=
  ⟨h.isWord_ty, h.isWord_name, .inr rfl, [' '], [' '], by decide, by decide,
    List.cons_ne_nil _ _, rfl⟩

lemma trim_source (f : Field) : Text.trim f.source = f.source := by
  have hconcat : f.source =
      f.visibility.word ++ (' ' :: (f.ty ++ ' ' :: f.name) ++ [';']) := by
    rw [source_eq]
    simp
  rw [hconcat]
  exact (isWord_visibility f.visibility).trim_append_concat _ (by decide)

lemma afterVisibility?_source (f : Field) :
    Line.afterVisibility? f.source = some (' ' :: (f.ty ++ ' ' :: (f.name ++ [';']))) := by
  rw [source_eq]
  cases f.visibility <;> rfl

lemma isField_source (h : f.IsDeclared) : Line.isField f.source = true := by
  have htype : Line.fieldType? f.source = some f.ty := by
    rw [Line.fieldType?, afterVisibility?_source, Option.bind_some, h.typeAndName.typeOfField?_eq]
    rfl
  rw [Line.isField, htype, Option.any_some, h.no_keyword]
  rfl

lemma ofLine_source (h : f.IsDeclared) : FieldEntry.ofLine f.source = .declared f := by
  have hwords : Text.words f.source = [f.visibility.word, f.ty, f.name ++ [';']] := by
    rw [source_eq]
    exact h.typeAndName.words_append (isWord_visibility f.visibility) rfl
  have hv : Visibility.ofWord? f.visibility.word = some f.visibility := by
    cases f.visibility <;> decide
  rw [FieldEntry.ofLine_of_visibility hwords hv, FieldEntry.ofNames, h.typeName_ty,
    h.typeAndName.dropEndWhile_eq]

lemma paren_notMem_source (h : f.IsDeclared) : '(' ∉ f.source := by
  have hparen {t : Text} (ht : t.IsWord) : '(' ∉ t := fun hmem =>
    absurd (ht.2 '(' hmem) (by decide)
  rw [source_eq]
  simp [hparen h.isWord_ty, hparen h.isWord_name, hparen (isWord_visibility f.visibility)]

/-- A scan in a class takes the line of source for the field. -/
lemma moves_source (h : f.IsDeclared) (book : Rulebook) (defaultClass name : Text) :
    Place.Moves book defaultClass (.inClass name) f.source [⟨name, .field (.declared f)⟩]
      (.inClass name) := by
  have hhead : f.source.head?.map Text.fold = some 'p' := by
    rw [source, FieldEntry.head?_render_declared]
    decide
  have hclass : ClassHeader.ofLine? f.source = none :=
    Option.eq_none_iff_forall_ne_some.mpr fun header hheader =>
      absurd (hhead.symm.trans (ClassHeader.head?_fold hheader)) (by decide)
  have hmethod : Line.methodHeader? f.source = none :=
    Option.eq_none_iff_forall_ne_some.mpr fun header hheader =>
      absurd (hhead.symm.trans (Line.head?_fold_of_methodHeader hheader)) (by decide)
  have hsignature : Signature.ofLine? name f.source = none :=
    Option.eq_none_iff_forall_ne_some.mpr fun s hs =>
      h.paren_notMem_source (Signature.paren_mem_of_ofLine? hs)
  have hne : f.source ≠ [] := by
    intro hnil
    rw [hnil] at hhead
    exact absurd hhead (by decide)
  have hcontent : Line.content book f.source = .field (.declared f) := by
    rw [Line.content, if_pos h.isField_source, h.ofLine_source]
  exact hcontent ▸ .content rfl hne hclass hmethod hsignature

end IsDeclared
end Field

/-! ### Blocks of fields -/

def FieldEntry.isDeclaration : FieldEntry → Bool
  | declared _ => true
  | unreadable _ => false

lemma ClassOutline.foldl_offer_of_nodup {fields entries : List FieldEntry}
    (h : (fields ++ entries).Nodup) : entries.foldl offer fields = fields ++ entries := by
  induction entries generalizing fields with
  | nil => rw [List.append_nil, List.foldl_nil]
  | cons entry rest ih =>
    have hnew : entry ∉ fields := fun hmem =>
      (List.nodup_append.mp h).2.2 entry hmem entry List.mem_cons_self rfl
    rw [List.append_cons] at h
    rw [List.foldl_cons, offer, if_neg hnew, ih h, List.append_assoc]
    rfl

namespace Place

variable {book : Rulebook} {defaultClass : Text}

lemma Moves.isDeclared {place next : Place} {line : Text} {edits : List Edit} {name : Text}
    {f : Field} (h : Moves book defaultClass place line edits next)
    (hf : ⟨name, .field (.declared f)⟩ ∈ edits) : f.IsDeclared := by
  have hentry : ⟨name, .field (.declared f)⟩ ∉ place.entry defaultClass := by
    cases place <;> simp [entry]
  cases h with
  | blank | body => exact absurd hf List.not_mem_nil
  | methodHeader | bareHeader => exact absurd hf hentry
  | classHeader | close => simp at hf
  | content =>
    rcases List.mem_append.mp hf with hf | hf
    · exact absurd hf hentry
    · have hcontent := congrArg Edit.change (List.mem_singleton.mp hf)
      change Change.field (.declared f) = Line.content book line at hcontent
      unfold Line.content at hcontent
      split_ifs at hcontent with hshape
      exact Field.isDeclared_of_isField hshape (Change.field.inj hcontent).symm

lemma isDeclared_of_mem_log {place : Place} {lines : List Text} {name : Text} {f : Field}
    (h : ⟨name, .field (.declared f)⟩ ∈ log book defaultClass place lines) : f.IsDeclared := by
  induction lines generalizing place with
  | nil => exact absurd h List.not_mem_nil
  | cons line rest ih =>
    rcases List.mem_append.mp h with h | h
    · exact (moves_move book defaultClass place (Text.trim line)).isDeclared h
    · exact ih h

lemma log_fields {name : Text} {entries : List FieldEntry}
    (h : ∀ entry ∈ entries, ∃ f : Field, entry = .declared f ∧ f.IsDeclared) :
    log book defaultClass (.inClass name) (entries.map FieldEntry.render) =
      (entries.map Change.field).map (Edit.mk name) := by
  induction entries with
  | nil => rfl
  | cons entry rest ih =>
    obtain ⟨⟨f, rfl, hf⟩, hrest⟩ := List.forall_mem_cons.mp h
    have hmove := (hf.moves_source book defaultClass name).move_eq
    rw [← Field.IsDeclared.trim_source] at hmove
    rw [List.map_cons, log, ← Field.source, hmove, ih hrest]
    rfl

end Place

namespace Outline

variable {book : Rulebook} {defaultClass : Text} {lines : List Text} {c : ClassOutline}

lemma isDeclared_of_mem_fields (hc : c ∈ (ofLines book defaultClass lines).classes) {f : Field}
    (hf : .declared f ∈ c.fields) : f.IsDeclared := by
  rw [ofLines_eq_replay] at hc
  refine forall_mem_replay (P := fun c => ∀ f, .declared f ∈ c.fields → f.IsDeclared)
    (fun e _ f hf => absurd hf List.not_mem_nil) (fun e he c _ hc f hf => ?_)
    (fun c hc => absurd hc List.not_mem_nil) c hc f hf
  obtain ⟨name, change⟩ := e
  cases change with
  | parent | method | statement => exact hc f hf
  | field entry =>
    rw [Change.apply, ClassOutline.addField_eq] at hf
    rcases (ClassOutline.mem_foldl_offer c.fields [entry] _).mp hf with hf | hf
    · exact hc f hf
    · exact Place.isDeclared_of_mem_log (List.mem_singleton.mp hf ▸ he)

/-- The fields that a class declares, each as its line of source after the header of the class, are
read as the same fields in the same order and as nothing else, whatever the rules and the default
class are now. -/
theorem ofLines_fields (hc : c ∈ (ofLines book defaultClass lines).classes)
    (hname : ClassHeader.ofLine? ("class ".toList ++ c.name) = some ⟨c.name, none⟩)
    (book' : Rulebook) (defaultClass' : Text) :
    let fields := c.fields.filter FieldEntry.isDeclaration
    ofLines book' defaultClass' (("class ".toList ++ c.name) :: fields.map FieldEntry.render) =
      ⟨[⟨c.name, none, fields, [], []⟩]⟩ := by
  intro fields
  have hdeclared : ∀ entry ∈ fields, ∃ f : Field, entry = .declared f ∧ f.IsDeclared := by
    intro entry hentry
    obtain ⟨hmem, hkind⟩ := List.mem_filter.mp hentry
    cases entry with
    | declared f => exact ⟨f, rfl, isDeclared_of_mem_fields hc hmem⟩
    | unreadable line => cases hkind
  have hheader : ClassHeader.ofLine? (Text.trim ("class ".toList ++ c.name)) =
      some ⟨c.name, none⟩ := by rw [ClassHeader.trim_eq_self hname, hname]
  have hlog : Place.log book' defaultClass' .outside
      (("class ".toList ++ c.name) :: fields.map FieldEntry.render) =
        (Change.parent none :: fields.map Change.field).map (Edit.mk c.name) := by
    rw [Place.log, (Place.Moves.classHeader .outside hheader).move_eq, Place.log_fields hdeclared]
    rfl
  have hnodup : ([] ++ fields).Nodup := (nodup_fields_ofLines c hc).filter _
  have hclass : (ClassOutline.bare c.name none).applyAll
      (Change.parent none :: fields.map Change.field) = ⟨c.name, none, fields, [], []⟩ := by
    have hoffer : fields.foldl ClassOutline.offer [] = fields :=
      ClassOutline.foldl_offer_of_nodup hnodup
    rw [ClassOutline.applyAll_cons, ClassOutline.applyAll_fields]
    exact congrArg (ClassOutline.mk c.name none · [] []) hoffer
  rw [ofLines_eq_replay, hlog, replay_map_mk, update]
  exact congrArg (Outline.mk [·]) hclass

theorem ofLines_fields_dog :
    let lines := ["class Dog, Animal", "int age;", "PUBLIC String name", "publicint x",
      "protected y", "private int age", "public print z", "speak()", "int n", "endfunction",
      "Protected	string	public"].map String.toList
    let fields : List FieldEntry := [.declared ⟨.owner, "int".toList, "age".toList⟩,
      .declared ⟨.everyone, "String".toList, "name".toList⟩,
      .declared ⟨.owner, "publicint".toList, "x".toList⟩,
      .declared ⟨.heirs, "String".toList, "public".toList⟩]
    ∃ c ∈ (ofLines .standard "Main".toList lines).classes, c.name = "Dog".toList ∧
      c.fields.filter FieldEntry.isDeclaration = fields ∧
      ofLines .standard "Main".toList ("class Dog".toList :: fields.map FieldEntry.render) =
        ⟨[⟨"Dog".toList, none, fields, [], []⟩]⟩ := by
  intro lines fields
  let c : ClassOutline := ⟨"Dog".toList, some "Animal".toList,
    fields.take 3 ++ [.unreadable "protected y".toList] ++ fields.drop 3, [⟨⟨"Dog".toList, .method,
      "speak".toList, some "void".toList, [], none⟩, ["int n;".toList]⟩],
    ["public print z;".toList]⟩
  have hc : c ∈ (ofLines .standard "Main".toList lines).classes := by decide +kernel
  have hname : ClassHeader.ofLine? ("class ".toList ++ c.name) = some ⟨c.name, none⟩ := by decide
  have hfields : c.fields.filter FieldEntry.isDeclaration = fields := by decide
  exact ⟨c, hc, rfl, hfields, hfields ▸ ofLines_fields hc hname .standard "Main".toList⟩

end Outline
end Pseudocode
