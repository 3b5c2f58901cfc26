import Pseudocode.Proofs.Declarations
import Pseudocode.Proofs.StatementText

/-!
# Texts on one line

A text is cut into lines before anything else is done with it. All that a conversion keeps of it,
names, fields, parameters, statements and diagnostics, therefore stays on one line, unless a
template or the name of the default class brings a line feed. What is written for a field or a
method stays on one line, too.
-/

namespace Pseudocode

/-- A text that stays on its line. -/
def Text.IsLine (t : Text) : Prop := '\n' ∉ t

instance (t : Text) : Decidable t.IsLine := inferInstanceAs (Decidable ('\n' ∉ t))

namespace Text

lemma IsLine.append {s t : Text} (hs : s.IsLine) (ht : t.IsLine) : (s ++ t).IsLine :=
  fun h => (List.mem_append.mp h).elim hs ht

lemma IsLine.cons {c : Char} {t : Text} (hc : c ≠ '\n') (ht : t.IsLine) :
    Text.IsLine (c :: t) :=
  fun h => (List.mem_cons.mp h).elim (fun heq => hc heq.symm) ht

lemma isLine_of_forall {t : Text} {p : Char → Bool} (h : ∀ c ∈ t, p c = true)
    (hp : p '\n' = false) : t.IsLine :=
  fun hmem => Bool.noConfusion (hp.symm.trans (h '\n' hmem))

lemma IsWord.isLine {t : Text} (h : t.IsWord) : t.IsLine := isLine_of_forall h.2 (by decide)

end Text

/-! ### The texts of a class -/

def FieldEntry.strings : FieldEntry → List Text
  | declared field => [field.ty, field.name]
  | unreadable line => [line]

def Parameter.strings : Parameter → List Text
  | typed ty name => [ty, name]
  | raw text => [text]

def Signature.strings (s : Signature) : List Text :=
  s.owner :: s.name :: s.returnType.toList ++ s.parameters.flatMap (·.strings) ++
    s.diagnostic.toList

def ClassOutline.strings (c : ClassOutline) : List Text :=
  c.name :: c.parent.toList ++ c.fields.flatMap (·.strings) ++
    c.methods.flatMap (fun m => m.signature.strings ++ m.body) ++ c.statements

def Outline.strings (o : Outline) : List Text := o.classes.flatMap (·.strings)

lemma Signature.forall_mem_strings {s : Signature} {p : Text → Prop} :
    (∀ t ∈ s.strings, p t) ↔ p s.owner ∧ p s.name ∧ (∀ ty ∈ s.returnType.toList, p ty) ∧
      (∀ t ∈ s.parameters.flatMap (·.strings), p t) ∧ ∀ text ∈ s.diagnostic.toList, p text := by
  simp only [strings, List.forall_mem_append, List.forall_mem_cons, and_assoc]

open Text

/-- A class none of whose texts has a line feed. -/
structure ClassOutline.IsOnLines (c : ClassOutline) : Prop where
  name : c.name.IsLine
  parent : ∀ p ∈ c.parent, IsLine p
  fields : ∀ f ∈ c.fields, ∀ s ∈ f.strings, IsLine s
  signatures : ∀ m ∈ c.methods, ∀ s ∈ m.signature.strings, IsLine s
  bodies : ∀ m ∈ c.methods, ∀ s ∈ m.body, IsLine s
  statements : ∀ s ∈ c.statements, IsLine s

lemma ClassOutline.IsOnLines.of_mem_strings {c : ClassOutline} (h : c.IsOnLines) :
    ∀ s ∈ c.strings, IsLine s := by
  simp only [strings, List.forall_mem_append, List.forall_mem_cons, List.forall_mem_flatMap,
    Option.mem_toList]
  exact ⟨⟨⟨⟨h.name, h.parent⟩, h.fields⟩, fun m hm => ⟨h.signatures m hm, h.bodies m hm⟩⟩,
    h.statements⟩

/-! ### What is read from a line -/

variable {line owner header : Text}

lemma Text.isLine_of_mem_words (h : line.IsLine) {word : Text} (hword : word ∈ words line) :
    word.IsLine :=
  fun hmem => h (of_mem_words hword hmem).2

lemma FieldEntry.isLine_of_mem_strings (h : line.IsLine) :
    ∀ s ∈ (ofLine line).strings, IsLine s := by
  rcases ofLine_eq_or line with hl | ⟨v, ty, hty, name, hname, hl⟩
  · rw [hl]
    exact List.forall_mem_singleton.mpr h
  · have htype : (Statement.typeName ty).IsLine :=
      isLine_of_forall (isWhite_typeName hty) (by decide)
    have hend : (dropEndWhile (· == ';') name).IsLine := fun hmem =>
      isLine_of_mem_words h hname ((List.rdropWhile_prefix _ name).subset hmem)
    rw [hl]
    exact List.forall_mem_cons.mpr ⟨htype, List.forall_mem_singleton.mpr hend⟩

lemma Parameter.isLine_of_mem_strings (h : line.IsLine) :
    ∀ s ∈ (ofText line).strings, IsLine s := by
  rcases ofText_eq_or line with ⟨ty, name, hwords, hl⟩ | hl
  · have htype : (Statement.typeName ty).IsLine :=
      isLine_of_forall (FieldEntry.isWhite_typeName (hwords ▸ List.mem_cons_self)) (by decide)
    have hname : name.IsLine := isLine_of_mem_words h (by simp [hwords])
    rw [hl]
    exact List.forall_mem_cons.mpr ⟨htype, List.forall_mem_singleton.mpr hname⟩
  · rw [hl]
    exact List.forall_mem_singleton.mpr fun hmem => h (mem_of_mem_trim hmem)

lemma Parameter.isLine_of_mem_listOfText (h : line.IsLine) :
    ∀ s ∈ (listOfText line).flatMap (·.strings), IsLine s := by
  rw [List.forall_mem_flatMap]
  cases hblank : isBlank line with
  | true =>
    rw [listOfText, hblank, if_pos rfl]
    exact List.forall_mem_nil _
  | false =>
    rw [listOfText_of_not_isBlank hblank, List.forall_mem_map]
    exact fun piece hpiece => isLine_of_mem_strings fun hmem => h (of_mem_splitAt hpiece hmem).2

lemma Signature.isLine_of_mem_strings (howner : owner.IsLine) (hheader : header.IsLine) :
    ∀ s ∈ (ofHeader owner header).strings, IsLine s := by
  have hparameters {inner : Text} (hinner : inner ⊆ header) :
      ∀ s ∈ (Parameter.listOfText inner).flatMap (·.strings), IsLine s :=
    Parameter.isLine_of_mem_listOfText fun hmem => hheader (hinner hmem)
  have hread := readFrom_ofHeader owner header
  generalize ofHeader owner header = s at hread
  rw [forall_mem_strings]
  cases hread with
  | unreadable =>
    have hdiagnostic : IsLine ("ERROR Parsing function signature: ".toList ++ header) :=
      .append (by decide) hheader
    have hname : IsLine "unknownMethod".toList := by decide
    have hty : IsLine noValue := by decide
    exact ⟨howner, hname, List.forall_mem_singleton.mpr hty, List.forall_mem_nil _,
      List.forall_mem_singleton.mpr hdiagnostic⟩
  | constructor _ hinner =>
    exact ⟨howner, howner, List.forall_mem_nil _, hparameters hinner, List.forall_mem_nil _⟩
  | method _ hname hty hinner =>
    exact ⟨howner, hname.isLine, List.forall_mem_singleton.mpr hty.isLine, hparameters hinner,
      List.forall_mem_nil _⟩

lemma ClassOutline.IsOnLines.of_lines {c : ClassOutline} (hname : c.name.IsLine)
    (hparent : ∀ p ∈ c.parent, IsWord p)
    (hfields : ∀ f ∈ c.fields, ∃ line : Text, line.IsLine ∧ f = .ofLine line)
    (hheaders : ∀ m ∈ c.methods,
      ∃ header : Text, header.IsLine ∧ m.signature = .ofHeader c.name header)
    (hbodies : ∀ m ∈ c.methods, ∀ s ∈ m.body, IsLine s)
    (hstatements : ∀ s ∈ c.statements, IsLine s) : c.IsOnLines := by
  refine ⟨hname, fun p hp => (hparent p hp).isLine, fun f hf => ?_, fun m hm => ?_, hbodies,
    hstatements⟩
  · obtain ⟨line, hline, rfl⟩ := hfields f hf
    exact FieldEntry.isLine_of_mem_strings hline
  · obtain ⟨header, hheader, hsignature⟩ := hheaders m hm
    rw [hsignature]
    exact Signature.isLine_of_mem_strings hname hheader

/-! ### What a conversion keeps -/

section

variable {book : Rulebook} {defaultClass : Text}

lemma IsStatementOf.isLine {s : Text} (h : IsStatementOf book IsLine s)
    (hbook : ∀ rule ∈ book.rules, rule.written.template.IsLine) : s.IsLine := by
  obtain ⟨line, hline, rfl⟩ := h
  intro hmem
  rcases Rulebook.mem_of_mem_convert (by decide) hmem with hmem | ⟨rule, hrule, -, hmem⟩
  · exact hline hmem
  · exact hbook rule hrule hmem

namespace ClassOutline.IsFrom

variable {c : ClassOutline} (h : c.IsFrom book defaultClass IsLine)

include h

lemma headers : ∀ m ∈ c.methods,
    ∃ header : Text, header.IsLine ∧ m.signature = .ofHeader c.name header := by
  intro m hm
  obtain ⟨line, header, hline, hsub, hsignature⟩ := (h.methods m hm).signature
  exact ⟨header, fun hmem => hline (hsub hmem), hsignature⟩

lemma isOnLines (hbook : ∀ rule ∈ book.rules, rule.written.template.IsLine)
    (hname : defaultClass.IsLine) : c.IsOnLines := by
  have hclass : c.name.IsLine := by
    rcases h.name with heq | hword
    · rw [heq]
      exact hname
    · exact hword.isLine
  exact .of_lines hclass h.parent h.fields h.headers
    (fun m hm s hs => ((h.methods m hm).body s hs).isLine hbook)
    (fun s hs => (h.statements s hs).isLine hbook)

end ClassOutline.IsFrom
end

lemma Converter.isFrom_convert (c : Converter) (t : Text) :
    ∀ cls ∈ (c.convert t).outline.classes, cls.IsFrom c.book c.defaultClass IsLine :=
  c.isFrom_convertLines fun _ hline hmem =>
    lineFeed_notMem_of_mem_lines hline (mem_of_mem_trim hmem)

/-! ### What is written for a class -/

lemma FieldEntry.isLine_render {entry : FieldEntry} (h : ∀ s ∈ entry.strings, IsLine s) :
    entry.render.IsLine := by
  cases entry with
  | declared field =>
    obtain ⟨v, ty, name⟩ := field
    have hvisibility : v.word.IsLine := isLine_of_forall (isWhite_word v) (by decide)
    obtain ⟨hty, hname⟩ := List.forall_mem_cons.mp h
    have hname : name.IsLine := List.forall_mem_singleton.mp hname
    rw [render_declared]
    exact hvisibility.append (.cons (by decide) (IsLine.append hty
      (.cons (by decide) (hname.append (by decide)))))
  | unreadable line => exact IsLine.append (by decide) (List.forall_mem_singleton.mp h)

lemma Parameter.isLine_render {parameter : Parameter} (h : ∀ s ∈ parameter.strings, IsLine s) :
    parameter.render.IsLine := by
  cases parameter with
  | typed ty name =>
    obtain ⟨hty, hname⟩ := List.forall_mem_cons.mp h
    exact IsLine.append hty (.cons (by decide) (List.forall_mem_singleton.mp hname))
  | raw text => exact List.forall_mem_singleton.mp h

namespace Signature

variable {s : Signature} (h : ∀ t ∈ s.strings, IsLine t)

include h

lemma isLine_parentheses : (parentheses s.parameters).IsLine := by
  obtain ⟨-, -, -, hparameters, -⟩ := forall_mem_strings.mp h
  have hwritten : (Parameter.written s.parameters).IsLine := by
    intro hmem
    rcases mem_of_mem_joinWith hmem with hmem | ⟨part, hpart, hmem⟩
    · exact absurd hmem (by decide)
    · obtain ⟨p, hp, rfl⟩ := List.mem_map.mp hpart
      exact Parameter.isLine_render (List.forall_mem_flatMap.mp hparameters p hp) hmem
  exact .append (.cons (by decide) hwritten) (by decide)

lemma isLine_declaration : s.declaration.IsLine := by
  obtain ⟨-, hname, htype, -⟩ := forall_mem_strings.mp h
  have hpublic : IsLine "public ".toList := by decide
  unfold declaration
  split
  · rename_i ty _ hty
    have hstart : IsLine ("public ".toList ++ ty) :=
      hpublic.append (htype ty (Option.mem_toList.mpr hty))
    exact (hstart.append (.cons (by decide) hname)).append (isLine_parentheses h)
  · exact (hpublic.append hname).append (isLine_parentheses h)

lemma isLine_diagnostic : ∀ text ∈ s.diagnostic, IsLine text := by
  obtain ⟨-, -, -, -, hdiagnostic⟩ := forall_mem_strings.mp h
  exact fun text htext => hdiagnostic text (Option.mem_toList.mpr htext)

end Signature
end Pseudocode
