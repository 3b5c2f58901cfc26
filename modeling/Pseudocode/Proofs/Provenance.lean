import Pseudocode.Proofs.Pieces
import Pseudocode.Proofs.Units

/-!
# Where the parts of an outline come from

Whatever stands in an outline was written by a line: a name of a class by a class header, unless it
is the name of the default class, a field and a statement by a line of its own, and a method by
the line of its header and the lines of its body. What holds of all lines therefore tells what the
parts of every class look like.
-/

namespace Pseudocode

/-- A name as headers write it: word characters, at least one. -/
def Text.IsWord (t : Text) : Prop := t ≠ [] ∧ ∀ c ∈ t, Text.isWordChar c = true

instance (t : Text) : Decidable t.IsWord :=
  inferInstanceAs (Decidable (t ≠ [] ∧ ∀ c ∈ t, Text.isWordChar c = true))

namespace ClassHeader

lemma isWord_parent_of_ofNames? {t parent : Text} {header : ClassHeader}
    (h : ofNames? t = some header) (hparent : header.parent = some parent) : parent.IsWord := by
  unfold ofNames? at h
  split at h
  · simp at h
  · rw [← Option.some.inj h] at hparent
    simp at hparent
  · split at h
    · split at h
      · rename_i c word hspan
        rw [← Option.some.inj h] at hparent
        rw [← Option.some.inj hparent]
        refine ⟨List.cons_ne_nil c word, fun d hd => ?_⟩
        rw [Text.spanWord, List.span_eq_takeWhile_dropWhile] at hspan
        have hword := (Prod.mk.inj hspan).1
        rw [← hword] at hd
        exact List.mem_takeWhile_imp hd
      · simp at h
    · simp at h

lemma isWord_of_ofLine? {line : Text} {header : ClassHeader} (h : ofLine? line = some header) :
    header.name.IsWord ∧ ∀ parent ∈ header.parent, Text.IsWord parent := by
  obtain ⟨-, _, _, -, -, hnames⟩ := ofLine?_eq_some_iff.mp h
  exact ⟨word_of_ofLine? h, fun parent hparent => isWord_parent_of_ofNames? hnames hparent⟩

end ClassHeader

lemma Line.subset_of_methodHeader {line header : Text} (h : Line.methodHeader? line = some header) :
    header ⊆ line := by
  obtain ⟨rest, hafter, rfl⟩ := Option.map_eq_some_iff.mp h
  obtain ⟨head, rfl, -⟩ := Keyword.append_of_after? hafter
  exact fun c hc => List.mem_append_right head (Text.mem_of_mem_trim hc)

/-! ### What lines write -/

section

variable (book : Rulebook) (defaultClass : Text) (isLine : Text → Prop)

/-- A statement that a line of the given kind becomes. -/
def IsStatementOf (statement : Text) : Prop := ∃ line, isLine line ∧ statement = book.convert line

/-- The name of a class that a text can mention. -/
def IsClassName (name : Text) : Prop := name = defaultClass ∨ name.IsWord

/-- A method of the class `owner` with its header and its statements from lines of the given
kind. -/
structure Method.IsFrom (owner : Text) (m : Method) : Prop where
  signature : ∃ line header : Text, isLine line ∧ header ⊆ line ∧
    m.signature = .ofHeader owner header
  body : ∀ s ∈ m.body, IsStatementOf book isLine s

/-- A class with all that it has from lines of the given kind. -/
structure ClassOutline.IsFrom (c : ClassOutline) : Prop where
  name : IsClassName defaultClass c.name
  parent : ∀ p ∈ c.parent, Text.IsWord p
  fields : ∀ f ∈ c.fields, ∃ line, isLine line ∧ f = .ofLine line
  methods : ∀ m ∈ c.methods, m.IsFrom book isLine c.name
  statements : ∀ s ∈ c.statements, IsStatementOf book isLine s

/-- A change to the class of the given name that a line of the given kind makes. -/
inductive Change.IsFrom (name : Text) : Change → Prop
  | parent {p : Option Text} (h : ∀ q ∈ p, Text.IsWord q) : IsFrom name (.parent p)
  | field {line : Text} (h : isLine line) : IsFrom name (.field (.ofLine line))
  | method {m : Method} (h : m.IsFrom book isLine name) : IsFrom name (.method m)
  | statement {s : Text} (h : IsStatementOf book isLine s) : IsFrom name (.statement s)

structure Edit.IsFrom (e : Edit) : Prop where
  name : IsClassName defaultClass e.name
  change : e.change.IsFrom book isLine e.name

/-- A place with its class and its open method from lines of the given kind. -/
def Place.IsFrom : Place → Prop
  | outside => True
  | inClass name => IsClassName defaultClass name
  | inMethod name signature body =>
    IsClassName defaultClass name ∧ Method.IsFrom book isLine name ⟨signature, body⟩

end

variable {book : Rulebook} {defaultClass : Text} {isLine : Text → Prop}

/-! ### Edits of classes -/

namespace Outline

/-- What holds of bare classes and is kept by the given edits holds of the classes they make. -/
lemma forall_mem_replay {P : ClassOutline → Prop} {edits : List Edit}
    (hbare : ∀ e ∈ edits, P (.bare e.name none))
    (happly : ∀ e ∈ edits, ∀ c, c.name = e.name → P c → P (e.change.apply c))
    {o : Outline} (ho : ∀ c ∈ o.classes, P c) : ∀ c ∈ (o.replay edits).classes, P c := by
  induction edits generalizing o with
  | nil => exact ho
  | cons e rest ih =>
    obtain ⟨hfirst, hrest⟩ := List.forall_mem_cons.mp hbare
    obtain ⟨happly, hlater⟩ := List.forall_mem_cons.mp happly
    refine ih hrest hlater fun c hc => ?_
    rcases mem_updateIn hc with hc | ⟨d, hd, hname, rfl⟩
    · exact ho c hc
    · refine happly d hname ?_
      rcases hd with hd | rfl
      · exact ho d hd
      · exact hfirst

end Outline

lemma ClassOutline.isFrom_bare {name : Text} (h : IsClassName defaultClass name) :
    (bare name none).IsFrom book defaultClass isLine := by
  refine ⟨h, ?_, ?_, ?_, ?_⟩ <;> simp [bare]

lemma ClassOutline.IsFrom.apply {c : ClassOutline} {change : Change}
    (h : c.IsFrom book defaultClass isLine) (hchange : change.IsFrom book isLine c.name) :
    (change.apply c).IsFrom book defaultClass isLine := by
  cases hchange with
  | @parent p hp =>
    refine ⟨h.name, fun q hq => ?_, h.fields, h.methods, h.statements⟩
    have hor : c.parent.or p = some q := hq
    rcases Option.or_eq_some_iff.mp hor with hq | ⟨-, hq⟩
    · exact h.parent q hq
    · exact hp q hq
  | @field line hline =>
    rw [Change.apply, addField_eq]
    refine ⟨h.name, h.parent, fun f hf => ?_, h.methods, h.statements⟩
    rcases (mem_foldl_offer c.fields [.ofLine line] f).mp hf with hf | hf
    · exact h.fields f hf
    · exact ⟨line, hline, List.mem_singleton.mp hf⟩
  | @method m hm =>
    refine ⟨h.name, h.parent, h.fields, fun m' hm' => ?_, h.statements⟩
    rcases List.mem_append.mp hm' with hm' | hm'
    · exact h.methods m' hm'
    · exact List.mem_singleton.mp hm' ▸ hm
  | @statement s hs =>
    refine ⟨h.name, h.parent, h.fields, h.methods, fun t ht => ?_⟩
    rcases List.mem_append.mp ht with ht | ht
    · exact h.statements t ht
    · exact List.mem_singleton.mp ht ▸ hs

/-! ### Edits of lines -/

namespace Place

lemma IsFrom.isClassName {place : Place} (h : place.IsFrom book defaultClass isLine) :
    IsClassName defaultClass (place.className defaultClass) := by
  cases place with
  | outside => exact .inl rfl
  | inClass name => exact h
  | inMethod name signature body => exact h.1

lemma isFrom_of_mem_entry {place : Place} {e : Edit} (he : e ∈ place.entry defaultClass) :
    e.IsFrom book defaultClass isLine := by
  cases place with
  | outside =>
    rw [List.mem_singleton.mp he]
    exact ⟨.inl rfl, .parent (by simp)⟩
  | inClass | inMethod => exact absurd he List.not_mem_nil

/-- A line of the given kind makes edits of this kind and leads to a place of this kind. -/
lemma Moves.isFrom {place next : Place} {line : Text} {edits : List Edit}
    (h : Moves book defaultClass place line edits next) (hline : isLine line)
    (hplace : place.IsFrom book defaultClass isLine) :
    (∀ e ∈ edits, e.IsFrom book defaultClass isLine) ∧ next.IsFrom book defaultClass isLine := by
  have hname := hplace.isClassName
  cases h with
  | blank => exact ⟨fun e he => absurd he List.not_mem_nil, hplace⟩
  | @classHeader _ _ header h =>
    obtain ⟨hword, hparent⟩ := ClassHeader.isWord_of_ofLine? h
    refine ⟨fun e he => ?_, .inr hword⟩
    rw [List.mem_singleton.mp he]
    exact ⟨.inr hword, .parent hparent⟩
  | @methodHeader _ _ header h =>
    refine ⟨fun e he => isFrom_of_mem_entry he, hname, ?_, fun s hs => absurd hs List.not_mem_nil⟩
    exact ⟨line, header, hline, Line.subset_of_methodHeader h, rfl⟩
  | bareHeader _ _ _ h =>
    refine ⟨fun e he => isFrom_of_mem_entry he, hname, ?_, fun s hs => absurd hs List.not_mem_nil⟩
    exact ⟨line, line, hline, fun _ hc => hc, (Signature.ofHeader_eq_of_ofLine? h).symm⟩
  | content =>
    refine ⟨fun e he => ?_, hname⟩
    rcases List.mem_append.mp he with he | he
    · exact isFrom_of_mem_entry he
    · rw [List.mem_singleton.mp he]
      refine ⟨hname, ?_⟩
      unfold Line.content
      split_ifs
      · exact .field hline
      · exact .statement ⟨line, hline, rfl⟩
  | close name signature body =>
    refine ⟨fun e he => ?_, hname⟩
    rw [List.mem_singleton.mp he]
    exact ⟨hname, .method hplace.2⟩
  | body name signature body =>
    refine ⟨fun e he => absurd he List.not_mem_nil, hname, hplace.2.signature, fun s hs => ?_⟩
    rcases List.mem_append.mp hs with hs | hs
    · exact hplace.2.body s hs
    · exact ⟨line, hline, List.mem_singleton.mp hs⟩

lemma isFrom_log {place : Place} {lines : List Text}
    (hlines : ∀ line ∈ lines, isLine (Text.trim line))
    (hplace : place.IsFrom book defaultClass isLine) :
    (∀ e ∈ log book defaultClass place lines, e.IsFrom book defaultClass isLine) ∧
      (reach book defaultClass place lines).IsFrom book defaultClass isLine := by
  induction lines generalizing place with
  | nil => exact ⟨fun e he => absurd he List.not_mem_nil, hplace⟩
  | cons line rest ih =>
    obtain ⟨hline, hrest⟩ := List.forall_mem_cons.mp hlines
    obtain ⟨hedits, hnext⟩ :=
      (moves_move book defaultClass place (Text.trim line)).isFrom hline hplace
    obtain ⟨hlog, hreach⟩ := ih hrest hnext
    refine ⟨fun e he => ?_, hreach⟩
    rcases List.mem_append.mp he with he | he
    · exact hedits e he
    · exact hlog e he

end Place

lemma Outline.isFrom_ofLines {lines : List Text}
    (hlines : ∀ line ∈ lines, isLine (Text.trim line)) :
    ∀ c ∈ (ofLines book defaultClass lines).classes, c.IsFrom book defaultClass isLine := by
  have hstart : Place.outside.IsFrom book defaultClass isLine := trivial
  obtain ⟨hlog, -⟩ := Place.isFrom_log hlines hstart
  rw [ofLines_eq_replay]
  refine forall_mem_replay (fun e he => ClassOutline.isFrom_bare (hlog e he).name)
    (fun e he c hname hc => hc.apply ?_) (fun c hc => absurd hc List.not_mem_nil)
  rw [hname]
  exact (hlog e he).change

/-- Every class of a conversion has its parts from lines of the kind that all lines, trimmed, are
of. -/
theorem Converter.isFrom_convertLines (c : Converter) {lines : List Text}
    (hlines : ∀ line ∈ lines, isLine (Text.trim line)) :
    ∀ cls ∈ (c.convertLines lines).outline.classes, cls.IsFrom c.book c.defaultClass isLine := by
  intro cls hcls
  cases hmode : Mode.ofLines lines with
  | procedural =>
    rw [convertLines, hmode] at hcls
    rw [List.mem_singleton.mp hcls]
    refine ⟨.inl rfl, by simp [ClassOutline.bare], by simp [ClassOutline.bare],
      by simp [ClassOutline.bare], fun s hs => ?_⟩
    obtain ⟨line, hline, rfl⟩ := List.mem_map.mp hs
    exact ⟨Text.trim line, hlines line hline, rfl⟩
  | structural =>
    rw [convertLines, hmode] at hcls
    exact Outline.isFrom_ofLines hlines cls hcls

end Pseudocode
