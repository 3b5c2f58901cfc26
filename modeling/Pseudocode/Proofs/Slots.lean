import Pseudocode.Conversion
import Pseudocode.Proofs.ScanLog
import Mathlib.Data.List.Perm.Subperm

/-!
# Slots for statements

The rules decide what a statement says, and nothing else. Whatever they are, a text has one
outline of slots, each of which holds a line, and the outline under given rules is this one
with every line converted.
-/

namespace Pseudocode

/-! ### Outlines with other statements -/

def Method.mapBody (f : Text → Text) (m : Method) : Method := { m with body := m.body.map f }

namespace ClassOutline

def mapStatements (f : Text → Text) (c : ClassOutline) : ClassOutline :=
  { c with methods := c.methods.map (·.mapBody f), statements := c.statements.map f }

/-- The statements of a class, in its methods and in its entry point. -/
def texts (c : ClassOutline) : List Text := c.methods.flatMap (·.body) ++ c.statements

end ClassOutline

namespace Change

def mapStatements (f : Text → Text) : Change → Change
  | parent name => parent name
  | field entry => field entry
  | method m => method (m.mapBody f)
  | statement text => statement (f text)

/-- The statements that a change adds. -/
def texts : Change → List Text
  | parent _ | field _ => []
  | method m => m.body
  | statement text => [text]

variable (f : Text → Text)

lemma apply_mapStatements (change : Change) (c : ClassOutline) :
    (change.apply c).mapStatements f = (change.mapStatements f).apply (c.mapStatements f) := by
  cases change with
  | parent name => rfl
  | field entry =>
    by_cases h : entry ∈ c.fields
    · simp [apply, mapStatements, ClassOutline.addField, ClassOutline.mapStatements, h]
    · simp [apply, mapStatements, ClassOutline.addField, ClassOutline.mapStatements, h]
  | method m => simp [apply, mapStatements, ClassOutline.addMethod, ClassOutline.mapStatements]
  | statement text =>
    simp [apply, mapStatements, ClassOutline.addStatement, ClassOutline.mapStatements]

lemma texts_apply (change : Change) (c : ClassOutline) :
    (change.apply c).texts.Perm (c.texts ++ change.texts) := by
  cases change with
  | parent name => simp [apply, texts, ClassOutline.withParent, ClassOutline.texts]
  | field entry =>
    by_cases h : entry ∈ c.fields
    · simp [apply, texts, ClassOutline.addField, ClassOutline.texts, h]
    · simp [apply, texts, ClassOutline.addField, ClassOutline.texts, h]
  | method m =>
    have hperm : (m.body ++ c.statements).Perm (c.statements ++ m.body) := List.perm_append_comm
    have hall := hperm.append_left (c.methods.flatMap (·.body))
    simpa [apply, texts, ClassOutline.addMethod, ClassOutline.texts] using hall
  | statement text => simp [apply, texts, ClassOutline.addStatement, ClassOutline.texts]

end Change

def Edit.mapStatements (f : Text → Text) (e : Edit) : Edit := ⟨e.name, e.change.mapStatements f⟩

namespace Outline

def mapStatements (f : Text → Text) (o : Outline) : Outline :=
  ⟨o.classes.map (·.mapStatements f)⟩

/-- The statements of all classes. -/
def texts (o : Outline) : List Text := o.classes.flatMap (·.texts)

/-- All that an outline says apart from what its statements are: their places stay, empty. -/
def frame (o : Outline) : Outline := o.mapStatements fun _ => []

lemma mapStatements_mapStatements (f g : Text → Text) (o : Outline) :
    (o.mapStatements f).mapStatements g = o.mapStatements (g ∘ f) := by
  simp [mapStatements, ClassOutline.mapStatements, Method.mapBody]

lemma map_updateIn {F G h : ClassOutline → ClassOutline} {name : Text}
    (hname : ∀ c, (h c).name = c.name) (hbare : h (.bare name none) = .bare name none)
    (hcomm : ∀ c, h (F c) = G (h c)) (cs : List ClassOutline) :
    (updateIn name F cs).map h = updateIn name G (cs.map h) := by
  induction cs with
  | nil => simp [updateIn, hcomm, hbare]
  | cons c rest ih =>
    by_cases hc : c.name = name
    · simp [updateIn, hc, hname, hcomm]
    · simp [updateIn, hc, hname, ih]

lemma apply_mapStatements (f : Text → Text) (o : Outline) (e : Edit) :
    (o.apply e).mapStatements f = (o.mapStatements f).apply (e.mapStatements f) := by
  have hname (c : ClassOutline) : (c.mapStatements f).name = c.name := rfl
  have hcomm := e.change.apply_mapStatements f
  exact congrArg Outline.mk (map_updateIn hname rfl hcomm o.classes)

lemma replay_mapStatements (f : Text → Text) (o : Outline) (edits : List Edit) :
    (o.replay edits).mapStatements f =
      (o.mapStatements f).replay (edits.map (·.mapStatements f)) := by
  induction edits generalizing o with
  | nil => rfl
  | cons e rest ih => rw [replay_cons, ih, apply_mapStatements, List.map_cons, replay_cons]

lemma texts_apply (o : Outline) (e : Edit) :
    (o.apply e).texts.Perm (o.texts ++ e.change.texts) := by
  obtain ⟨classes⟩ := o
  induction classes with
  | nil =>
    have hbare := e.change.texts_apply (.bare e.name none)
    simpa [apply, update, updateIn, texts, ClassOutline.texts, ClassOutline.bare] using hbare
  | cons c rest ih =>
    by_cases hc : c.name = e.name
    · have hclass := (e.change.texts_apply c).append_right (rest.flatMap (·.texts))
      have hrest : (e.change.texts ++ rest.flatMap (·.texts)).Perm
          (rest.flatMap (·.texts) ++ e.change.texts) := List.perm_append_comm
      simp only [apply, update, updateIn, if_pos hc, texts, List.flatMap_cons]
      rw [List.append_assoc] at hclass ⊢
      exact hclass.trans (hrest.append_left c.texts)
    · simp only [apply, update, updateIn, if_neg hc, texts, List.flatMap_cons] at ih ⊢
      rw [List.append_assoc]
      exact ih.append_left c.texts

lemma texts_replay (o : Outline) (edits : List Edit) :
    (o.replay edits).texts.Perm (o.texts ++ edits.flatMap (·.change.texts)) := by
  induction edits generalizing o with
  | nil => simp
  | cons e rest ih =>
    have hfirst := (o.texts_apply e).append_right (rest.flatMap (·.change.texts))
    rw [replay_cons, List.flatMap_cons, ← List.append_assoc]
    exact (ih (o.apply e)).trans hfirst

end Outline

/-! ### The slots of a log -/

namespace Place

def mapStatements (f : Text → Text) : Place → Place
  | inMethod name signature body => inMethod name signature (body.map f)
  | place => place

/-- The statements of the open method. -/
def texts : Place → List Text
  | inMethod _ _ body => body
  | _ => []

variable {defaultClass : Text} (f : Text → Text)

@[simp] lemma className_mapStatements (place : Place) :
    (place.mapStatements f).className defaultClass = place.className defaultClass := by
  cases place <;> rfl

@[simp] lemma isOpen_mapStatements (place : Place) :
    (place.mapStatements f).isOpen = place.isOpen := by
  cases place <;> rfl

@[simp] lemma entry_mapStatements (place : Place) :
    (place.mapStatements f).entry defaultClass = place.entry defaultClass := by
  cases place <;> rfl

lemma entry_map_mapStatements (place : Place) :
    (place.entry defaultClass).map (·.mapStatements f) = place.entry defaultClass := by
  cases place <;> rfl

lemma texts_entry (place : Place) :
    (place.entry defaultClass).flatMap (·.change.texts) = [] := by
  cases place <;> rfl

/-- What a trimmed line that is no header says of its class, with the line for the statement. -/
def slot (line : Text) : Change :=
  if Line.isField line then .field (.ofLine line) else .statement line

lemma content_eq_slot (book : Rulebook) (line : Text) :
    Line.content book line = (slot line).mapStatements book.convert := by
  unfold Line.content slot
  split <;> rfl

lemma texts_slot (line : Text) : (slot line).texts.Sublist [line] := by
  unfold slot
  split
  · exact List.nil_sublist _
  · exact List.Sublist.refl _

variable (defaultClass) in
/-- Under all rules a line makes the same move, up to what the statements are. As slots these
are lines of the open method or the line itself, each of them once. -/
lemma exists_slots_move (place : Place) (line : Text) :
    ∃ (edits : List Edit) (next : Place),
      (edits.flatMap (·.change.texts) ++ next.texts).Sublist (place.texts ++ [line]) ∧
        ∀ book : Rulebook, Moves book defaultClass (place.mapStatements book.convert) line
          (edits.map (·.mapStatements book.convert)) (next.mapStatements book.convert) := by
  -- which rule applies to the line does not depend on the rulebook
  obtain ⟨_, _, hmove⟩ := exists_moves .empty defaultClass place line
  cases hmove with
  | blank =>
    refine ⟨[], place, List.sublist_append_left place.texts [[]], fun book => ?_⟩
    exact .blank (place.mapStatements book.convert)
  | @classHeader _ _ header h =>
    refine ⟨[⟨header.name, .parent header.parent⟩], .inClass header.name, List.nil_sublist _,
      fun book => ?_⟩
    exact .classHeader (place.mapStatements book.convert) h
  | @methodHeader _ _ header h =>
    let name := place.className defaultClass
    refine ⟨place.entry defaultClass, .inMethod name (.ofHeader name header) [], ?_, fun book => ?_⟩
    · rw [texts_entry]
      exact List.nil_sublist _
    · have hbook : Moves book defaultClass _ line _ _ :=
        .methodHeader (place.mapStatements book.convert) h
      rw [entry_mapStatements, className_mapStatements] at hbook
      rw [entry_map_mapStatements]
      exact hbook
  | @bareHeader _ _ signature hplace hclass hmethod h =>
    refine ⟨place.entry defaultClass, .inMethod (place.className defaultClass) signature [], ?_,
      fun book => ?_⟩
    · rw [texts_entry]
      exact List.nil_sublist _
    · rw [← isOpen_mapStatements book.convert] at hplace
      rw [← className_mapStatements book.convert] at h
      have hbook : Moves book defaultClass _ line _ _ := .bareHeader hplace hclass hmethod h
      rw [entry_mapStatements, className_mapStatements] at hbook
      rw [entry_map_mapStatements]
      exact hbook
  | content hplace hne hclass hmethod h =>
    let name := place.className defaultClass
    refine ⟨place.entry defaultClass ++ [⟨name, slot line⟩], .inClass name, ?_, fun book => ?_⟩
    · have hslot : (slot line).texts.Sublist (place.texts ++ [line]) :=
        (texts_slot line).trans (List.sublist_append_right place.texts [line])
      rw [List.flatMap_append, texts_entry, List.nil_append, List.flatMap_singleton]
      exact (List.append_nil _).symm ▸ hslot
    · rw [← isOpen_mapStatements book.convert] at hplace
      rw [← className_mapStatements book.convert] at h
      have hbook : Moves book defaultClass _ line _ _ := .content hplace hne hclass hmethod h
      rw [entry_mapStatements, className_mapStatements, content_eq_slot] at hbook
      rw [List.map_append, entry_map_mapStatements]
      exact hbook
  | close name signature body h =>
    refine ⟨[⟨name, .method ⟨signature, body⟩⟩], .inClass name, ?_, fun book => ?_⟩
    · simp [Change.texts, texts]
    · exact .close name signature (body.map book.convert) h
  | body name signature body hne h =>
    refine ⟨[], .inMethod name signature (body ++ [line]), List.Sublist.refl _, fun book => ?_⟩
    have hbook : Moves book defaultClass _ line _ _ :=
      .body name signature (body.map book.convert) hne h
    rw [← List.map_singleton, ← List.map_append] at hbook
    exact hbook

variable (defaultClass) in
lemma exists_slots_log (place : Place) (lines : List Text) :
    ∃ edits : List Edit,
      (edits.flatMap (·.change.texts)).Sublist (place.texts ++ lines.map Text.trim) ∧
        ∀ book : Rulebook, log book defaultClass (place.mapStatements book.convert) lines =
          edits.map (·.mapStatements book.convert) := by
  induction lines generalizing place with
  | nil => exact ⟨[], List.nil_sublist _, fun _ => rfl⟩
  | cons line rest ih =>
    obtain ⟨edits, next, hfirst, hmoves⟩ := exists_slots_move defaultClass place (Text.trim line)
    obtain ⟨later, hrest, hlog⟩ := ih next
    refine ⟨edits ++ later, ?_, fun book => ?_⟩
    · have hlater := (hrest.append_left (edits.flatMap (·.change.texts)))
      have hedits := hfirst.append_right (rest.map Text.trim)
      rw [List.append_assoc] at hedits
      rw [List.flatMap_append, List.map_cons]
      exact hlater.trans (by simpa using hedits)
    · rw [log, (hmoves book).move_eq, hlog, List.map_append]

end Place

namespace Outline

/-- What the outline of the given lines is under each rulebook comes from one outline of slots,
each of which holds a line of its own, trimmed: the line in every slot is converted. -/
def FillsSlots (lines : List Text) (outline : Rulebook → Outline) : Prop :=
  ∃ slots : Outline, slots.texts.Subperm (lines.map Text.trim) ∧
    ∀ book : Rulebook, outline book = slots.mapStatements book.convert

lemma FillsSlots.frame_eq {lines : List Text} {outline : Rulebook → Outline}
    (h : FillsSlots lines outline) (book other : Rulebook) :
    (outline book).frame = (outline other).frame := by
  obtain ⟨slots, -, hfill⟩ := h
  rw [hfill, hfill, frame, frame, mapStatements_mapStatements, mapStatements_mapStatements]
  rfl

lemma fillsSlots_ofLines (defaultClass : Text) (lines : List Text) :
    FillsSlots lines fun book => ofLines book defaultClass lines := by
  obtain ⟨edits, hsub, hlog⟩ := Place.exists_slots_log defaultClass .outside lines
  refine ⟨empty.replay edits, ?_, fun book => ?_⟩
  · have hperm : (empty.replay edits).texts.Perm (edits.flatMap (·.change.texts)) :=
      empty.texts_replay edits
    exact hperm.subperm.trans hsub.subperm
  · change ofLines book defaultClass lines = _
    rw [ofLines_eq_replay, replay_mapStatements, ← hlog]
    rfl

end Outline

lemma Converter.fillsSlots_outline (defaultClass indent : Text) (lines : List Text) :
    Outline.FillsSlots lines fun book =>
      ((Converter.mk book defaultClass indent).convertLines lines).outline := by
  cases hmode : Mode.ofLines lines with
  | procedural =>
    let c : ClassOutline := { ClassOutline.bare defaultClass none with
      statements := lines.map Text.trim }
    refine ⟨⟨[c]⟩, ?_, fun book => ?_⟩
    · have htexts : (Outline.mk [c]).texts = lines.map Text.trim := by
        simp [Outline.texts, ClassOutline.texts, c, ClassOutline.bare]
      exact htexts ▸ List.Subperm.refl _
    · simp [Converter.convertLines, hmode, Converter.proceduralOutline, Outline.mapStatements,
        ClassOutline.mapStatements, c, ClassOutline.bare]
  | structural =>
    have hparse := Outline.fillsSlots_ofLines defaultClass lines
    simpa [Converter.convertLines, hmode] using hparse

/-- The rules have no influence on structure, neither for the scan of a text nor for its
conversion. Two rulebooks give the same mode and the same outline with its statements left
empty, and every rulebook fills the slots of one outline with the lines it converts. -/
theorem Converter.convertLines_slots (defaultClass indent : Text) (lines : List Text) :
    Outline.FillsSlots lines (fun book => Outline.ofLines book defaultClass lines) ∧
      Outline.FillsSlots lines (fun book =>
        ((Converter.mk book defaultClass indent).convertLines lines).outline) ∧
      ∀ book other : Rulebook,
        (Outline.ofLines book defaultClass lines).frame =
            (Outline.ofLines other defaultClass lines).frame ∧
          ((Converter.mk book defaultClass indent).convertLines lines).outline.frame =
            ((Converter.mk other defaultClass indent).convertLines lines).outline.frame ∧
          ((Converter.mk book defaultClass indent).convertLines lines).mode =
            ((Converter.mk other defaultClass indent).convertLines lines).mode := by
  have hparse := Outline.fillsSlots_ofLines defaultClass lines
  have houtline := Converter.fillsSlots_outline defaultClass indent lines
  refine ⟨hparse, houtline, fun book other => ⟨hparse.frame_eq book other,
    houtline.frame_eq book other, ?_⟩⟩
  cases hmode : Mode.ofLines lines with
  | procedural | structural => simp [Converter.convertLines, hmode]

end Pseudocode
