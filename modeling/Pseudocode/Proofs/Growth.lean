import Pseudocode.Proofs.Layout
import Pseudocode.Proofs.Units
import Mathlib

/-!
# One more line

The edits that one line makes are changes to one class, and at most one of them adds something to
it. An outline therefore grows by a line in one place: a class comes last, or a parent, a field, a
method or a statement comes after all that its class had, and nothing else moves.
-/

namespace Pseudocode

/-- What a class has so far is the beginning of what it has later, and a parent stays. -/
structure ClassOutline.Grows (c c' : ClassOutline) : Prop where
  name : c'.name = c.name
  parent : c.parent = none ∨ c'.parent = c.parent
  fields : c.fields <+: c'.fields
  methods : c.methods <+: c'.methods
  statements : c.statements <+: c'.statements

def ClassOutline.size (c : ClassOutline) : Nat :=
  c.fields.length + c.methods.length + c.statements.length

def Outline.size (o : Outline) : Nat := (o.classes.map ClassOutline.size).sum

/-- The number of elements that a change adds to a class, if it is not refused. -/
def Change.size : Change → Nat
  | parent _ => 0
  | field _ | method _ | statement _ => 1

/-! ### Changes of one class -/

namespace ClassOutline

lemma Grows.refl (c : ClassOutline) : c.Grows c :=
  ⟨rfl, .inr rfl, List.prefix_refl _, List.prefix_refl _, List.prefix_refl _⟩

lemma Grows.trans {c d e : ClassOutline} (hcd : c.Grows d) (hde : d.Grows e) : c.Grows e := by
  refine ⟨hde.name.trans hcd.name, ?_, hcd.fields.trans hde.fields, hcd.methods.trans hde.methods,
    hcd.statements.trans hde.statements⟩
  rcases hcd.parent with hnone | hcd
  · exact .inl hnone
  · exact hde.parent.imp (fun hnone => hcd ▸ hnone) (fun heq => heq.trans hcd)

lemma grows_apply (c : ClassOutline) (change : Change) : c.Grows (change.apply c) := by
  cases change with
  | parent name =>
    refine ⟨rfl, ?_, List.prefix_refl _, List.prefix_refl _, List.prefix_refl _⟩
    cases hparent : c.parent with
    | none => exact .inl rfl
    | some p => simp [Change.apply, withParent, hparent]
  | field entry =>
    have hfields : c.fields <+: offer c.fields entry := by
      unfold offer
      split
      · exact List.prefix_refl _
      · exact List.prefix_append _ _
    rw [Change.apply, addField_eq]
    exact ⟨rfl, .inr rfl, hfields, List.prefix_refl _, List.prefix_refl _⟩
  | method m =>
    exact ⟨rfl, .inr rfl, List.prefix_refl _, List.prefix_append _ _, List.prefix_refl _⟩
  | statement text =>
    exact ⟨rfl, .inr rfl, List.prefix_refl _, List.prefix_refl _, List.prefix_append _ _⟩

lemma size_apply_le (c : ClassOutline) (change : Change) :
    (change.apply c).size ≤ c.size + change.size := by
  cases change with
  | parent name => exact Nat.le_refl _
  | field entry =>
    have hfields : (offer c.fields entry).length ≤ c.fields.length + 1 := by
      unfold offer
      split
      · exact Nat.le_succ _
      · exact (List.length_append ..).le
    simp only [Change.apply, addField_eq, size, Change.size]
    omega
  | method m =>
    simp only [Change.apply, addMethod, size, Change.size, List.length_append,
      List.length_singleton]
    omega
  | statement text =>
    simp only [Change.apply, addStatement, size, Change.size, List.length_append,
      List.length_singleton]
    omega

lemma grows_applyAll (c : ClassOutline) (changes : List Change) : c.Grows (c.applyAll changes) := by
  induction changes generalizing c with
  | nil => exact .refl c
  | cons change rest ih => exact (c.grows_apply change).trans (ih (change.apply c))

lemma size_applyAll_le (c : ClassOutline) (changes : List Change) :
    (c.applyAll changes).size ≤ c.size + (changes.map Change.size).sum := by
  induction changes generalizing c with
  | nil => exact Nat.le_refl _
  | cons change rest ih =>
    have hfirst := c.size_apply_le change
    have hrest := ih (change.apply c)
    rw [applyAll_cons, List.map_cons, List.sum_cons]
    omega

end ClassOutline

/-! ### Changes of one class in an outline -/

namespace Outline

/-- At most one class is changed or comes last: the outline `o'` is `o` with more in the class of
the given name. -/
structure GrowsAt (name : Text) (o o' : Outline) : Prop where
  names : o.names <+: o'.names
  length : o'.names.length ≤ o.names.length + 1
  classes : ∀ c ∈ o.classes, ∃ c', o'.find? c.name = some c' ∧ c.Grows c'
  others : ∀ c' ∈ o'.classes, c'.name ≠ name → c' ∈ o.classes

lemma GrowsAt.refl {o : Outline} (h : o.names.Nodup) (name : Text) : o.GrowsAt name o :=
  ⟨List.prefix_refl _, Nat.le_succ _, fun c hc => ⟨c, find?_eq_some_of_mem h hc, .refl c⟩,
    fun _ hc _ => hc⟩

variable {f : ClassOutline → ClassOutline} {name : Text}

lemma growsAt_update {o : Outline} (h : o.names.Nodup) (hf : ∀ c : ClassOutline, c.Grows (f c)) :
    o.GrowsAt name (o.update name f) := by
  have hname : ∀ c, (f c).name = c.name := fun c => (hf c).name
  have hnames : (o.update name f).names = if name ∈ o.names then o.names else o.names ++ [name] :=
    map_name_updateIn hname o.classes
  refine ⟨?_, ?_, fun c hc => ?_, fun c' hc' hne => ?_⟩
  · rw [hnames]
    split
    · exact List.prefix_refl _
    · exact List.prefix_append _ _
  · rw [hnames]
    split
    · exact Nat.le_succ _
    · simp
  · have hfind := find?_eq_some_of_mem h hc
    by_cases hc : c.name = name
    · have hupdated := find?_updateIn hname name o.classes
      rw [show o.classes.find? (·.name = name) = some c from hc ▸ hfind] at hupdated
      exact ⟨f c, hc ▸ hupdated, hf c⟩
    · exact ⟨c, (find?_updateIn_of_ne hname hc o.classes).trans hfind, .refl c⟩
  · rcases mem_updateIn hc' with hmem | ⟨c, -, hc, rfl⟩
    · exact hmem
    · exact absurd ((hname c).trans hc) hne

lemma size_update_le {size : Nat} (hf : ∀ c : ClassOutline, (f c).size ≤ c.size + size)
    (o : Outline) : (o.update name f).size ≤ o.size + size := by
  obtain ⟨classes⟩ := o
  induction classes with
  | nil =>
    simpa [update, updateIn, Outline.size, ClassOutline.size, ClassOutline.bare] using
      hf (.bare name none)
  | cons c rest ih =>
    by_cases hc : c.name = name
    · have hfirst := hf c
      simp only [update, updateIn, if_pos hc, Outline.size, List.map_cons, List.sum_cons]
      omega
    · simp only [update, updateIn, if_neg hc, Outline.size, List.map_cons, List.sum_cons] at ih ⊢
      omega

lemma growsAt_replay {o : Outline} (h : o.names.Nodup) (name : Text) (changes : List Change) :
    o.GrowsAt name (o.replay (changes.map (Edit.mk name))) ∧
      (o.replay (changes.map (Edit.mk name))).size ≤ o.size + (changes.map Change.size).sum := by
  cases changes with
  | nil => exact ⟨.refl h name, Nat.le_refl _⟩
  | cons change rest =>
    rw [replay_map_mk]
    exact ⟨growsAt_update h fun c => c.grows_applyAll _, size_update_le (fun c =>
      c.size_applyAll_le _) o⟩

end Outline

/-! ### The changes of one line -/

namespace Place

variable {book : Rulebook} {defaultClass : Text}

lemma exists_entry_eq (defaultClass : Text) (place : Place) : ∃ changes : List Change,
    place.entry defaultClass = changes.map (Edit.mk (place.className defaultClass)) ∧
      (changes.map Change.size).sum = 0 := by
  cases place with
  | outside => exact ⟨[.parent none], rfl, rfl⟩
  | inClass | inMethod => exact ⟨[], rfl, rfl⟩

/-- The edits of one line are changes to one class, and all but one of them add nothing. -/
lemma Moves.exists_changes {place next : Place} {line : Text} {edits : List Edit}
    (h : Moves book defaultClass place line edits next) :
    ∃ (name : Text) (changes : List Change), edits = changes.map (Edit.mk name) ∧
      (changes.map Change.size).sum ≤ 1 := by
  obtain ⟨entry, hentry, hsize⟩ := place.exists_entry_eq defaultClass
  cases h with
  | blank => exact ⟨[], [], rfl, Nat.zero_le _⟩
  | @classHeader _ _ header _ => exact ⟨header.name, [.parent header.parent], rfl, Nat.zero_le _⟩
  | methodHeader => exact ⟨_, entry, hentry, by omega⟩
  | bareHeader => exact ⟨_, entry, hentry, by omega⟩
  | content =>
    refine ⟨place.className defaultClass, entry ++ [Line.content book line], ?_, ?_⟩
    · rw [hentry, List.map_append, List.map_singleton]
    · have hone : (Line.content book line).size = 1 := by
        unfold Line.content
        split <;> rfl
      rw [List.map_append, List.sum_append, hsize, List.map_singleton, List.sum_singleton, hone]
  | close name signature body => exact ⟨name, [.method ⟨signature, body⟩], rfl, Nat.le_refl _⟩
  | body => exact ⟨[], [], rfl, Nat.zero_le _⟩

end Place

namespace Outline

variable (book : Rulebook) (defaultClass : Text)

lemma ofLines_concat (lines : List Text) (line : Text) :
    ofLines book defaultClass (lines ++ [line]) = (ofLines book defaultClass lines).replay
      ((Place.reach book defaultClass .outside lines).move book defaultClass
        (Text.trim line)).1 := by
  rw [ofLines_eq_replay, ofLines_eq_replay, Place.log_append, replay_append, Place.log, Place.log,
    List.append_nil]

/-- One more line changes at most one thing. The classes stay in their order and at most one comes
last; each class keeps its parent and what it has, to which more may come at the end; no more than
one class is changed or new, and no more than one element is added to all the classes together. A
blank line changes nothing. -/
theorem ofLines_oneMore (lines : List Text) (line : Text) :
    let o := ofLines book defaultClass lines
    let o' := ofLines book defaultClass (lines ++ [line])
    (o.names <+: o'.names ∧ o'.names.length ≤ o.names.length + 1) ∧
      (∀ c ∈ o.classes, ∃ c', o'.find? c.name = some c' ∧ c.Grows c') ∧
      (∃ name, ∀ c' ∈ o'.classes, c'.name ≠ name → c' ∈ o.classes) ∧
      o'.size ≤ o.size + 1 ∧
      (Text.isBlank line = true → o' = o) := by
  intro o o'
  let place := Place.reach book defaultClass .outside lines
  have hmove := Place.moves_move book defaultClass place (Text.trim line)
  have hnext : o' = o.replay (place.move book defaultClass (Text.trim line)).1 :=
    ofLines_concat book defaultClass lines line
  obtain ⟨name, changes, hedits, hsize⟩ := hmove.exists_changes
  obtain ⟨hgrows, hle⟩ := growsAt_replay (nodup_names_ofLines lines : o.names.Nodup) name changes
  rw [← hedits, ← hnext] at hgrows hle
  refine ⟨⟨hgrows.names, hgrows.length⟩, hgrows.classes, ⟨name, hgrows.others⟩,
    hle.trans (Nat.add_le_add_left hsize _), fun hblank => ?_⟩
  rw [hnext, (Text.trim_eq_nil_iff line).mpr hblank, (Place.Moves.blank place).move_eq, replay_nil]

theorem ofLines_oneMore_bark :
    let lines := ["class Dog", "int age", "bark()"].map String.toList
    let o := ofLines .empty "Main".toList lines
    let o' := ofLines .empty "Main".toList (lines ++ ["endfunction".toList])
    let dog : ClassOutline :=
      ⟨"Dog".toList, none, [.declared ⟨.owner, "int".toList, "age".toList⟩], [], []⟩
    (dog ∈ o.classes ∧ ∃ c', o'.find? dog.name = some c' ∧ dog.Grows c') ∧ o'.size ≤ o.size + 1 ∧
      Text.isBlank "\t".toList = true ∧
        ofLines .empty "Main".toList (lines ++ ["\t".toList]) = o := by
  intro lines o o' dog
  have hdog : dog ∈ o.classes := by decide
  obtain ⟨-, hclasses, -, hsize, -⟩ :=
    ofLines_oneMore .empty "Main".toList lines "endfunction".toList
  obtain ⟨-, -, -, -, hblank⟩ := ofLines_oneMore .empty "Main".toList lines "\t".toList
  exact ⟨⟨hdog, hclasses dog hdog⟩, hsize, by decide, hblank (by decide)⟩

end Outline
end Pseudocode
