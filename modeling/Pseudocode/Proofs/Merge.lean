import Pseudocode.Proofs.Edit

/-!
# Merging outlines

To merge an outline into another is to edit the other as if each class of the first were
written there again. For outlines that were themselves made by edits nothing is lost by
looking at the outline alone: merging it is replaying those edits.
-/

namespace Pseudocode
namespace ClassOutline

/-- The changes that make a class of its name: its parent is given, its fields are offered in
order, and its methods and statements are added in order. -/
def changes (c : ClassOutline) : List Change :=
  .parent c.parent :: c.fields.map .field ++ c.methods.map .method ++ c.statements.map .statement

def applyAll (c : ClassOutline) (changes : List Change) : ClassOutline :=
  changes.foldl (fun d change => change.apply d) c

def offer (fields : List FieldEntry) (entry : FieldEntry) : List FieldEntry :=
  if entry ∈ fields then fields else fields ++ [entry]

lemma addField_eq (c : ClassOutline) (entry : FieldEntry) :
    c.addField entry = { c with fields := offer c.fields entry } := by
  unfold addField offer
  split <;> rfl

lemma mem_foldl_offer (fields entries : List FieldEntry) (entry : FieldEntry) :
    entry ∈ entries.foldl offer fields ↔ entry ∈ fields ∨ entry ∈ entries := by
  induction entries generalizing fields with
  | nil => simp
  | cons e rest ih =>
    rw [List.foldl_cons, ih, offer]
    split
    · grind
    · simp [or_assoc]

@[simp] lemma applyAll_nil (c : ClassOutline) : c.applyAll [] = c := rfl

@[simp] lemma applyAll_cons (c : ClassOutline) (change : Change) (rest : List Change) :
    c.applyAll (change :: rest) = (change.apply c).applyAll rest := rfl

lemma applyAll_append (c : ClassOutline) (first second : List Change) :
    c.applyAll (first ++ second) = (c.applyAll first).applyAll second :=
  List.foldl_append

@[simp] lemma name_applyAll (c : ClassOutline) (changes : List Change) :
    (c.applyAll changes).name = c.name := by
  induction changes generalizing c with
  | nil => rfl
  | cons change rest ih => rw [applyAll_cons, ih, Change.name_apply]

lemma applyAll_fields (c : ClassOutline) (entries : List FieldEntry) :
    c.applyAll (entries.map .field) = { c with fields := entries.foldl offer c.fields } := by
  induction entries generalizing c with
  | nil => rfl
  | cons entry rest ih =>
    rw [List.map_cons, applyAll_cons, Change.apply, addField_eq, ih]
    rfl

lemma applyAll_methods (c : ClassOutline) (methods : List Method) :
    c.applyAll (methods.map .method) = { c with methods := c.methods ++ methods } := by
  induction methods generalizing c with
  | nil => simp
  | cons m rest ih =>
    rw [List.map_cons, applyAll_cons, Change.apply, addMethod, ih]
    simp only [List.append_assoc, List.singleton_append]

lemma applyAll_statements (c : ClassOutline) (statements : List Text) :
    c.applyAll (statements.map .statement) =
      { c with statements := c.statements ++ statements } := by
  induction statements generalizing c with
  | nil => simp
  | cons text rest ih =>
    rw [List.map_cons, applyAll_cons, Change.apply, addStatement, ih]
    simp only [List.append_assoc, List.singleton_append]

lemma applyAll_changes (d c : ClassOutline) :
    d.applyAll c.changes =
      ⟨d.name, d.parent.or c.parent, c.fields.foldl offer d.fields, d.methods ++ c.methods,
        d.statements ++ c.statements⟩ := by
  rw [changes, applyAll_append, applyAll_append, applyAll_cons, applyAll_fields, applyAll_methods,
    applyAll_statements]
  rfl

/-- To add the contents of a changed class to another class is to add the contents of the class
first and then to make the change. -/
lemma applyAll_changes_apply (d c : ClassOutline) (change : Change) :
    d.applyAll (change.apply c).changes = change.apply (d.applyAll c.changes) := by
  rw [applyAll_changes, applyAll_changes]
  cases change with
  | parent name => simp only [Change.apply, withParent, Option.or_assoc]
  | field entry =>
    simp only [Change.apply, addField_eq]
    by_cases h : entry ∈ c.fields
    · have hd : entry ∈ c.fields.foldl offer d.fields := (mem_foldl_offer _ _ _).mpr (.inr h)
      simp only [offer, if_pos h, if_pos hd]
    · have hc : offer c.fields entry = c.fields ++ [entry] := if_neg h
      rw [hc, List.foldl_append, List.foldl_cons, List.foldl_nil]
  | method m => simp only [Change.apply, addMethod, List.append_assoc]
  | statement text => simp only [Change.apply, addStatement, List.append_assoc]

end ClassOutline

namespace Outline

/-- The edits that write the given classes again, one class after the other. -/
def editsOf (classes : List ClassOutline) : List Edit :=
  classes.flatMap fun c => c.changes.map (Edit.mk c.name)

/-- The outline with the contents of another: for each class of the other in turn, its name is
declared with its parent, its fields are offered and its methods and statements are added. -/
def merge (o other : Outline) : Outline := o.replay (editsOf other.classes)

lemma replay_map_mk (o : Outline) (name : Text) (change : Change) (rest : List Change) :
    o.replay ((change :: rest).map (Edit.mk name)) =
      o.update name (·.applyAll (change :: rest)) := by
  induction rest generalizing o change with
  | nil => rfl
  | cons next rest ih =>
    rw [List.map_cons, replay_cons, ih, apply, update, update,
      updateIn_updateIn (Change.name_apply change)]
    rfl

lemma replay_editsOf_cons (o : Outline) (c : ClassOutline) (rest : List ClassOutline) :
    o.replay (editsOf (c :: rest)) =
      (o.update c.name (·.applyAll c.changes)).replay (editsOf rest) := by
  rw [editsOf, List.flatMap_cons, replay_append]
  exact congrArg (replay · (editsOf rest)) (replay_map_mk o c.name _ _)

lemma name_ne_of_mem_editsOf {name : Text} {classes : List ClassOutline}
    (h : name ∉ classes.map (·.name)) : ∀ e ∈ editsOf classes, name ≠ e.name := by
  intro e he
  obtain ⟨c, hc, hmap⟩ := List.mem_flatMap.mp he
  obtain ⟨change, -, rfl⟩ := List.mem_map.mp hmap
  exact fun hname => h (List.mem_map.mpr ⟨c, hc, hname.symm⟩)

lemma update_applyAll_changes_apply (o : Outline) (c : ClassOutline) (change : Change) :
    o.update c.name (·.applyAll (change.apply c).changes) =
      (o.update c.name (·.applyAll c.changes)).apply ⟨c.name, change⟩ := by
  simp only [ClassOutline.applyAll_changes_apply, apply, update]
  rw [updateIn_updateIn (f := (·.applyAll c.changes)) (fun d => d.name_applyAll c.changes)]
  rfl

lemma mem_names_update_applyAll (o : Outline) (name : Text) (changes : List Change) :
    name ∈ (o.update name (·.applyAll changes)).names := by
  have h := map_name_updateIn (n := name) (f := (·.applyAll changes))
    (fun d => d.name_applyAll changes) o.classes
  simp only [names, update]
  rw [h]
  split
  · assumption
  · simp

lemma replay_editsOf_updateIn (o : Outline) (e : Edit) {classes : List ClassOutline}
    (h : (classes.map (·.name)).Nodup) :
    o.replay (editsOf (updateIn e.name e.change.apply classes)) =
      (o.replay (editsOf classes)).apply e := by
  induction classes generalizing o with
  | nil =>
    -- writing a new class declares it without a parent before it is changed
    have hbare := update_applyAll_changes_apply o (.bare e.name none) e.change
    have hdeclare := apply_declare o e
    rw [updateIn, replay_editsOf_cons]
    simp only [Change.name_apply]
    exact hbare.trans hdeclare
  | cons c rest ih =>
    obtain ⟨hc, hrest⟩ := List.nodup_cons.mp h
    by_cases hname : c.name = e.name
    · rw [updateIn, if_pos hname, replay_editsOf_cons, replay_editsOf_cons, Change.name_apply,
        update_applyAll_changes_apply, hname]
      -- the classes after this one have other names, so the edit may wait for them
      exact replay_apply_comm (mem_names_update_applyAll o e.name c.changes)
        (name_ne_of_mem_editsOf (hname ▸ hc))
    · rw [updateIn, if_neg hname, replay_editsOf_cons, replay_editsOf_cons, ih _ hrest]

/-- Merging an outline made by edits is making these edits. -/
theorem merge_replay (o : Outline) (edits : List Edit) :
    o.merge (empty.replay edits) = o.replay edits := by
  -- from the end, since the last edit is the one that changes the finished outline
  induction edits using List.reverseRecOn with
  | nil => rfl
  | append_singleton edits e ih =>
    have h : (empty.replay edits).names.Nodup :=
      nodup_names_replay (o := empty) List.nodup_nil edits
    rw [replay_append, replay_append, ← ih]
    exact replay_editsOf_updateIn o e h

end Outline
end Pseudocode
