import Pseudocode.Proofs.Mentions
import Pseudocode.Proofs.Merge

/-!
# An outline as a log of each class

An outline that operations have made from the empty one holds for each class what the operations on
that class say, in their order: the first parent, each field at its first offer, all methods and all
statements. Operations on other classes make no difference to it, so that operations on one class
alone decide what is known of it.
-/

namespace Pseudocode

/-! ### The changes of one class -/

namespace Change

def field? : Change → Option FieldEntry
  | field entry => some entry
  | _ => none

def method? : Change → Option Method
  | method m => some m
  | _ => none

def statement? : Change → Option Text
  | statement text => some text
  | _ => none

end Change

namespace ClassOutline

lemma foldl_offer_eq_eraseDups (entries : List FieldEntry) :
    entries.foldl offer [] = entries.eraseDups := by
  -- from the end, where the dedup of a list meets the entry that is offered last
  induction entries using List.reverseRecOn with
  | nil => rfl
  | append_singleton entries entry ih =>
    rw [List.foldl_append, List.foldl_cons, List.foldl_nil, ih, offer]
    by_cases h : entry ∈ entries
    · rw [if_pos (List.mem_eraseDups.mpr h), eraseDups_append_cons_of_mem h, List.append_nil]
    · rw [if_neg (mt List.mem_eraseDups.mp h), eraseDups_append_singleton_of_notMem h]

lemma applyAll_eq (c : ClassOutline) (changes : List Change) :
    c.applyAll changes =
      ⟨c.name, c.parent.or (changes.findSome? Change.parent?),
        (changes.filterMap Change.field?).foldl offer c.fields,
        c.methods ++ changes.filterMap Change.method?,
        c.statements ++ changes.filterMap Change.statement?⟩ := by
  induction changes generalizing c with
  | nil => simp
  | cons change rest ih =>
    rw [applyAll_cons, ih]
    cases change with
    | parent name =>
      have hparent : (c.parent.or name).or (rest.findSome? Change.parent?) =
          c.parent.or ((Change.parent name :: rest).findSome? Change.parent?) := by
        rw [Option.or_assoc, List.findSome?_cons]
        cases name <;> rfl
      rw [← hparent]
      rfl
    | field entry =>
      rw [Change.apply, addField_eq]
      rfl
    | method m =>
      rw [Change.apply, addMethod, List.append_assoc]
      rfl
    | statement text =>
      rw [Change.apply, addStatement, List.append_assoc]
      rfl

lemma applyAll_bare (name : Text) (changes : List Change) :
    (bare name none).applyAll changes =
      ⟨name, changes.findSome? Change.parent?, (changes.filterMap Change.field?).eraseDups,
        changes.filterMap Change.method?, changes.filterMap Change.statement?⟩ := by
  rw [applyAll_eq, ← foldl_offer_eq_eraseDups]
  rfl

end ClassOutline

/-- The changes that edits make to the class of the given name, in order. -/
def changesOf (name : Text) (edits : List Edit) : List Change :=
  (edits.filter (·.name = name)).map (·.change)

lemma mem_filterMap_field?_changesOf {name : Text} {entry : FieldEntry} {edits : List Edit} :
    entry ∈ (changesOf name edits).filterMap Change.field? ↔ ⟨name, .field entry⟩ ∈ edits := by
  rw [List.mem_filterMap]
  constructor
  · rintro ⟨change, hchange, hentry⟩
    obtain ⟨⟨owner, change⟩, hmem, rfl⟩ := List.mem_map.mp hchange
    obtain ⟨hedit, howner⟩ := List.mem_filter.mp hmem
    obtain rfl : owner = name := of_decide_eq_true howner
    cases change with
    | field offered =>
      obtain rfl : offered = entry := Option.some.inj hentry
      exact hedit
    | parent _ => cases hentry
    | method _ => cases hentry
    | statement _ => cases hentry
  · intro hedit
    exact ⟨.field entry, List.mem_map.mpr ⟨_, List.mem_filter.mpr ⟨hedit, decide_eq_true rfl⟩, rfl⟩,
      rfl⟩

namespace Outline

lemma find?_apply (o : Outline) (e : Edit) :
    (o.apply e).find? e.name = some (e.change.apply ((o.find? e.name).getD (.bare e.name none))) :=
  find?_updateIn e.change.name_apply e.name o.classes

lemma find?_apply_of_ne {name : Text} {e : Edit} (h : name ≠ e.name) (o : Outline) :
    (o.apply e).find? name = o.find? name :=
  find?_updateIn_of_ne e.change.name_apply h o.classes

lemma find?_replay (o : Outline) (edits : List Edit) (name : Text) :
    (o.replay edits).find? name =
      match changesOf name edits with
      | [] => o.find? name
      | changes => some (((o.find? name).getD (.bare name none)).applyAll changes) := by
  induction edits generalizing o with
  | nil => rfl
  | cons e rest ih =>
    rw [replay_cons, ih]
    by_cases h : e.name = name
    · subst h
      have hcons : changesOf e.name (e :: rest) = e.change :: changesOf e.name rest := by
        simp [changesOf]
      rw [hcons, find?_apply]
      cases changesOf e.name rest <;> rfl
    · have hcons : changesOf name (e :: rest) = changesOf name rest := by simp [changesOf, h]
      rw [hcons, find?_apply_of_ne (Ne.symm h)]

/-- What is known of a class is what the edits of it say. -/
lemma getD_find?_replay (edits : List Edit) (name : Text) :
    ((empty.replay edits).find? name).getD (.bare name none) =
      (ClassOutline.bare name none).applyAll (changesOf name edits) := by
  rw [find?_replay]
  cases changesOf name edits <;> rfl

/-! ### Operations -/

/-- The outline after an operation: the class is declared, with its parent if one is given, and
then changed. A field that is offered is answered by whether it was added. -/
def perform (o : Outline) (e : Edit) : Outline × Option Bool :=
  match e.change with
  | .parent parent => (o.declare e.name parent, none)
  | .field entry =>
    let (o, added) := o.offerField e.name entry
    (o, some added)
  | .method m => ((o.declare e.name none).update e.name (·.addMethod m), none)
  | .statement text => ((o.declare e.name none).update e.name (·.addStatement text), none)

/-- The outline after operations in order, and their answers. -/
def performAll (o : Outline) : List Edit → Outline × List (Option Bool)
  | [] => (o, [])
  | e :: rest =>
    let (o, answer) := o.perform e
    let (o, answers) := o.performAll rest
    (o, answer :: answers)

lemma perform_fst (o : Outline) (e : Edit) : (o.perform e).1 = o.apply e := by
  obtain ⟨name, change⟩ := e
  cases change with
  | parent parent => rfl
  | field entry =>
    simp only [perform, offerField, ClassOutline.offerField_fst]
    exact o.apply_declare ⟨name, .field entry⟩
  | method m => exact o.apply_declare ⟨name, .method m⟩
  | statement text => exact o.apply_declare ⟨name, .statement text⟩

/-- A field is added to its class unless an operation before has offered it to the same class. -/
lemma perform_field_snd (edits : List Edit) (name : Text) (entry : FieldEntry) :
    ((empty.replay edits).perform ⟨name, .field entry⟩).2 =
      some (decide (⟨name, .field entry⟩ ∉ edits)) := by
  have hdeclare : (empty.replay edits).declare name none =
      empty.replay (edits ++ [⟨name, .parent none⟩]) := by
    rw [replay_append]
    rfl
  have hfields : entry ∈ (((empty.replay edits).declare name none).find? name |>.getD
      (.bare name none)).fields ↔ ⟨name, .field entry⟩ ∈ edits := by
    rw [hdeclare, getD_find?_replay, ClassOutline.applyAll_bare, List.mem_eraseDups,
      mem_filterMap_field?_changesOf]
    simp
  simp only [perform, offerField, ClassOutline.offerField_snd, hfields]

lemma performAll_fst (o : Outline) (edits : List Edit) :
    (o.performAll edits).1 = o.replay edits := by
  induction edits generalizing o with
  | nil => rfl
  | cons e rest ih =>
    have hcons : (o.performAll (e :: rest)).1 = ((o.perform e).1.performAll rest).1 := rfl
    rw [hcons, ih, perform_fst, replay_cons]

lemma performAll_snd_cons (o : Outline) (e : Edit) (rest : List Edit) :
    (o.performAll (e :: rest)).2 = (o.perform e).2 :: ((o.apply e).performAll rest).2 := by
  rw [← perform_fst]
  rfl

lemma length_performAll_snd (o : Outline) (edits : List Edit) :
    (o.performAll edits).2.length = edits.length := by
  induction edits generalizing o with
  | nil => rfl
  | cons e rest ih => rw [performAll_snd_cons, List.length_cons, ih, List.length_cons]

lemma getElem?_performAll_snd (o : Outline) (before : List Edit) (e : Edit) (after : List Edit) :
    (o.performAll (before ++ e :: after)).2[before.length]? =
      some ((o.replay before).perform e).2 := by
  induction before generalizing o with
  | nil =>
    rw [List.nil_append, performAll_snd_cons]
    rfl
  | cons first rest ih =>
    rw [List.cons_append, performAll_snd_cons, List.length_cons, List.getElem?_cons_succ, ih]
    rfl

/-- An outline that operations have made is a log of each class. The classes stand in the order of
their first mention. The parent of a class is the first that is given for it, its fields are those
that are offered to it, each in the place of its first offer, and its methods and statements are
those that are added to it, in order. An offer is answered by whether it is the first. A class
depends on nothing but the operations on it. -/
theorem performAll_log (edits : List Edit) :
    let o := (empty.performAll edits).1
    let answers := (empty.performAll edits).2
    o.names = (edits.map (·.name)).eraseDups ∧
      (∀ c ∈ o.classes,
        c.parent = (changesOf c.name edits).findSome? Change.parent? ∧
          c.fields = ((changesOf c.name edits).filterMap Change.field?).eraseDups ∧
          c.methods = (changesOf c.name edits).filterMap Change.method? ∧
          c.statements = (changesOf c.name edits).filterMap Change.statement?) ∧
      (answers.length = edits.length ∧
        ∀ before name entry after, edits = before ++ ⟨name, .field entry⟩ :: after →
          answers[before.length]? = some (some (decide (⟨name, .field entry⟩ ∉ before)))) ∧
      ∀ name others, changesOf name edits = changesOf name others →
        o.find? name = (empty.performAll others).1.find? name := by
  intro o answers
  have ho : o = empty.replay edits := performAll_fst empty edits
  have hnodup : o.names.Nodup := ho ▸ nodup_names_replay (o := empty) List.nodup_nil edits
  refine ⟨?_, fun c hc => ?_, ⟨length_performAll_snd empty edits, ?_⟩, fun name others h => ?_⟩
  · rw [ho, names_replay]
  · have hfind : o.find? c.name = some c := find?_eq_some_of_mem hnodup hc
    have hlog : c = (ClassOutline.bare c.name none).applyAll (changesOf c.name edits) := by
      rw [← getD_find?_replay, ← ho, hfind, Option.getD_some]
    rw [ClassOutline.applyAll_bare] at hlog
    exact ⟨congrArg (·.parent) hlog, congrArg (·.fields) hlog, congrArg (·.methods) hlog,
      congrArg (·.statements) hlog⟩
  · rintro before name entry after rfl
    rw [getElem?_performAll_snd, perform_field_snd]
  · rw [ho, performAll_fst, find?_replay, find?_replay, h]

theorem performAll_log_turns :
    let dog := "Dog".toList
    let cat := "Cat".toList
    let entry := FieldEntry.unreadable "private".toList
    let before : List Edit := [⟨dog, .parent none⟩, ⟨cat, .field entry⟩,
      ⟨dog, .parent (some "Animal".toList)⟩, ⟨cat, .statement "run".toList⟩, ⟨dog, .field entry⟩,
      ⟨dog, .parent (some cat)⟩]
    let after : List Edit := [⟨dog, .statement "bark".toList⟩]
    let edits := before ++ ⟨cat, .field entry⟩ :: after
    let others := edits.filter (·.name = dog)
    let c : ClassOutline := ⟨dog, some "Animal".toList, [entry], [], ["bark".toList]⟩
    let o := (empty.performAll edits).1
    c ∈ o.classes ∧ o.names = [dog, cat] ∧
      (changesOf dog edits).findSome? Change.parent? = c.parent ∧
      (empty.performAll edits).2[before.length]? = some (some false) ∧
      changesOf dog edits = changesOf dog others ∧
      o.find? dog = (empty.performAll others).1.find? dog := by
  intro dog cat entry before after edits others c o
  obtain ⟨hnames, hclasses, ⟨-, hanswers⟩, hothers⟩ := performAll_log edits
  have hc : c ∈ o.classes := by decide
  have hchanges : changesOf dog edits = changesOf dog others := by decide
  exact ⟨hc, hnames, (hclasses c hc).1.symm, hanswers before cat entry after rfl, hchanges,
    hothers dog others hchanges⟩

end Outline
end Pseudocode
