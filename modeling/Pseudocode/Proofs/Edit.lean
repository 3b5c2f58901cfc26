import Pseudocode.Outline.Basic
import Mathlib.Data.List.Induction

/-!
# Edits of an outline

An outline grows by edits, each of which changes one class and creates it if need be.
`Outline.replay` makes a list of edits in order. Edits of different classes commute once the
first class exists, so that only the first mention of a class decides its position.
-/

namespace Pseudocode

/-- A change to one class. -/
inductive Change where
  | parent (parent : Option Text)
  | field (entry : FieldEntry)
  | method (method : Method)
  | statement (statement : Text)
deriving DecidableEq

def Change.apply : Change → ClassOutline → ClassOutline
  | parent name, c => c.withParent name
  | field entry, c => c.addField entry
  | method m, c => c.addMethod m
  | statement text, c => c.addStatement text

@[simp] lemma Change.name_apply (change : Change) (c : ClassOutline) :
    (change.apply c).name = c.name := by
  cases change with
  | field entry =>
    simp only [Change.apply, ClassOutline.addField]
    split <;> rfl
  | parent | method | statement => rfl

/-- A change to the class of the given name. -/
structure Edit where
  name : Text
  change : Change
deriving DecidableEq

namespace Outline

section Update

variable {f g : ClassOutline → ClassOutline} {m n : Text}

lemma updateIn_updateIn (hf : ∀ c, (f c).name = c.name) (cs : List ClassOutline) :
    updateIn n g (updateIn n f cs) = updateIn n (g ∘ f) cs := by
  induction cs with
  | nil => simp [updateIn, hf, ClassOutline.bare]
  | cons c rest ih =>
    by_cases h : c.name = n
    · simp [updateIn, h, hf]
    · simp [updateIn, h, ih]

lemma updateIn_comm (hf : ∀ c, (f c).name = c.name) (hg : ∀ c, (g c).name = c.name)
    (hne : m ≠ n) {cs : List ClassOutline} (hm : m ∈ cs.map (·.name)) :
    updateIn n g (updateIn m f cs) = updateIn m f (updateIn n g cs) := by
  induction cs with
  | nil => simp at hm
  | cons c rest ih =>
    by_cases h : c.name = m
    · simp [updateIn, h, hf, hne]
    · have hrest : m ∈ rest.map (·.name) := by
        rcases List.mem_cons.mp hm with hc | hc
        · exact absurd hc.symm h
        · exact hc
      by_cases h' : c.name = n
      · simp [updateIn, h', hg, hne.symm]
      · simp [updateIn, h, h', ih hrest]

lemma map_name_updateIn (hf : ∀ c, (f c).name = c.name) (cs : List ClassOutline) :
    (updateIn n f cs).map (·.name) =
      if n ∈ cs.map (·.name) then cs.map (·.name) else cs.map (·.name) ++ [n] := by
  induction cs with
  | nil => simp [updateIn, hf, ClassOutline.bare]
  | cons c rest ih =>
    by_cases h : c.name = n
    · simp [updateIn, h, hf]
    · simp only [updateIn, if_neg h, List.map_cons, ih, List.mem_cons, Ne.symm h, false_or]
      split <;> rfl

lemma mem_updateIn {c : ClassOutline} {cs : List ClassOutline} (h : c ∈ updateIn n f cs) :
    c ∈ cs ∨ ∃ d, (d ∈ cs ∨ d = .bare n none) ∧ d.name = n ∧ c = f d := by
  induction cs with
  | nil => exact .inr ⟨.bare n none, .inr rfl, rfl, List.mem_singleton.mp h⟩
  | cons d rest ih =>
    by_cases hd : d.name = n
    · rw [updateIn, if_pos hd] at h
      rcases List.mem_cons.mp h with hc | hc
      · exact .inr ⟨d, .inl List.mem_cons_self, hd, hc⟩
      · exact .inl (List.mem_cons_of_mem d hc)
    · rw [updateIn, if_neg hd] at h
      rcases List.mem_cons.mp h with rfl | hc
      · exact .inl List.mem_cons_self
      · rcases ih hc with hc | ⟨e, he, hname, heq⟩
        · exact .inl (List.mem_cons_of_mem d hc)
        · exact .inr ⟨e, he.imp_left (List.mem_cons_of_mem d), hname, heq⟩

lemma find?_updateIn (hf : ∀ c, (f c).name = c.name) (n : Text) (cs : List ClassOutline) :
    (updateIn n f cs).find? (·.name = n) =
      some (f ((cs.find? (·.name = n)).getD (.bare n none))) := by
  induction cs with
  | nil => exact List.find?_cons_of_pos (by simp [hf, ClassOutline.bare])
  | cons c rest ih =>
    by_cases h : c.name = n
    · rw [updateIn, if_pos h, List.find?_cons_of_pos (by simpa [hf] using h),
        List.find?_cons_of_pos (by simpa using h), Option.getD_some]
    · rw [updateIn, if_neg h, List.find?_cons_of_neg (by simpa using h),
        List.find?_cons_of_neg (by simpa using h), ih]

lemma find?_updateIn_of_ne (hf : ∀ c, (f c).name = c.name) (hne : m ≠ n)
    (cs : List ClassOutline) : (updateIn n f cs).find? (·.name = m) = cs.find? (·.name = m) := by
  induction cs with
  | nil => exact List.find?_cons_of_neg (by simpa [hf, ClassOutline.bare] using hne.symm)
  | cons c rest ih =>
    by_cases h : c.name = n
    · have hc : ¬c.name = m := fun hm => hne (hm.symm.trans h)
      rw [updateIn, if_pos h, List.find?_cons_of_neg (by simpa [hf] using hc),
        List.find?_cons_of_neg (by simpa using hc)]
    · rw [updateIn, if_neg h, List.find?_cons, List.find?_cons, ih]

end Update

def apply (o : Outline) (e : Edit) : Outline := o.update e.name e.change.apply

def replay (o : Outline) (edits : List Edit) : Outline := edits.foldl apply o

@[simp] lemma replay_nil (o : Outline) : o.replay [] = o := rfl

@[simp] lemma replay_cons (o : Outline) (e : Edit) (rest : List Edit) :
    o.replay (e :: rest) = (o.apply e).replay rest := rfl

lemma replay_append (o : Outline) (first second : List Edit) :
    o.replay (first ++ second) = (o.replay first).replay second :=
  List.foldl_append

lemma names_apply (o : Outline) (e : Edit) :
    (o.apply e).names = if e.name ∈ o.names then o.names else o.names ++ [e.name] :=
  map_name_updateIn e.change.name_apply o.classes

lemma mem_names_apply (o : Outline) (e : Edit) (name : Text) :
    name ∈ (o.apply e).names ↔ name ∈ o.names ∨ name = e.name := by
  rw [names_apply]
  split
  · grind
  · simp

lemma nodup_names_apply {o : Outline} (h : o.names.Nodup) (e : Edit) : (o.apply e).names.Nodup := by
  rw [names_apply]
  split
  · exact h
  · rename_i he
    rw [List.nodup_append]
    refine ⟨h, List.pairwise_singleton _ _, ?_⟩
    intro a ha b hb hab
    rw [List.mem_singleton] at hb
    exact he (hb ▸ hab ▸ ha)

lemma nodup_names_replay {o : Outline} (h : o.names.Nodup) (edits : List Edit) :
    (o.replay edits).names.Nodup := by
  induction edits generalizing o with
  | nil => exact h
  | cons e rest ih => exact ih (nodup_names_apply h e)

/-- Declaring a class without a parent just before it is edited makes no difference. -/
lemma apply_declare (o : Outline) (e : Edit) : (o.declare e.name none).apply e = o.apply e := by
  have hparent : e.change.apply ∘ (·.withParent none) = e.change.apply := by
    funext c
    simp [ClassOutline.withParent]
  simp only [apply, declare, update]
  rw [updateIn_updateIn (f := (·.withParent none)) (fun _ => rfl), hparent]

/-- An edit of a class that exists may wait until other classes have been edited. -/
lemma replay_apply_comm {o : Outline} {e : Edit} (he : e.name ∈ o.names) {edits : List Edit}
    (hne : ∀ x ∈ edits, e.name ≠ x.name) : (o.apply e).replay edits = (o.replay edits).apply e := by
  induction edits generalizing o with
  | nil => rfl
  | cons x rest ih =>
    have hx : (o.apply e).apply x = (o.apply x).apply e :=
      congrArg Outline.mk (updateIn_comm e.change.name_apply x.change.name_apply
        (hne x List.mem_cons_self) he)
    rw [replay_cons, replay_cons, hx]
    exact ih ((mem_names_apply o x e.name).mpr (.inl he))
      (fun y hy => hne y (List.mem_cons_of_mem x hy))

end Outline
end Pseudocode
