import Pseudocode.Proofs.OpenMethod

/-!
# The classes that a text mentions

An edit of a class that exists already adds no class, and only a class header names a parent.
A scan stands in a class that exists, so that of its log only the class headers matter for the
list of classes, apart from the default class, which is first if another line is first.
-/

namespace Pseudocode

/-- The classes that a text mentions, in order and as often as it mentions them: those of its
class headers and, if its first line is none of these, the default class before them. -/
def mentions (defaultClass : Text) (lines : List Text) : List Text :=
  (if (firstLine? lines).any fun line => (ClassHeader.ofLine? line).isNone then [defaultClass]
    else []) ++ (classHeaders lines).map (·.name)

/-- The parent that a header writes for the class of the given name. -/
def ClassHeader.parentFor (name : Text) (header : ClassHeader) : Option Text :=
  if header.name = name then header.parent else none

/-- The first parent that a class header of the text writes for the class of the given name. -/
def firstParent? (name : Text) (lines : List Text) : Option Text :=
  (classHeaders lines).findSome? (·.parentFor name)

/-! ### The classes after a list of edits -/

section EraseDups

variable {α : Type} [BEq α] [LawfulBEq α] {seen : List α} {a : α}

lemma eraseDups_append_cons_of_mem (h : a ∈ seen) (rest : List α) :
    (seen ++ a :: rest).eraseDups = (seen ++ rest).eraseDups := by
  have hremove : (a :: rest).removeAll seen = rest.removeAll seen :=
    List.filter_cons_of_neg (by simpa using h)
  rw [List.eraseDups_append, List.eraseDups_append, hremove]

lemma eraseDups_append_singleton_of_notMem (h : a ∉ seen) :
    (seen ++ [a]).eraseDups = seen.eraseDups ++ [a] := by
  have hremove : [a].removeAll seen = [a] := List.filter_cons_of_pos (by simpa using h)
  rw [List.eraseDups_append, hremove]
  rfl

end EraseDups

def Change.parent? : Change → Option Text
  | parent name => name
  | _ => none

/-- The parent that an edit gives to the class of the given name. -/
def Edit.parentFor (name : Text) (e : Edit) : Option Text :=
  if e.name = name then e.change.parent? else none

lemma Change.parent_apply (change : Change) (c : ClassOutline) :
    (change.apply c).parent = c.parent.or change.parent? := by
  cases change with
  | parent name => rfl
  | field entry =>
    simp only [apply, ClassOutline.addField, parent?, Option.or_none]
    split <;> rfl
  | method | statement => exact (Option.or_none).symm

namespace Outline

def parent? (o : Outline) (name : Text) : Option Text := (o.find? name).bind (·.parent)

lemma find?_eq_some_of_mem {o : Outline} (h : o.names.Nodup) {c : ClassOutline}
    (hc : c ∈ o.classes) : o.find? c.name = some c := by
  obtain ⟨classes⟩ := o
  induction classes with
  | nil => simp at hc
  | cons d rest ih =>
    obtain ⟨hd, hrest⟩ := List.nodup_cons.mp h
    rcases List.mem_cons.mp hc with rfl | hc
    · exact List.find?_cons_of_pos (by simp)
    · have hne : d.name ≠ c.name := by
        intro heq
        exact hd (List.mem_map.mpr ⟨c, hc, heq.symm⟩)
      exact (List.find?_cons_of_neg (by simpa using hne)).trans (ih hrest hc)

lemma names_replay (edits : List Edit) :
    (empty.replay edits).names = (edits.map (·.name)).eraseDups := by
  induction edits using List.reverseRecOn with
  | nil => rfl
  | append_singleton edits e ih =>
    have hmem : e.name ∈ (empty.replay edits).names ↔ e.name ∈ edits.map (·.name) := by
      rw [ih, List.mem_eraseDups]
    rw [replay_append, replay_cons, replay_nil, names_apply, List.map_append, List.map_singleton]
    by_cases h : e.name ∈ edits.map (·.name)
    · rw [if_pos (hmem.mpr h), eraseDups_append_cons_of_mem h, List.append_nil, ih]
    · rw [if_neg (mt hmem.mp h), ih, eraseDups_append_singleton_of_notMem h]

lemma parent?_apply (o : Outline) (e : Edit) (name : Text) :
    (o.apply e).parent? name = (o.parent? name).or (e.parentFor name) := by
  by_cases h : name = e.name
  · subst h
    have hfind : (o.apply e).find? e.name =
        some (e.change.apply ((o.find? e.name).getD (.bare e.name none))) :=
      find?_updateIn e.change.name_apply e.name o.classes
    rw [parent?, hfind, Option.bind_some, Change.parent_apply, parent?, Edit.parentFor, if_pos rfl]
    cases o.find? e.name <;> rfl
  · have hfind : (o.apply e).find? name = o.find? name :=
      find?_updateIn_of_ne e.change.name_apply h o.classes
    rw [parent?, hfind, parent?, Edit.parentFor, if_neg (Ne.symm h), Option.or_none]

lemma parent?_replay (o : Outline) (edits : List Edit) (name : Text) :
    (o.replay edits).parent? name =
      (o.parent? name).or (edits.findSome? (·.parentFor name)) := by
  induction edits generalizing o with
  | nil => simp
  | cons e rest ih =>
    rw [replay_cons, ih, parent?_apply, Option.or_assoc, List.findSome?_cons]
    cases e.parentFor name <;> rfl

end Outline

/-! ### The classes of a log -/

namespace Place

variable {book : Rulebook} {defaultClass : Text}

lemma Moves.parentFor_eq {place next : Place} {line : Text} {edits : List Edit}
    (h : Moves book defaultClass place line edits next) (name : Text) :
    edits.findSome? (·.parentFor name) =
      (ClassHeader.ofLine? line).bind (·.parentFor name) := by
  have hentry : (place.entry defaultClass).findSome? (·.parentFor name) = none := by
    cases place with
    | outside => simp [entry, Edit.parentFor, Change.parent?]
    | inClass | inMethod => rfl
  cases h with
  | blank => rfl
  | classHeader _ h => simp [h, Edit.parentFor, ClassHeader.parentFor, Change.parent?]
  | methodHeader _ h => rw [Line.classHeader_none_of_methodHeader h, hentry, Option.bind_none]
  | bareHeader _ hclass _ _ => rw [hclass, hentry, Option.bind_none]
  | content _ _ hclass _ _ =>
    have hcontent : (Line.content book line).parent? = none := by
      unfold Line.content
      split <;> rfl
    rw [hclass, List.findSome?_append, hentry, Option.bind_none]
    simp [Edit.parentFor, hcontent]
  | close _ _ _ h =>
    rw [Line.classHeader_none_of_closesMethod h]
    simp [Edit.parentFor, Change.parent?]
  | body _ _ _ _ h => rw [h.no_class]; rfl

lemma parentFor_log (place : Place) (lines : List Text) (name : Text) :
    (log book defaultClass place lines).findSome? (·.parentFor name) =
      firstParent? name lines := by
  induction lines generalizing place with
  | nil => rfl
  | cons line rest ih =>
    have hfirst := (moves_move book defaultClass place (Text.trim line)).parentFor_eq name
    rw [log, List.findSome?_append, ih, hfirst, firstParent?, firstParent?, classHeaders_cons,
      List.findSome?_append]
    cases ClassHeader.ofLine? (Text.trim line) <;> simp

/-- The classes that a trimmed line mentions at a place. -/
def mention (defaultClass : Text) (place : Place) (line : Text) : List Text :=
  match ClassHeader.ofLine? line with
  | some header => [header.name]
  | none => if line.isEmpty then [] else (place.entry defaultClass).map (·.name)

/-- The classes that lines mention from a place on. -/
def mentionsFrom (defaultClass : Text) (place : Place) (lines : List Text) : List Text :=
  (if (firstLine? lines).any fun line => (ClassHeader.ofLine? line).isNone then
    (place.entry defaultClass).map (·.name) else []) ++ (classHeaders lines).map (·.name)

lemma mention_eq_entry (place : Place) {line : Text} (hne : line ≠ [])
    (hclass : ClassHeader.ofLine? line = none) :
    place.mention defaultClass line = (place.entry defaultClass).map (·.name) := by
  simp [mention, hclass, hne]

lemma mentionsFrom_cons (place : Place) (line : Text) (rest : List Text) :
    place.mentionsFrom defaultClass (line :: rest) =
      place.mention defaultClass (Text.trim line) ++
        (place.move book defaultClass (Text.trim line)).2.mentionsFrom defaultClass rest := by
  by_cases hblank : Text.trim line = []
  · have hheaders : classHeaders (line :: rest) = classHeaders rest := by
      rw [classHeaders_cons, hblank]
      rfl
    rw [hblank, (Moves.blank place).move_eq, mentionsFrom, firstLine?_cons, if_pos hblank, hheaders]
    rfl
  · have hnext : (place.move book defaultClass (Text.trim line)).2 ≠ .outside :=
      (moves_move book defaultClass place (Text.trim line)).next_ne_outside (.inl hblank)
    rw [mentionsFrom, mentionsFrom, entry_eq_nil hnext, firstLine?_cons, if_neg hblank,
      classHeaders_cons, Option.any_some]
    cases hclass : ClassHeader.ofLine? (Text.trim line) with
    | none => simp [mention_eq_entry place hblank hclass]
    | some header => simp [mention, hclass]

/-- The edits for a line add the class that it mentions, if any. All other edits are of the
class of the place, which is known by then. -/
lemma Moves.eraseDups_eq {place next : Place} {line : Text} {edits : List Edit}
    (h : Moves book defaultClass place line edits next) {seen : List Text}
    (hseen : place ≠ .outside → place.className defaultClass ∈ seen) (rest : List Text) :
    (seen ++ edits.map (·.name) ++ rest).eraseDups =
        (seen ++ place.mention defaultClass line ++ rest).eraseDups ∧
      (next ≠ .outside →
        next.className defaultClass ∈ seen ++ place.mention defaultClass line) := by
  have hentry : place.className defaultClass ∈ seen ++ (place.entry defaultClass).map (·.name) := by
    cases place with
    | outside => simp [className, entry]
    | inClass | inMethod => exact List.mem_append_left _ (hseen Place.noConfusion)
  cases h with
  | blank => exact ⟨rfl, fun hplace => List.mem_append_left _ (hseen hplace)⟩
  | classHeader _ h => simp [mention, h, className]
  | methodHeader _ h =>
    rw [mention_eq_entry place (Line.ne_nil_of_methodHeader h)
      (Line.classHeader_none_of_methodHeader h)]
    exact ⟨rfl, fun _ => hentry⟩
  | bareHeader _ hclass _ h =>
    rw [mention_eq_entry place (List.ne_nil_of_mem (Signature.paren_mem_of_ofLine? h)) hclass]
    exact ⟨rfl, fun _ => hentry⟩
  | content _ hne hclass _ _ =>
    rw [mention_eq_entry place hne hclass, List.map_append, List.map_singleton,
      ← List.append_assoc seen, List.append_assoc _ [_], List.singleton_append,
      eraseDups_append_cons_of_mem hentry]
    exact ⟨rfl, fun _ => hentry⟩
  | close name signature body h =>
    have hmention : mention defaultClass (.inMethod name signature body) line = [] :=
      mention_eq_entry _ (Line.ne_nil_of_closesMethod h) (Line.classHeader_none_of_closesMethod h)
    have hname : name ∈ seen := hseen Place.noConfusion
    rw [hmention, List.map_singleton, List.append_assoc, List.singleton_append,
      eraseDups_append_cons_of_mem hname, List.append_nil]
    exact ⟨rfl, fun _ => hname⟩
  | body name signature body hne h =>
    have hmention : mention defaultClass (.inMethod name signature body) line = [] :=
      mention_eq_entry _ hne h.no_class
    have hname : name ∈ seen := hseen Place.noConfusion
    rw [hmention, List.map_nil, List.append_nil]
    exact ⟨rfl, fun _ => hname⟩

variable (book) in
lemma eraseDups_log {place : Place} {seen : List Text}
    (hseen : place ≠ .outside → place.className defaultClass ∈ seen) (lines : List Text) :
    (seen ++ (log book defaultClass place lines).map (·.name)).eraseDups =
      (seen ++ place.mentionsFrom defaultClass lines).eraseDups := by
  induction lines generalizing place seen with
  | nil => simp [log, mentionsFrom, firstLine?, classHeaders]
  | cons line rest ih =>
    have hmove := moves_move book defaultClass place (Text.trim line)
    obtain ⟨hfirst, hnext⟩ := hmove.eraseDups_eq hseen ((log book defaultClass
      (place.move book defaultClass (Text.trim line)).2 rest).map (·.name))
    rw [log, List.map_append, ← List.append_assoc, hfirst, ih hnext, List.append_assoc,
      ← mentionsFrom_cons]

end Place

namespace Outline

variable {book : Rulebook} {defaultClass : Text}

/-- The classes of an outline are those that its text mentions, each in the place of its first
mention, and the parent of a class is the first that a class header writes for it. -/
theorem names_and_parents_ofLines (lines : List Text) :
    (ofLines book defaultClass lines).names = (mentions defaultClass lines).eraseDups ∧
      ∀ c ∈ (ofLines book defaultClass lines).classes, c.parent = firstParent? c.name lines := by
  rw [ofLines_eq_replay]
  constructor
  · have hlog : ([] ++ (Place.log book defaultClass .outside lines).map Edit.name).eraseDups =
        ([] ++ mentions defaultClass lines).eraseDups :=
      Place.eraseDups_log book (fun h => absurd rfl h) lines
    rw [names_replay]
    exact hlog
  · intro c hc
    have hnodup : (empty.replay (Place.log book defaultClass .outside lines)).names.Nodup :=
      nodup_names_replay (o := empty) List.nodup_nil _
    have hparent := parent?_replay empty (Place.log book defaultClass .outside lines) c.name
    rw [Place.parentFor_log, parent?, find?_eq_some_of_mem hnodup hc] at hparent
    exact hparent

end Outline
end Pseudocode
