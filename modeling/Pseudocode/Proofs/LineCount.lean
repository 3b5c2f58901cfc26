import Pseudocode.Proofs.ScanLog
import Mathlib

/-!
# What becomes of the lines of a text

Every line that is not blank is a class header, or it ends up in the outline, or it belongs to
a method that is dropped, or it offers a field that its class has already. Two balances make up
this count: one for the moves of a scan, in which the lines of an open method are pending, and
one for the edits that the moves make. No line is lost exactly when nothing is dropped and
nothing is refused.
-/

namespace Pseudocode

def Method.lineCount (m : Method) : Nat := m.body.length + 2

def ClassOutline.lineCount (c : ClassOutline) : Nat :=
  c.fields.length + c.statements.length + (c.methods.map Method.lineCount).sum

def Outline.lineCount (o : Outline) : Nat := (o.classes.map ClassOutline.lineCount).sum

/-! ### The balance of edits -/

/-- The lines that a change stands for. -/
def Change.lineCount : Change → Nat
  | parent _ => 0
  | field _ => 1
  | method m => m.lineCount
  | statement _ => 1

/-- Whether a change to a class has no effect because it offers a field that the class has. -/
def Change.isRefused (c : ClassOutline) : Change → Bool
  | field entry => entry ∈ c.fields
  | _ => false

def Edit.isRefused (o : Outline) (e : Edit) : Bool :=
  e.change.isRefused ((o.find? e.name).getD (.bare e.name none))

def editLines (edits : List Edit) : Nat := (edits.map (·.change.lineCount)).sum

/-- The number of fields that are refused when the given edits are made. -/
def refusals : Outline → List Edit → Nat
  | _, [] => 0
  | o, e :: rest => (if e.isRefused o then 1 else 0) + refusals (o.apply e) rest

lemma editLines_append (first second : List Edit) :
    editLines (first ++ second) = editLines first + editLines second := by
  rw [editLines, List.map_append, List.sum_append]
  rfl

lemma refusals_append (o : Outline) (first second : List Edit) :
    refusals o (first ++ second) = refusals o first + refusals (o.replay first) second := by
  induction first generalizing o with
  | nil => rw [List.nil_append, refusals, Nat.zero_add, Outline.replay_nil]
  | cons e rest ih =>
    rw [List.cons_append, refusals, refusals, ih, Outline.replay_cons, Nat.add_assoc]

lemma Change.lineCount_apply (change : Change) (c : ClassOutline) :
    (change.apply c).lineCount + (if change.isRefused c then 1 else 0) =
      c.lineCount + change.lineCount := by
  cases change with
  | parent name => rfl
  | field entry =>
    by_cases h : entry ∈ c.fields
    · simp [apply, isRefused, ClassOutline.addField, Change.lineCount, h]
    · simp only [apply, isRefused, ClassOutline.addField, ClassOutline.lineCount, Change.lineCount,
        h, if_false, decide_false, Bool.false_eq_true, List.length_append, List.length_singleton]
      omega
  | method m =>
    simp only [apply, isRefused, ClassOutline.addMethod, ClassOutline.lineCount, Change.lineCount,
      Bool.false_eq_true, if_false, List.map_append, List.map_singleton, List.sum_append,
      List.sum_singleton]
    omega
  | statement text =>
    simp only [apply, isRefused, ClassOutline.addStatement, ClassOutline.lineCount,
      Change.lineCount, Bool.false_eq_true, if_false, List.length_append, List.length_singleton]
    omega

namespace Outline

lemma sum_lineCount_updateIn (name : Text) (f : ClassOutline → ClassOutline)
    (cs : List ClassOutline) :
    ((updateIn name f cs).map ClassOutline.lineCount).sum +
        ((cs.find? (·.name = name)).getD (.bare name none)).lineCount =
      (cs.map ClassOutline.lineCount).sum +
        (f ((cs.find? (·.name = name)).getD (.bare name none))).lineCount := by
  induction cs with
  | nil => simp [updateIn, ClassOutline.bare, ClassOutline.lineCount]
  | cons c rest ih =>
    by_cases h : c.name = name
    · have hfind : (c :: rest).find? (·.name = name) = some c :=
        List.find?_cons_of_pos (by simpa using h)
      rw [hfind]
      simp only [updateIn, if_pos h, Option.getD_some, List.map_cons, List.sum_cons]
      omega
    · have hfind : (c :: rest).find? (·.name = name) = rest.find? (·.name = name) :=
        List.find?_cons_of_neg (by simpa using h)
      rw [hfind]
      simp only [updateIn, if_neg h, List.map_cons, List.sum_cons]
      omega

lemma find?_declare (o : Outline) (name : Text) :
    (o.declare name none).find? name = some ((o.find? name).getD (.bare name none)) := by
  have hparent : ∀ c : ClassOutline, c.withParent none = c := by simp [ClassOutline.withParent]
  have hfind := find?_updateIn (f := (·.withParent none)) (fun _ => rfl) name o.classes
  rw [hparent] at hfind
  exact hfind

lemma lineCount_apply (o : Outline) (e : Edit) :
    (o.apply e).lineCount + (if e.isRefused o then 1 else 0) =
      o.lineCount + e.change.lineCount := by
  let c := (o.find? e.name).getD (.bare e.name none)
  have hsum : (o.apply e).lineCount + c.lineCount =
      o.lineCount + (e.change.apply c).lineCount :=
    sum_lineCount_updateIn e.name e.change.apply o.classes
  have hclass : (e.change.apply c).lineCount + (if e.isRefused o then 1 else 0) =
      c.lineCount + e.change.lineCount := e.change.lineCount_apply c
  omega

lemma lineCount_replay (o : Outline) (edits : List Edit) :
    (o.replay edits).lineCount + refusals o edits = o.lineCount + editLines edits := by
  induction edits generalizing o with
  | nil => rfl
  | cons e rest ih =>
    have hrest := ih (o.apply e)
    have hfirst := o.lineCount_apply e
    simp only [replay_cons, refusals, editLines, List.map_cons, List.sum_cons] at hrest ⊢
    omega

end Outline

/-! ### The balance of moves -/

/-- What holds wherever a list is cut before an element holds at its first element and, with that
element put in front, wherever its tail is cut. -/
lemma forall_cut_cons {α : Type} {p : List α → α → Prop} {x : α} {xs : List α} :
    (∀ before y rest, x :: xs = before ++ y :: rest → p before y) ↔
      p [] x ∧ ∀ before y rest, xs = before ++ y :: rest → p (x :: before) y := by
  constructor
  · intro h
    refine ⟨h [] x xs rfl, fun before y rest hcut => ?_⟩
    exact h (x :: before) y rest (by rw [hcut, List.cons_append])
  · rintro ⟨hfirst, htail⟩ before y rest hcut
    cases before with
    | nil =>
      obtain ⟨rfl, rfl⟩ := List.cons.inj hcut
      exact hfirst
    | cons z before =>
      obtain ⟨rfl, hrest⟩ := List.cons.inj hcut
      exact htail before y rest hrest

namespace Place

/-- The lines of the open method so far: its header and its body. -/
def pending : Place → Nat
  | inMethod _ _ body => body.length + 1
  | _ => 0

/-- Whether a trimmed line drops the method that is open: it is a class header or the header of
another method. -/
def drops (place : Place) (line : Text) : Bool :=
  place.isOpen && ((ClassHeader.ofLine? line).isSome || (Line.methodHeader? line).isSome)

/-- The lines that are lost when a trimmed line drops the open method. -/
def dropped (place : Place) (line : Text) : Nat := if place.drops line then place.pending else 0

variable {book : Rulebook} {defaultClass : Text}

lemma pending_eq_zero_iff (place : Place) : place.pending = 0 ↔ place.isOpen = false := by
  cases place with
  | outside | inClass | inMethod => simp [pending, isOpen]

lemma dropped_eq_zero_iff (place : Place) (line : Text) :
    place.dropped line = 0 ↔ place.drops line = false := by
  have hopen : place.drops line = true → place.pending ≠ 0 := by
    intro h
    rw [Ne, pending_eq_zero_iff, (Bool.and_eq_true_iff.mp h).1]
    exact Bool.noConfusion
  unfold dropped
  cases h : place.drops line with
  | false => simp
  | true => simpa using hopen h

lemma dropped_eq_pending {place : Place} {line : Text}
    (h : ((ClassHeader.ofLine? line).isSome || (Line.methodHeader? line).isSome) = true) :
    place.dropped line = place.pending := by
  rw [dropped, drops, h, Bool.and_true]
  cases place with
  | outside | inClass | inMethod => rfl

lemma dropped_eq_zero {place : Place} {line : Text} (hclass : ClassHeader.ofLine? line = none)
    (hmethod : Line.methodHeader? line = none) : place.dropped line = 0 := by
  simp [dropped, drops, hclass, hmethod]

lemma editLines_entry (place : Place) : editLines (place.entry defaultClass) = 0 := by
  cases place with
  | outside | inClass | inMethod => rfl

lemma lineCount_content (line : Text) : (Line.content book line).lineCount = 1 := by
  unfold Line.content
  split <;> rfl

/-- A line that is not blank adds one to the headers, the edits and the pending lines together;
only the lines of a method that it drops are taken away. -/
lemma Moves.balance {place next : Place} {line : Text} {edits : List Edit}
    (h : Moves book defaultClass place line edits next) :
    (ClassHeader.ofLine? line).toList.length + editLines edits + next.pending +
        place.dropped line =
      place.pending + (if line.isEmpty then 0 else 1) := by
  have hone (hne : line ≠ []) : (if line.isEmpty then 0 else 1) = 1 := if_neg (by simpa using hne)
  cases h with
  | blank =>
    rw [dropped_eq_zero rfl rfl]
    exact Nat.zero_add _
  | classHeader _ h =>
    rw [dropped_eq_pending (by simp [h]), h, hone (ClassHeader.ne_nil h)]
    simp only [Option.toList_some, List.length_singleton, editLines, List.map_singleton,
      List.sum_singleton, Change.lineCount, pending]
    omega
  | methodHeader _ h =>
    rw [dropped_eq_pending (by simp [h]), Line.classHeader_none_of_methodHeader h, editLines_entry,
      hone (Line.ne_nil_of_methodHeader h)]
    simp only [Option.toList_none, List.length_nil, pending]
    omega
  | bareHeader hplace hclass hmethod h =>
    have hne : line ≠ [] := List.ne_nil_of_mem (Signature.paren_mem_of_ofLine? h)
    rw [dropped_eq_zero hclass hmethod, hclass, editLines_entry,
      (pending_eq_zero_iff place).mpr hplace, hone hne]
    rfl
  | content hplace hne hclass hmethod h =>
    rw [dropped_eq_zero hclass hmethod, hclass, editLines_append, editLines_entry,
      (pending_eq_zero_iff place).mpr hplace, hone hne]
    simp [editLines, lineCount_content, pending]
  | close name signature body h =>
    rw [dropped_eq_zero (Line.classHeader_none_of_closesMethod h)
        (Line.methodHeader_none_of_closesMethod h),
      Line.classHeader_none_of_closesMethod h, hone (Line.ne_nil_of_closesMethod h)]
    simp [editLines, Change.lineCount, Method.lineCount, pending]
  | body name signature body hne h =>
    rw [dropped_eq_zero h.no_class h.no_method, h.no_class, hone hne]
    simp [editLines, pending]

variable (book defaultClass)

/-- The lines of all methods that are dropped when the given lines are scanned, the one that is
open at their end included. -/
def lost : Place → List Text → Nat
  | place, [] => place.pending
  | place, line :: rest =>
    place.dropped (Text.trim line) +
      lost (place.move book defaultClass (Text.trim line)).2 rest

variable {book defaultClass}

variable (book defaultClass) in
lemma log_balance (place : Place) (lines : List Text) :
    (classHeaders lines).length + editLines (log book defaultClass place lines) +
        lost book defaultClass place lines =
      place.pending + lines.countP (fun line => !(Text.trim line).isEmpty) := by
  induction lines generalizing place with
  | nil => simp [classHeaders, log, lost, editLines]
  | cons line rest ih =>
    have hfirst := (moves_move book defaultClass place (Text.trim line)).balance
    have hrest := ih (place.move book defaultClass (Text.trim line)).2
    rw [classHeaders_cons, List.length_append, log, editLines_append, lost, List.countP_cons]
    cases hblank : (Text.trim line).isEmpty with
    | true =>
      rw [hblank] at hfirst
      simp only [if_true] at hfirst
      simp only [Bool.not_true, Bool.false_eq_true, if_false]
      omega
    | false =>
      rw [hblank] at hfirst
      simp only [Bool.false_eq_true, if_false] at hfirst
      simp only [Bool.not_false, if_true]
      omega

lemma lost_eq_zero_iff (place : Place) (lines : List Text) :
    lost book defaultClass place lines = 0 ↔
      (∀ before line rest, lines = before ++ line :: rest →
        (reach book defaultClass place before).drops (Text.trim line) = false) ∧
      (reach book defaultClass place lines).isOpen = false := by
  induction lines generalizing place with
  | nil => simp [lost, reach, pending_eq_zero_iff]
  | cons line rest ih =>
    rw [lost, Nat.add_eq_zero_iff, ih, dropped_eq_zero_iff, forall_cut_cons, and_assoc]
    rfl

end Place

/-! ### Refused fields -/

/-- A trimmed line offers a field, outside of any method, that its class has already. -/
structure Scan.Refuses (defaultClass : Text) (scan : Scan) (line : Text) : Prop where
  not_open : scan.place.isOpen = false
  no_class : ClassHeader.ofLine? line = none
  no_method : Line.methodHeader? line = none
  no_signature : Signature.ofLine? (scan.place.className defaultClass) line = none
  is_field : Line.isField line = true
  known : ∃ c ∈ scan.outline.find? (scan.place.className defaultClass),
    FieldEntry.ofLine line ∈ c.fields

namespace Place

lemma refusals_entry (o : Outline) (place : Place) :
    refusals o (place.entry defaultClass) = 0 := by
  cases place with
  | outside | inClass | inMethod => rfl

lemma isRefused_content (o : Outline) (name line : Text) :
    Edit.isRefused o ⟨name, Line.content book line⟩ = true ↔
      Line.isField line = true ∧ ∃ c ∈ o.find? name, FieldEntry.ofLine line ∈ c.fields := by
  by_cases hfield : Line.isField line = true
  · rw [Line.content, if_pos hfield]
    cases hfind : o.find? name with
    | none => simp [Edit.isRefused, Change.isRefused, hfind, ClassOutline.bare]
    | some c => simp [Edit.isRefused, Change.isRefused, hfind, hfield]
  · rw [Line.content, if_neg hfield]
    simp [Edit.isRefused, Change.isRefused, hfield]

lemma isRefused_replay_entry (o : Outline) (place : Place) (change : Change) :
    Edit.isRefused (o.replay (place.entry defaultClass)) ⟨place.className defaultClass, change⟩ =
      Edit.isRefused o ⟨place.className defaultClass, change⟩ := by
  cases place with
  | outside =>
    have hfind : (o.replay (entry defaultClass outside)).find? defaultClass =
        some ((o.find? defaultClass).getD (.bare defaultClass none)) :=
      o.find?_declare defaultClass
    simp only [Edit.isRefused, className, hfind, Option.getD_some]
  | inClass | inMethod => rfl

lemma Moves.refusals_eq_zero_iff {scan : Scan} {next : Place} {line : Text} {edits : List Edit}
    (h : Moves book defaultClass scan.place line edits next) :
    refusals scan.outline edits = 0 ↔ ¬scan.Refuses defaultClass line := by
  obtain ⟨outline, place⟩ := scan
  cases h with
  | blank => exact iff_of_true rfl fun hr => absurd hr.is_field (by decide)
  | classHeader _ h => exact iff_of_true rfl fun hr => by simp [hr.no_class] at h
  | methodHeader _ h =>
    exact iff_of_true (refusals_entry outline place) fun hr => by simp [hr.no_method] at h
  | bareHeader _ _ _ h =>
    exact iff_of_true (refusals_entry outline place) fun hr => by simp [hr.no_signature] at h
  | content hplace _ hclass hmethod h =>
    have hlast : refusals outline (place.entry defaultClass ++
        [⟨place.className defaultClass, Line.content book line⟩]) = 0 ↔
        ¬Edit.isRefused outline ⟨place.className defaultClass, Line.content book line⟩ = true := by
      rw [refusals_append, refusals_entry, refusals, isRefused_replay_entry]
      simp [refusals]
    rw [hlast, isRefused_content, not_iff_not]
    constructor
    · rintro ⟨hfield, hknown⟩
      exact ⟨hplace, hclass, hmethod, h, hfield, hknown⟩
    · intro hr
      exact ⟨hr.is_field, hr.known⟩
  | close => exact iff_of_true rfl fun hr => Bool.noConfusion hr.not_open
  | body => exact iff_of_true rfl fun hr => Bool.noConfusion hr.not_open

variable (book defaultClass) in
lemma refusals_log_eq_zero_iff (scan : Scan) (lines : List Text) :
    refusals scan.outline (log book defaultClass scan.place lines) = 0 ↔
      ∀ before line rest, lines = before ++ line :: rest →
        ¬Scan.Refuses defaultClass ⟨scan.outline.replay (log book defaultClass scan.place before),
          reach book defaultClass scan.place before⟩ (Text.trim line) := by
  induction lines generalizing scan with
  | nil => simp [log, refusals]
  | cons line rest ih =>
    have hfirst := (moves_move book defaultClass scan.place (Text.trim line)).refusals_eq_zero_iff
    have hrest := ih (scan.step book defaultClass (Text.trim line))
    rw [Scan.step_eq] at hrest
    rw [log, refusals_append, Nat.add_eq_zero_iff, hfirst, hrest, forall_cut_cons]
    simp only [log, reach, Outline.replay_append, Outline.replay_nil]

end Place

/-! ### The count of a text -/

/-- Scanning the given lines drops no method, neither for a header nor at their end, and refuses
no field. -/
structure Scan.Lossless (book : Rulebook) (defaultClass : Text) (lines : List Text) : Prop where
  no_drop : ∀ before line rest, lines = before ++ line :: rest →
    (Scan.after book defaultClass before).place.drops (Text.trim line) = false
  closed : (Scan.after book defaultClass lines).place.isOpen = false
  no_refusal : ∀ before line rest, lines = before ++ line :: rest →
    ¬(Scan.after book defaultClass before).Refuses defaultClass (Text.trim line)

variable {book : Rulebook} {defaultClass : Text}

lemma Scan.lossless_iff (lines : List Text) :
    Scan.Lossless book defaultClass lines ↔
      Place.lost book defaultClass .outside lines = 0 ∧
        refusals .empty (Place.log book defaultClass .outside lines) = 0 := by
  have hrefusals : refusals .empty (Place.log book defaultClass .outside lines) = 0 ↔
      ∀ before line rest, lines = before ++ line :: rest →
        ¬(Scan.after book defaultClass before).Refuses defaultClass (Text.trim line) := by
    simp only [Scan.after_eq]
    exact Place.refusals_log_eq_zero_iff book defaultClass Scan.start lines
  have hplace (before : List Text) :
      Place.reach book defaultClass .outside before = (Scan.after book defaultClass before).place :=
    (congrArg Scan.place (Scan.after_eq before)).symm
  simp only [Place.lost_eq_zero_iff, hrefusals, hplace]
  constructor
  · rintro ⟨hdrop, hclosed, hrefusal⟩
    exact ⟨⟨hdrop, hclosed⟩, hrefusal⟩
  · rintro ⟨⟨hdrop, hclosed⟩, hrefusal⟩
    exact ⟨hdrop, hclosed, hrefusal⟩

/-- No line counts twice: the class headers and the lines that stand in the outline are no more
than the lines that are not blank. They are as many exactly when the scan is lossless. -/
theorem Outline.lineCount_ofLines (lines : List Text) :
    (classHeaders lines).length + (ofLines book defaultClass lines).lineCount ≤
        lines.countP (fun line => !(Text.trim line).isEmpty) ∧
      ((classHeaders lines).length + (ofLines book defaultClass lines).lineCount =
          lines.countP (fun line => !(Text.trim line).isEmpty) ↔
        Scan.Lossless book defaultClass lines) := by
  have hedits := empty.lineCount_replay (Place.log book defaultClass .outside lines)
  have hempty : empty.lineCount = 0 := rfl
  have hmoves := Place.log_balance book defaultClass .outside lines
  have hpending : Place.outside.pending = 0 := rfl
  rw [Scan.lossless_iff, ofLines_eq_replay]
  omega

end Pseudocode
