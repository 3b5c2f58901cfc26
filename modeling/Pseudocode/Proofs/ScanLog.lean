import Pseudocode.Outline.Scan
import Pseudocode.Proofs.Edit
import Pseudocode.Proofs.LineKind

/-!
# The log of a scan

A scan moves from place to place and edits an outline on the way. What it does with a line
depends on the place and the line alone, never on the outline, so that a text has a log: the
edits that its lines make. `Scan.after_eq` says that scanning a text is replaying its log.
-/

namespace Pseudocode

/-- What a trimmed line that is no header says of the class it stands in. -/
def Line.content (book : Rulebook) (line : Text) : Change :=
  if Line.isField line then .field (.ofLine line) else .statement (book.convert line)

/-- A trimmed line that does not end an open method. -/
structure Line.IsBody (line : Text) : Prop where
  no_class : ClassHeader.ofLine? line = none
  no_method : Line.methodHeader? line = none
  no_close : Line.closesMethod line = false

instance (line : Text) : Decidable (Line.IsBody line) :=
  decidable_of_iff (ClassHeader.ofLine? line = none ∧ Line.methodHeader? line = none ∧
      Line.closesMethod line = false)
    ⟨fun h => ⟨h.1, h.2.1, h.2.2⟩, fun h => ⟨h.no_class, h.no_method, h.no_close⟩⟩

def firstLine? (lines : List Text) : Option Text := (lines.map Text.trim).find? (!·.isEmpty)

lemma firstLine?_cons (line : Text) (rest : List Text) :
    firstLine? (line :: rest) =
      if Text.trim line = [] then firstLine? rest else some (Text.trim line) := by
  by_cases hblank : Text.trim line = []
  · simp [firstLine?, hblank]
  · simp [firstLine?, hblank]

def classHeaders (lines : List Text) : List ClassHeader :=
  (lines.map Text.trim).filterMap ClassHeader.ofLine?

lemma classHeaders_cons (line : Text) (rest : List Text) :
    classHeaders (line :: rest) =
      (ClassHeader.ofLine? (Text.trim line)).toList ++ classHeaders rest := by
  unfold classHeaders
  rw [List.map_cons]
  cases h : ClassHeader.ofLine? (Text.trim line) with
  | none => rw [List.filterMap_cons_none h]; rfl
  | some header => rw [List.filterMap_cons_some h]; rfl

namespace Place

/-- The class that a line at this place belongs to. -/
def className (defaultClass : Text) : Place → Text
  | outside => defaultClass
  | inClass name => name
  | inMethod name _ _ => name

def isOpen : Place → Bool
  | inMethod _ _ _ => true
  | _ => false

/-- The edits that put a line into the class of this place: outside of any class, the default
class is declared. -/
def entry (defaultClass : Text) : Place → List Edit
  | outside => [⟨defaultClass, .parent none⟩]
  | _ => []

variable (book : Rulebook) (defaultClass : Text)

/-- The edits that a trimmed line makes at a place, and the place after it. -/
def move (place : Place) (line : Text) : List Edit × Place :=
  let name := place.className defaultClass
  if line.isEmpty then ([], place)
  else match ClassHeader.ofLine? line with
  | some header => ([⟨header.name, .parent header.parent⟩], .inClass header.name)
  | none =>
    match Line.methodHeader? line with
    | some header => (place.entry defaultClass, .inMethod name (.ofHeader name header) [])
    | none =>
      match place with
      | .inMethod name signature body =>
        if Line.closesMethod line then ([⟨name, .method ⟨signature, body⟩⟩], .inClass name)
        else ([], .inMethod name signature (body ++ [book.convert line]))
      | _ =>
        match Signature.ofLine? name line with
        | some signature => (place.entry defaultClass, .inMethod name signature [])
        | none => (place.entry defaultClass ++ [⟨name, Line.content book line⟩], .inClass name)

/-- The moves of a scan, one rule for each kind of line. -/
inductive Moves : Place → Text → List Edit → Place → Prop
  | blank (place : Place) : Moves place [] [] place
  | classHeader (place : Place) {line : Text} {header : ClassHeader}
      (h : ClassHeader.ofLine? line = some header) :
      Moves place line [⟨header.name, .parent header.parent⟩] (.inClass header.name)
  | methodHeader (place : Place) {line header : Text} (h : Line.methodHeader? line = some header) :
      Moves place line (place.entry defaultClass) (.inMethod (place.className defaultClass)
        (.ofHeader (place.className defaultClass) header) [])
  | bareHeader {place : Place} {line : Text} {signature : Signature} (hplace : place.isOpen = false)
      (hclass : ClassHeader.ofLine? line = none) (hmethod : Line.methodHeader? line = none)
      (h : Signature.ofLine? (place.className defaultClass) line = some signature) :
      Moves place line (place.entry defaultClass)
        (.inMethod (place.className defaultClass) signature [])
  | content {place : Place} {line : Text} (hplace : place.isOpen = false) (hne : line ≠ [])
      (hclass : ClassHeader.ofLine? line = none) (hmethod : Line.methodHeader? line = none)
      (h : Signature.ofLine? (place.className defaultClass) line = none) :
      Moves place line
        (place.entry defaultClass ++ [⟨place.className defaultClass, Line.content book line⟩])
        (.inClass (place.className defaultClass))
  | close (name : Text) (signature : Signature) (body : List Text) {line : Text}
      (h : Line.closesMethod line = true) :
      Moves (.inMethod name signature body) line [⟨name, .method ⟨signature, body⟩⟩] (.inClass name)
  | body (name : Text) (signature : Signature) (body : List Text) {line : Text} (hne : line ≠ [])
      (h : Line.IsBody line) :
      Moves (.inMethod name signature body) line []
        (.inMethod name signature (body ++ [book.convert line]))

variable {book defaultClass}

lemma Moves.move_eq {place next : Place} {line : Text} {edits : List Edit}
    (h : Moves book defaultClass place line edits next) :
    place.move book defaultClass line = (edits, next) := by
  cases h with
  | blank => rfl
  | classHeader _ h => simp [move, ClassHeader.ne_nil h, h]
  | methodHeader _ h =>
    simp [move, Line.ne_nil_of_methodHeader h, Line.classHeader_none_of_methodHeader h, h]
  | bareHeader hplace hclass hmethod h =>
    have hne : line ≠ [] := List.ne_nil_of_mem (Signature.paren_mem_of_ofLine? h)
    cases place with
    | inMethod => simp [isOpen] at hplace
    | outside | inClass => simp [move, hne, hclass, hmethod, h]
  | content hplace hne hclass hmethod h =>
    cases place with
    | inMethod => simp [isOpen] at hplace
    | outside | inClass => simp [move, hne, hclass, hmethod, h]
  | close name signature body h =>
    simp [move, Line.ne_nil_of_closesMethod h, Line.classHeader_none_of_closesMethod h,
      Line.methodHeader_none_of_closesMethod h, h]
  | body name signature body hne h => simp [move, hne, h.no_class, h.no_method, h.no_close]

variable (book defaultClass) in
/-- Some rule applies to every line at every place. -/
lemma exists_moves (place : Place) (line : Text) :
    ∃ edits next, Moves book defaultClass place line edits next := by
  by_cases hne : line = []
  · subst hne
    exact ⟨_, _, .blank place⟩
  -- the other kinds of line in the order in which a scan tries them
  cases hclass : ClassHeader.ofLine? line with
  | some header => exact ⟨_, _, .classHeader place hclass⟩
  | none =>
    cases hmethod : Line.methodHeader? line with
    | some header => exact ⟨_, _, .methodHeader place hmethod⟩
    | none =>
      cases hplace : place.isOpen with
      | false =>
        cases h : Signature.ofLine? (place.className defaultClass) line with
        | some signature => exact ⟨_, _, .bareHeader hplace hclass hmethod h⟩
        | none => exact ⟨_, _, .content hplace hne hclass hmethod h⟩
      | true =>
        cases place with
        | outside | inClass => simp [isOpen] at hplace
        | inMethod name signature body =>
          cases hclose : Line.closesMethod line with
          | true => exact ⟨_, _, .close name signature body hclose⟩
          | false => exact ⟨_, _, .body name signature body hne ⟨hclass, hmethod, hclose⟩⟩

variable (book defaultClass) in
lemma moves_move (place : Place) (line : Text) :
    Moves book defaultClass place line (place.move book defaultClass line).1
      (place.move book defaultClass line).2 := by
  obtain ⟨edits, next, h⟩ := exists_moves book defaultClass place line
  rw [h.move_eq]
  exact h

lemma step_eq_inClass {scan : Scan} (hplace : scan.place.isOpen = false) {line : Text}
    (hne : line ≠ []) (hclass : ClassHeader.ofLine? line = none) :
    scan.step book defaultClass line =
      Scan.inClass book (scan.outline.replay (scan.place.entry defaultClass))
        (scan.place.className defaultClass) line := by
  obtain ⟨outline, place⟩ := scan
  cases place with
  | inMethod => simp [isOpen] at hplace
  | outside | inClass =>
    simp only [Scan.step, List.isEmpty_eq_false_iff.mpr hne, hclass, Bool.false_eq_true, if_false]
    rfl

lemma step_eq_inMethod (outline : Outline) (name : Text) (signature : Signature)
    (body : List Text) {line : Text} (hne : line ≠ []) (hclass : ClassHeader.ofLine? line = none) :
    Scan.step book defaultClass ⟨outline, .inMethod name signature body⟩ line =
      Scan.inMethod book outline name signature body line := by
  simp only [Scan.step, List.isEmpty_eq_false_iff.mpr hne, hclass, Bool.false_eq_true, if_false]

/-- A step of a scan is a move together with its edits. -/
lemma Moves.step_eq {scan : Scan} {next : Place} {line : Text} {edits : List Edit}
    (h : Moves book defaultClass scan.place line edits next) :
    scan.step book defaultClass line = ⟨scan.outline.replay edits, next⟩ := by
  obtain ⟨outline, place⟩ := scan
  cases h with
  | blank => rfl
  | classHeader _ h =>
    simp only [Scan.step, List.isEmpty_eq_false_iff.mpr (ClassHeader.ne_nil h), h,
      Bool.false_eq_true, if_false]
    rfl
  | methodHeader _ h =>
    have hne := Line.ne_nil_of_methodHeader h
    have hclass := Line.classHeader_none_of_methodHeader h
    cases hplace : place.isOpen with
    | false => rw [step_eq_inClass hplace hne hclass, Scan.inClass, h]
    | true =>
      cases place with
      | outside | inClass => simp [isOpen] at hplace
      | inMethod name signature body =>
        rw [step_eq_inMethod outline name signature body hne hclass, Scan.inMethod, h]
        rfl
  | bareHeader hplace hclass hmethod h =>
    have hne : line ≠ [] := List.ne_nil_of_mem (Signature.paren_mem_of_ofLine? h)
    rw [step_eq_inClass hplace hne hclass, Scan.inClass, hmethod, h]
  | content hplace hne hclass hmethod h =>
    rw [step_eq_inClass hplace hne hclass, Outline.replay_append]
    by_cases hfield : Line.isField line = true
    · simp only [Scan.inClass, hmethod, h, Line.content, if_pos hfield]
      rfl
    · simp only [Scan.inClass, hmethod, h, Line.content, if_neg hfield]
      rfl
  | close name signature body h =>
    rw [step_eq_inMethod outline name signature body (Line.ne_nil_of_closesMethod h)
      (Line.classHeader_none_of_closesMethod h), Scan.inMethod,
      Line.methodHeader_none_of_closesMethod h, if_pos h]
    rfl
  | body name signature body hne h =>
    rw [step_eq_inMethod outline name signature body hne h.no_class, Scan.inMethod, h.no_method,
      if_neg (Bool.eq_false_iff.mp h.no_close)]
    rfl

/-! ### Logs of several lines -/

variable (book defaultClass)

def log : Place → List Text → List Edit
  | _, [] => []
  | place, line :: rest =>
    (place.move book defaultClass (Text.trim line)).1 ++
      log (place.move book defaultClass (Text.trim line)).2 rest

/-- The place to which the given lines lead. -/
def reach : Place → List Text → Place
  | place, [] => place
  | place, line :: rest => reach (place.move book defaultClass (Text.trim line)).2 rest

variable {book defaultClass}

lemma log_append (place : Place) (first second : List Text) :
    log book defaultClass place (first ++ second) =
      log book defaultClass place first ++
        log book defaultClass (reach book defaultClass place first) second := by
  induction first generalizing place with
  | nil => rfl
  | cons line rest ih => rw [List.cons_append, log, log, reach, ih, List.append_assoc]

/-- Two places from which the first line that is not blank moves alike have the same log. -/
lemma log_congr {place other : Place} {lines : List Text}
    (h : ∀ line, firstLine? lines = some line →
      place.move book defaultClass line = other.move book defaultClass line) :
    log book defaultClass place lines = log book defaultClass other lines := by
  induction lines with
  | nil => rfl
  | cons line rest ih =>
    rw [firstLine?_cons] at h
    by_cases hblank : Text.trim line = []
    · -- a blank line moves nowhere, so that the places are as they were
      rw [if_pos hblank] at h
      rw [log, log, hblank, (Moves.blank place).move_eq, (Moves.blank other).move_eq]
      exact ih h
    · rw [if_neg hblank] at h
      rw [log, log, h _ rfl]

end Place

namespace Scan

variable {book : Rulebook} {defaultClass : Text}

lemma step_eq (scan : Scan) (line : Text) :
    scan.step book defaultClass line =
      ⟨scan.outline.replay (scan.place.move book defaultClass line).1,
        (scan.place.move book defaultClass line).2⟩ :=
  (Place.moves_move book defaultClass scan.place line).step_eq

lemma foldl_step_eq (scan : Scan) (lines : List Text) :
    lines.foldl (fun scan line => scan.step book defaultClass (Text.trim line)) scan =
      ⟨scan.outline.replay (Place.log book defaultClass scan.place lines),
        Place.reach book defaultClass scan.place lines⟩ := by
  induction lines generalizing scan with
  | nil => rfl
  | cons line rest ih =>
    rw [List.foldl_cons, ih, step_eq, Place.log, Place.reach, Outline.replay_append]

lemma after_eq (lines : List Text) :
    Scan.after book defaultClass lines =
      ⟨Outline.empty.replay (Place.log book defaultClass .outside lines),
        Place.reach book defaultClass .outside lines⟩ :=
  foldl_step_eq start lines

end Scan

lemma Outline.ofLines_eq_replay {book : Rulebook} {defaultClass : Text} (lines : List Text) :
    Outline.ofLines book defaultClass lines =
      Outline.empty.replay (Place.log book defaultClass .outside lines) :=
  congrArg Scan.outline (Scan.after_eq lines)

end Pseudocode
