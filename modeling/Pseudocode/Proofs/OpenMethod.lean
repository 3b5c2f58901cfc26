import Pseudocode.Proofs.ScanLog

/-!
# Methods that are closed and methods that are dropped

A scan in a method makes no edits until the method ends. If it is closed, the one edit is the
method itself, in the class of the last class header. If it is dropped for another header or
at the end of the text, there is no edit at all, and the text reads as if the header and the
body had not been there.
-/

namespace Pseudocode

/-- The class of the last class header among the given lines, or the default class. -/
def lastClass (defaultClass : Text) (lines : List Text) : Text :=
  ((classHeaders lines).getLast?.map (·.name)).getD defaultClass

/-- The statements for the lines that are not blank. -/
def bodyOf (book : Rulebook) (lines : List Text) : List Text :=
  ((lines.map Text.trim).filter (!·.isEmpty)).map book.convert

lemma bodyOf_cons (book : Rulebook) (line : Text) (rest : List Text) :
    bodyOf book (line :: rest) =
      if Text.trim line = [] then bodyOf book rest
      else book.convert (Text.trim line) :: bodyOf book rest := by
  by_cases hblank : Text.trim line = []
  · simp [bodyOf, hblank]
  · simp [bodyOf, hblank]

/-- A header of a method, after the keyword or, if it is no class header, without it. -/
def Line.IsMethodHeader (line : Text) : Prop :=
  (Line.methodHeader? line).isSome ∨
    ClassHeader.ofLine? line = none ∧ ∃ owner, (Signature.ofLine? owner line).isSome

namespace Place

/-- How a trimmed line opens a method, and with what header: anywhere after the keyword, and
without it where no method is open. -/
inductive Opens (place : Place) (line : Text) : Text → Prop
  | keyword {header : Text} (h : Line.methodHeader? line = some header) : Opens place line header
  | bare {owner : Text} (hplace : place.isOpen = false) (hclass : ClassHeader.ofLine? line = none)
      (hmethod : Line.methodHeader? line = none) (h : (Signature.ofLine? owner line).isSome) :
      Opens place line line

variable {book : Rulebook} {defaultClass : Text}

lemma Opens.move_eq {place : Place} {line header : Text} (h : Opens place line header) :
    place.move book defaultClass line =
      (place.entry defaultClass, .inMethod (place.className defaultClass)
        (.ofHeader (place.className defaultClass) header) []) := by
  cases h with
  | keyword h => exact (Moves.methodHeader place h).move_eq
  | bare hplace hclass hmethod h =>
    rw [Signature.isSome_ofLine? _ (place.className defaultClass)] at h
    obtain ⟨signature, hs⟩ := Option.isSome_iff_exists.mp h
    rw [Signature.ofHeader_eq_of_ofLine? hs]
    exact (Moves.bareHeader hplace hclass hmethod hs).move_eq

/-! ### The class of a place -/

lemma Moves.className_next {place next : Place} {line : Text} {edits : List Edit}
    (h : Moves book defaultClass place line edits next) :
    next.className defaultClass =
      ((ClassHeader.ofLine? line).map (·.name)).getD (place.className defaultClass) := by
  cases h with
  | blank => rfl
  | classHeader _ h => rw [h]; rfl
  | methodHeader _ h => rw [Line.classHeader_none_of_methodHeader h]; rfl
  | bareHeader _ hclass _ _ => rw [hclass]; rfl
  | content _ _ hclass _ _ => rw [hclass]; rfl
  | close _ _ _ h => rw [Line.classHeader_none_of_closesMethod h]; rfl
  | body _ _ _ _ h => rw [h.no_class]; rfl

lemma lastClass_cons (name line : Text) (rest : List Text) :
    lastClass name (line :: rest) =
      lastClass (((ClassHeader.ofLine? (Text.trim line)).map (·.name)).getD name) rest := by
  unfold lastClass
  rw [classHeaders_cons]
  cases ClassHeader.ofLine? (Text.trim line) with
  | none => rfl
  | some header =>
    rw [Option.toList_some, List.singleton_append, List.getLast?_cons]
    cases (classHeaders rest).getLast? <;> rfl

lemma className_reach (place : Place) (lines : List Text) :
    (reach book defaultClass place lines).className defaultClass =
      lastClass (place.className defaultClass) lines := by
  induction lines generalizing place with
  | nil => rfl
  | cons line rest ih =>
    rw [reach, ih, (moves_move book defaultClass place (Text.trim line)).className_next,
      lastClass_cons]

/-! ### Inside a method -/

lemma log_body (name : Text) (signature : Signature) (taken : List Text) {body : List Text}
    (h : ∀ line ∈ body, Line.IsBody (Text.trim line)) :
    log book defaultClass (.inMethod name signature taken) body = [] ∧
      reach book defaultClass (.inMethod name signature taken) body =
        .inMethod name signature (taken ++ bodyOf book body) := by
  induction body generalizing taken with
  | nil => simp [log, reach, bodyOf]
  | cons line rest ih =>
    obtain ⟨hline, hrest⟩ := List.forall_mem_cons.mp h
    by_cases hblank : Text.trim line = []
    · rw [log, reach, hblank, (Moves.blank _).move_eq, bodyOf_cons, if_pos hblank]
      exact ih taken hrest
    · rw [log, reach, (Moves.body name signature taken hblank hline).move_eq, bodyOf_cons,
        if_neg hblank]
      simpa using ih (taken ++ [book.convert (Text.trim line)]) hrest

/-! ### After the first line that is not blank -/

lemma Moves.next_ne_outside {place next : Place} {line : Text} {edits : List Edit}
    (h : Moves book defaultClass place line edits next) (hstart : line ≠ [] ∨ place ≠ .outside) :
    next ≠ .outside := by
  cases h with
  | blank => simpa using hstart
  | _ => exact Place.noConfusion

lemma reach_ne_outside {place : Place} {lines : List Text}
    (h : (∃ line ∈ lines, Text.trim line ≠ []) ∨ place ≠ .outside) :
    reach book defaultClass place lines ≠ .outside := by
  induction lines generalizing place with
  | nil => simpa [reach] using h
  | cons line rest ih =>
    rw [reach]
    apply ih
    have hmove := moves_move book defaultClass place (Text.trim line)
    rcases h with ⟨other, hother, hne⟩ | hplace
    · rcases List.mem_cons.mp hother with rfl | hrest
      · exact .inr (hmove.next_ne_outside (.inl hne))
      · exact .inl ⟨other, hrest, hne⟩
    · exact .inr (hmove.next_ne_outside (.inr hplace))

lemma entry_eq_nil {place : Place} (h : place ≠ .outside) : place.entry defaultClass = [] := by
  cases place with
  | outside => exact absurd rfl h
  | inClass | inMethod => rfl

variable (book defaultClass) in
/-- A header of a method that comes after the first line leaves the scan in a method of the same
class, if only in the one that was open before. -/
lemma move_of_isMethodHeader {place : Place} (hplace : place ≠ .outside) {line : Text}
    (h : Line.IsMethodHeader line) :
    ∃ signature taken, place.move book defaultClass line =
      ([], .inMethod (place.className defaultClass) signature taken) := by
  cases hmethod : Line.methodHeader? line with
  | some header =>
    rw [(Moves.methodHeader place hmethod).move_eq, entry_eq_nil hplace]
    exact ⟨_, _, rfl⟩
  | none =>
    rcases h with h | ⟨hclass, owner, h⟩
    · simp [hmethod] at h
    rw [Signature.isSome_ofLine? _ (place.className defaultClass)] at h
    obtain ⟨signature, hs⟩ := Option.isSome_iff_exists.mp h
    cases place with
    | outside => exact absurd rfl hplace
    | inClass name =>
      rw [(Moves.bareHeader rfl hclass hmethod hs).move_eq]
      exact ⟨_, _, rfl⟩
    | inMethod name open_ taken =>
      -- one more statement of the open method, as the line that closes it has no parenthesis
      have hne : line ≠ [] := List.ne_nil_of_mem (Signature.paren_mem_of_ofLine? hs)
      have hclose : Line.closesMethod line = false := by
        refine Bool.eq_false_iff.mpr fun hclose => ?_
        rw [Signature.none_of_closesMethod hclose] at hs
        simp at hs
      rw [(Moves.body name open_ taken hne ⟨hclass, hmethod, hclose⟩).move_eq]
      exact ⟨_, _, rfl⟩

/-- Before a header with a keyword, a method that is open makes no difference. -/
lemma log_eq_of_header {place other : Place} (hplace : place ≠ .outside) (hother : other ≠ .outside)
    (hname : place.className defaultClass = other.className defaultClass) {lines : List Text}
    (h : (firstLine? lines).all fun line =>
      (ClassHeader.ofLine? line).isSome || (Line.methodHeader? line).isSome) :
    log book defaultClass place lines = log book defaultClass other lines := by
  apply log_congr
  intro line hline
  rw [hline, Option.all_some, Bool.or_eq_true, Option.isSome_iff_exists,
    Option.isSome_iff_exists] at h
  rcases h with ⟨header, hclass⟩ | ⟨header, hmethod⟩
  · rw [(Moves.classHeader place hclass).move_eq, (Moves.classHeader other hclass).move_eq]
  · rw [(Moves.methodHeader place hmethod).move_eq, (Moves.methodHeader other hmethod).move_eq,
      entry_eq_nil hplace, entry_eq_nil hother, hname]

lemma replay_entry_apply (o : Outline) (place : Place) (change : Change) :
    (o.replay (place.entry defaultClass)).apply ⟨place.className defaultClass, change⟩ =
      (o.declare (place.className defaultClass) none).apply
        ⟨place.className defaultClass, change⟩ := by
  cases place with
  | outside => rfl
  | inClass name => exact (Outline.apply_declare o ⟨name, change⟩).symm
  | inMethod name signature body => exact (Outline.apply_declare o ⟨name, change⟩).symm

end Place

namespace Outline

variable {book : Rulebook} {defaultClass : Text}

/-- A method that is opened and closed is added to the class of the last class header before
it, and nothing else changes. This is so even if it is opened inside another method, which is
then dropped. -/
theorem ofLines_closedMethod (before body : List Text) {opening closing header : Text}
    (hopen : (Scan.after book defaultClass before).place.Opens (Text.trim opening) header)
    (hbody : ∀ line ∈ body, Line.IsBody (Text.trim line))
    (hclose : Line.closesMethod (Text.trim closing) = true) :
    ofLines book defaultClass (before ++ [opening] ++ body ++ [closing]) =
      ((ofLines book defaultClass before).declare (lastClass defaultClass before) none).update
        (lastClass defaultClass before)
        (·.addMethod ⟨.ofHeader (lastClass defaultClass before) header, bodyOf book body⟩) := by
  let place := Place.reach book defaultClass .outside before
  have hname : place.className defaultClass = lastClass defaultClass before :=
    Place.className_reach .outside before
  rw [Scan.after_eq] at hopen
  have hlog : Place.log book defaultClass place ([opening] ++ body ++ [closing]) =
      place.entry defaultClass ++ [⟨place.className defaultClass,
        .method ⟨.ofHeader (place.className defaultClass) header, bodyOf book body⟩⟩] := by
    obtain ⟨hnil, hreach⟩ := Place.log_body (place.className defaultClass)
      (.ofHeader (place.className defaultClass) header) [] hbody
    rw [List.singleton_append, List.cons_append, Place.log, hopen.move_eq, Place.log_append, hnil,
      hreach, Place.log, (Place.Moves.close _ _ _ hclose).move_eq]
    rfl
  rw [List.append_assoc, List.append_assoc, ← List.append_assoc [opening], ofLines_eq_replay,
    Place.log_append, replay_append, hlog, replay_append, ← ofLines_eq_replay, replay_cons,
    replay_nil, Place.replay_entry_apply, hname]
  rfl

theorem ofLines_closedMethod_speak :
    let before := ["class Dog", "function bark()", "print 1"].map String.toList
    let body := ["int age", "", "greet(name)", "return n"].map String.toList
    let opening := "  FUNCTION string speak(int n)".toList
    let closing := " EndFunction ".toList
    let header := "string speak(int n)".toList
    (Scan.after .empty "Main".toList before).place.Opens (Text.trim opening) header ∧
      (∀ line ∈ body, Line.IsBody (Text.trim line)) ∧
      Line.closesMethod (Text.trim closing) = true ∧
      ofLines .empty "Main".toList (before ++ [opening] ++ body ++ [closing]) =
        ((ofLines .empty "Main".toList before).declare (lastClass "Main".toList before) none).update
          (lastClass "Main".toList before)
          (·.addMethod ⟨.ofHeader (lastClass "Main".toList before) header,
            bodyOf .empty body⟩) :=
  ⟨.keyword (by decide), by decide, by decide,
    ofLines_closedMethod _ _ (.keyword (by decide)) (by decide) (by decide)⟩

/-- A method that is opened in a class, and then dropped for a class header, for a header with
the keyword or at the end of the text, leaves no trace. -/
theorem ofLines_droppedMethod {before body after : List Text} {opening : Text}
    (hbefore : ∃ line ∈ before, Text.trim line ≠ [])
    (hopen : Line.IsMethodHeader (Text.trim opening))
    (hbody : ∀ line ∈ body, Line.IsBody (Text.trim line))
    (hafter : (firstLine? after).all fun line =>
      (ClassHeader.ofLine? line).isSome || (Line.methodHeader? line).isSome) :
    ofLines book defaultClass (before ++ [opening] ++ body ++ after) =
      ofLines book defaultClass (before ++ after) := by
  let place := Place.reach book defaultClass .outside before
  have hplace : place ≠ .outside := Place.reach_ne_outside (.inl hbefore)
  obtain ⟨signature, taken, hmove⟩ :=
    Place.move_of_isMethodHeader book defaultClass hplace hopen
  obtain ⟨hnil, hreach⟩ := Place.log_body (place.className defaultClass) signature taken hbody
  have hlog : Place.log book defaultClass place ([opening] ++ body ++ after) =
      Place.log book defaultClass place after := by
    rw [List.singleton_append, List.cons_append, Place.log, hmove, List.nil_append,
      Place.log_append, hnil, hreach, List.nil_append]
    have hinside : Place.inMethod (place.className defaultClass) signature
        (taken ++ bodyOf book body) ≠ .outside := Place.noConfusion
    exact Place.log_eq_of_header hinside hplace rfl hafter
  rw [ofLines_eq_replay, ofLines_eq_replay, List.append_assoc, List.append_assoc,
    ← List.append_assoc [opening], Place.log_append, hlog, Place.log_append]

theorem ofLines_droppedMethod_speak :
    let before := ["class Dog", "int age"].map String.toList
    let opening := "speak(int n)".toList
    let body := ["print n", "string name", "bark()"].map String.toList
    let after := ["", "Function int bark()", "return 1", "endfunction"].map String.toList
    (∃ line ∈ before, Text.trim line ≠ []) ∧ Line.IsMethodHeader (Text.trim opening) ∧
      (∀ line ∈ body, Line.IsBody (Text.trim line)) ∧
      ((firstLine? after).all fun line =>
        (ClassHeader.ofLine? line).isSome || (Line.methodHeader? line).isSome) = true ∧
      ofLines .empty "Main".toList (before ++ [opening] ++ body ++ after) =
        ofLines .empty "Main".toList (before ++ after) := by
  have hopen : Line.IsMethodHeader (Text.trim "speak(int n)".toList) :=
    .inr ⟨by decide, "Dog".toList, by decide⟩
  exact ⟨by decide, hopen, by decide, by decide,
    ofLines_droppedMethod (by decide) hopen (by decide) (by decide)⟩

end Outline
end Pseudocode
