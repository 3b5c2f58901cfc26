import Pseudocode.Proofs.Headerless

/-!
# Layout

A conversion sees its lines trimmed. White space around a line, carriage returns and blank lines
are therefore the writer's own: the first two never make a difference, and blank lines make none
to classes and methods. Without headers a blank line is still a statement, but a blank one, which
the program leaves out as long as the rules leave the empty line alone.
-/

namespace Pseudocode
namespace Text

/-! ### Trimmed lines -/

lemma trim_eq_nil_iff (t : Text) : trim t = [] ↔ isBlank t = true := by
  have hend : trim t = [] ↔ ∀ c ∈ trimStart t, isWhite c = true := List.rdropWhile_eq_nil_iff
  rw [hend, isBlank, List.all_eq_true]
  constructor
  · intro h c hc
    -- the first character that is not white would stand at the start
    by_contra hwhite
    have hne : trimStart t ≠ [] := fun hnil => hwhite (List.dropWhile_eq_nil_iff.mp hnil c hc)
    have hfirst := Bool.eq_false_iff.mp (List.head_dropWhile_not isWhite hne)
    exact absurd (h _ (List.head_mem hne)) hfirst
  · exact fun h c hc => h c ((List.dropWhile_sublist _).mem hc)

lemma trim_append_white {c : Char} (hc : isWhite c = true) (t : Text) :
    trim (t ++ [c]) = trim t := by
  have hstart : trimStart (t ++ [c]) =
      if (trimStart t).isEmpty then [] else trimStart t ++ [c] := by
    rw [trimStart, List.dropWhile_append, List.dropWhile_cons_of_pos hc]
    rfl
  rw [trim, hstart]
  split_ifs with hblank
  · rw [trim, List.isEmpty_iff.mp hblank]
  · exact List.rdropWhile_concat_pos isWhite (trimStart t) c hc

lemma dropReturn_concat (t : Text) (c : Char) :
    dropReturn (t ++ [c]) = if c = '\r' then t else t ++ [c] := by
  induction t with
  | nil => by_cases hc : c = '\r' <;> simp [dropReturn, hc]
  | cons a t ih =>
    have hne : t ++ [c] ≠ [] := List.append_ne_nil_of_right_ne_nil t (List.cons_ne_nil c [])
    rw [List.cons_append, dropReturn, ih]
    · split_ifs <;> rfl
    · exact fun _ hnil => hne hnil

lemma trim_dropReturn (t : Text) : trim (dropReturn t) = trim t := by
  rcases List.eq_nil_or_concat' t with rfl | ⟨s, c, rfl⟩
  · rfl
  · rw [dropReturn_concat]
    split_ifs with hc
    · rw [hc, trim_append_white (by decide)]
    · rfl

/-! ### Line ends -/

def withReturns (t : Text) : Text := t.flatMap fun c => if c = '\n' then ['\r', '\n'] else [c]

lemma splitAt_ne_nil (isCut : Char → Bool) (t : Text) : splitAt isCut t ≠ [] := by
  cases t with
  | nil => exact List.cons_ne_nil _ _
  | cons c rest =>
    rw [splitAt]
    split_ifs
    · exact List.cons_ne_nil _ _
    · split <;> exact List.cons_ne_nil _ _

lemma splitAt_cons_of_neg (isCut : Char → Bool) {c : Char} (hc : isCut c = false) (rest : Text) :
    splitAt isCut (c :: rest) =
      (c :: (splitAt isCut rest).headD []) :: (splitAt isCut rest).tail := by
  obtain ⟨piece, pieces, h⟩ := List.exists_cons_of_ne_nil (splitAt_ne_nil isCut rest)
  rw [splitAt, hc, if_neg Bool.false_ne_true, h]
  rfl

/-- Every piece of a text but the last takes the carriage return of its line feed. -/
lemma splitAt_withReturns (t : Text) :
    splitAt (· == '\n') (withReturns t) =
      (splitAt (· == '\n') t).dropLast.map (· ++ ['\r']) ++
        [(splitAt (· == '\n') t).getLastD []] := by
  induction t with
  | nil => rfl
  | cons c rest ih =>
    obtain ⟨piece, pieces, hpieces⟩ := List.exists_cons_of_ne_nil (splitAt_ne_nil (· == '\n') rest)
    rw [hpieces] at ih
    rw [withReturns, List.flatMap_cons, ← withReturns]
    by_cases hc : c = '\n'
    · have hcut (t : Text) : splitAt (· == '\n') ('\n' :: t) = [] :: splitAt (· == '\n') t := rfl
      rw [if_pos hc, hc, List.cons_append, List.singleton_append, splitAt_cons_of_neg _ rfl,
        hcut, hcut, ih, hpieces]
      rfl
    · have hcut : (c == '\n') = false := beq_eq_false_iff_ne.mpr hc
      rw [if_neg hc, List.singleton_append, splitAt_cons_of_neg (· == '\n') hcut,
        splitAt_cons_of_neg (· == '\n') hcut, ih, hpieces]
      cases pieces <;> rfl

lemma lines_eq (t : Text) :
    lines t = (splitAt (· == '\n') t).dropLast.map dropReturn ++
      if ((splitAt (· == '\n') t).getLastD []).isEmpty then []
      else [(splitAt (· == '\n') t).getLastD []] := rfl

lemma map_trim_lines_withReturns (t : Text) :
    (lines (withReturns t)).map trim = (lines t).map trim := by
  have hdrop (pieces : List Text) : (pieces.map (· ++ ['\r'])).map dropReturn = pieces := by
    rw [List.map_map]
    exact (List.map_congr_left fun piece _ => by simp [dropReturn_concat]).trans pieces.map_id
  have htrim (pieces : List Text) : (pieces.map dropReturn).map trim = pieces.map trim := by
    rw [List.map_map]
    exact List.map_congr_left fun piece _ => trim_dropReturn piece
  rw [lines_eq, lines_eq, splitAt_withReturns, List.dropLast_concat, List.getLastD_concat, hdrop,
    List.map_append, List.map_append, htrim]

end Text

/-! ### Conversions of trimmed lines -/

lemma Mode.ofLines_congr {lines other : List Text}
    (h : lines.map Text.trim = other.map Text.trim) : Mode.ofLines lines = Mode.ofLines other := by
  -- whether a line marks a class or a method is asked of the line trimmed
  let marks (line : Text) : Bool := (Keyword.after? "class ".toList line).isSome ||
    (Keyword.after? "function ".toList line).isSome
  have hmarks (lines : List Text) :
      lines.any Line.isStructural = (lines.map Text.trim).any marks := by
    rw [List.any_map]
    rfl
  rw [ofLines, ofLines, hmarks, hmarks, h]

lemma Scan.after_congr (book : Rulebook) (defaultClass : Text) {lines other : List Text}
    (h : lines.map Text.trim = other.map Text.trim) :
    after book defaultClass lines = after book defaultClass other := by
  have hfold (lines : List Text) : after book defaultClass lines =
      (lines.map Text.trim).foldl (·.step book defaultClass ·) start := List.foldl_map.symm
  rw [hfold, hfold, h]

lemma Converter.convertLines_congr (c : Converter) {lines other : List Text}
    (h : lines.map Text.trim = other.map Text.trim) :
    c.convertLines lines = c.convertLines other := by
  have hstatements (lines : List Text) : (lines.map fun line => c.book.convert (Text.trim line)) =
      (lines.map Text.trim).map c.book.convert := by
    rw [List.map_map]
    rfl
  have hprocedural : c.proceduralOutline lines = c.proceduralOutline other := by
    rw [proceduralOutline, proceduralOutline, hstatements, hstatements, h]
  have hstructural : Outline.ofLines c.book c.defaultClass lines =
      Outline.ofLines c.book c.defaultClass other :=
    congrArg Scan.outline (Scan.after_congr c.book c.defaultClass h)
  rw [convertLines, convertLines, Mode.ofLines_congr h, hprocedural, hstructural]

/-! ### Blank lines -/

def nonBlank (lines : List Text) : List Text := lines.filter (!Text.isBlank ·)

lemma Mode.ofLines_nonBlank (lines : List Text) : ofLines (nonBlank lines) = ofLines lines := by
  have hline (line : Text) : (!Text.isBlank line && Line.isStructural line) =
      Line.isStructural line := by
    cases hmarker : Line.isStructural line with
    | false => exact Bool.and_false _
    | true =>
      have hblank : Text.isBlank line = false :=
        Bool.eq_false_iff.mpr (mt (Text.trim_eq_nil_iff line).mpr
          (Line.trim_ne_nil_of_isStructural hmarker))
      rw [hblank]
      rfl
  rw [ofLines, ofLines, nonBlank, List.any_filter]
  simp only [hline]

lemma Scan.after_nonBlank (book : Rulebook) (defaultClass : Text) (lines : List Text) :
    after book defaultClass (nonBlank lines) = after book defaultClass lines := by
  have hstep : (fun (scan : Scan) (line : Text) =>
      if !Text.isBlank line then scan.step book defaultClass (Text.trim line) else scan) =
        fun scan line => scan.step book defaultClass (Text.trim line) := by
    funext scan line
    cases hblank : Text.isBlank line with
    | false => rfl
    | true =>
      rw [(Text.trim_eq_nil_iff line).mpr hblank]
      rfl
  rw [after, nonBlank, List.foldl_filter, hstep, after]

lemma bodyOf_eq (book : Rulebook) (lines : List Text) :
    bodyOf book lines = (nonBlank lines).map fun line => book.convert (Text.trim line) := by
  have hline : (fun line => !(Text.trim line).isEmpty) = fun line => !Text.isBlank line := by
    funext line
    rw [Bool.eq_iff_iff, Bool.not_eq_true', Bool.not_eq_true', List.isEmpty_eq_false_iff,
      ← Bool.not_eq_true, ← Text.trim_eq_nil_iff]
  rw [bodyOf, List.filter_map, List.map_map, nonBlank, ← hline]
  rfl

namespace Converter

variable (c : Converter)

lemma mode_convertLines (lines : List Text) : (c.convertLines lines).mode = Mode.ofLines lines := by
  rw [convertLines]
  split
  · rename_i hmode
    exact hmode.symm
  · rename_i hmode
    exact hmode.symm

lemma convertLines_nonBlank {lines : List Text} (h : Mode.ofLines lines = .structural) :
    c.convertLines (nonBlank lines) = c.convertLines lines := by
  have houtline : Outline.ofLines c.book c.defaultClass (nonBlank lines) =
      Outline.ofLines c.book c.defaultClass lines :=
    congrArg Scan.outline (Scan.after_nonBlank c.book c.defaultClass lines)
  rw [convertLines, convertLines, Mode.ofLines_nonBlank, h, houtline]

lemma program_of_procedural {lines : List Text} (h : Mode.ofLines lines = .procedural) :
    (c.convertLines lines).program = ⟨c.defaultClass, [⟨c.defaultClass, Java.source c.indent
      (.ofStatements c.defaultClass
        (lines.map fun line => c.book.convert (Text.trim line))) true true⟩]⟩ := by
  rw [c.convertLines_of_procedural h]
  exact Java.Program.ofOutline_ofStatements c.style .always _

lemma program_nonBlank (hbook : c.book.IgnoresEmpty) {lines : List Text}
    (h : Mode.ofLines lines = .procedural) :
    (c.convertLines (nonBlank lines)).program = (c.convertLines lines).program := by
  have hshown := filter_bodyOf hbook lines
  rw [bodyOf_eq] at hshown
  rw [c.program_of_procedural h, c.program_of_procedural ((Mode.ofLines_nonBlank lines).trans h),
    Java.source_ofStatements c.indent c.defaultClass
      ((Bool.or_true _).trans (Bool.or_true _).symm) hshown]

/-- The layout of a text makes no difference to its conversion: neither white space around lines
nor carriage returns before line feeds, nor blank lines in a text of classes and methods. Without
headers blank lines make no difference to the program if no pattern matches the empty line. -/
theorem convertLines_layout :
    (∀ lines other, List.Forall₂ (fun a b => Text.trim a = Text.trim b) lines other →
        c.convertLines lines = c.convertLines other) ∧
      (∀ t, c.convert (Text.withReturns t) = c.convert t) ∧
      (∀ lines other, nonBlank lines = nonBlank other →
        (c.convertLines lines).mode = .structural → c.convertLines lines = c.convertLines other) ∧
      ∀ lines other, nonBlank lines = nonBlank other →
        (c.convertLines lines).mode = .procedural → c.book.IgnoresEmpty →
          (c.convertLines lines).program = (c.convertLines other).program := by
  have hmode {lines other : List Text} (h : nonBlank lines = nonBlank other) :
      Mode.ofLines other = (c.convertLines lines).mode := by
    rw [mode_convertLines, ← Mode.ofLines_nonBlank other, ← h, Mode.ofLines_nonBlank]
  refine ⟨fun lines other h => ?_, fun t => ?_, fun lines other h hstructural => ?_,
    fun lines other h hprocedural hbook => ?_⟩
  · apply c.convertLines_congr
    induction h with
    | nil => rfl
    | cons hline _ ih => rw [List.map_cons, List.map_cons, hline, ih]
  · exact c.convertLines_congr (Text.map_trim_lines_withReturns t)
  · have hlines : Mode.ofLines lines = .structural :=
      (c.mode_convertLines lines).symm.trans hstructural
    rw [← c.convertLines_nonBlank hlines, h, c.convertLines_nonBlank ((hmode h).trans hstructural)]
  · have hlines : Mode.ofLines lines = .procedural :=
      (c.mode_convertLines lines).symm.trans hprocedural
    have hother : Mode.ofLines other = .procedural := (hmode h).trans hprocedural
    rw [← c.program_nonBlank hbook hlines, h, c.program_nonBlank hbook hother]

theorem convertLines_layout_examples :
    let c : Converter := ⟨.standard, "Main".toList, "  ".toList⟩
    let plain := ["class Dog", "int age", "function bark()", "print 1",
      "endfunction"].map String.toList
    let indented := ["class Dog", "\tint age ", "  function bark()\r", "\u3000print 1",
      "endfunction"].map String.toList
    let spaced := ["", "class Dog", "int age", " \t", "function bark()", "", "print 1",
      "endfunction", ""].map String.toList
    let statements := ["print 1", "set n to 5"].map String.toList
    let apart := ["", "print 1", "\t", "set n to 5"].map String.toList
    c.convertLines plain = c.convertLines indented ∧
      c.convert (Text.withReturns "class Dog\nint age\n".toList) =
        c.convert "class Dog\nint age\n".toList ∧
      ((c.convertLines plain).mode = .structural ∧ c.convertLines plain = c.convertLines spaced) ∧
      (c.convertLines statements).mode = .procedural ∧ c.book.IgnoresEmpty ∧
        (c.convertLines statements).program = (c.convertLines apart).program := by
  intro c plain indented spaced statements apart
  obtain ⟨htrim, hreturns, hstructural, hprocedural⟩ := c.convertLines_layout
  have hbook : c.book.IgnoresEmpty := Rulebook.ignoresEmpty_standard
  have hplain : (c.convertLines plain).mode = .structural := by decide
  have hstatements : (c.convertLines statements).mode = .procedural := by decide
  exact ⟨htrim _ _ (by decide), hreturns _, ⟨hplain, hstructural _ _ (by decide) hplain⟩,
    hstatements, hbook, hprocedural _ _ (by decide) hstatements hbook⟩

end Converter
end Pseudocode
