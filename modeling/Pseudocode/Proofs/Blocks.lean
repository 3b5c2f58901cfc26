import Pseudocode.Proofs.BlockLines
import Pseudocode.Proofs.Layout

/-!
# Programs of nested blocks

A program without headers is a sequence of lines in which branches and loops may be nested to any
depth, each with a line that opens it and one that closes it. Under the standard rules the
statements of these lines are balanced, and so is the source that they are put into.
-/

namespace Pseudocode

open Text Line

/-! ### Nested blocks -/

/-- What lines may be the lines of. -/
inductive BlockPart where
  /-- A sequence of lines, branches and loops. -/
  | body
  /-- What follows the first body of a branch, with the line that closes the branch. -/
  | alternatives

/-- The lines of a part of a program. -/
inductive IsBlock : BlockPart → List Text → Prop
  | nil : IsBlock .body []
  | simple {line : Text} {rest : List Text} (hline : IsSimple line) (hrest : IsBlock .body rest) :
      IsBlock .body (line :: rest)
  | branch {line : Text} {inner others rest : List Text}
      (hline : IsConditional "if".toList "then".toList line) (hinner : IsBlock .body inner)
      (hothers : IsBlock .alternatives others) (hrest : IsBlock .body rest) :
      IsBlock .body (line :: (inner ++ (others ++ rest)))
  | loop {line last : Text} {inner rest : List Text}
      (hline : IsConditional "while".toList "do".toList line) (hinner : IsBlock .body inner)
      (hlast : IsEnd "while".toList last) (hrest : IsBlock .body rest) :
      IsBlock .body (line :: (inner ++ (last :: rest)))
  | count {line last : Text} {inner rest : List Text}
      (hline : IsCounted line) (hinner : IsBlock .body inner)
      (hlast : IsNext last ∨ IsEnd "for".toList last) (hrest : IsBlock .body rest) :
      IsBlock .body (line :: (inner ++ (last :: rest)))
  | elseIf {line : Text} {inner others : List Text}
      (hline : IsElseIf line) (hinner : IsBlock .body inner)
      (hothers : IsBlock .alternatives others) : IsBlock .alternatives (line :: (inner ++ others))
  | otherwise {line last : Text} {inner : List Text}
      (hline : IsKeyword "else".toList line) (hinner : IsBlock .body inner)
      (hlast : IsEnd "if".toList last) : IsBlock .alternatives (line :: (inner ++ [last]))
  | done {last : Text} (hlast : IsEnd "if".toList last) : IsBlock .alternatives [last]

/-- A text is balanced in its place: after the brace of a branch, if it goes on with one. -/
def BlockPart.IsBalanced : BlockPart → Text → Prop
  | body, t => Balanced t
  | alternatives, t => Balanced ('\x7b' :: t)

/-- The statements of lines under the standard rules, put together. -/
def statements (lines : List Text) : Text := lines.flatMap Rulebook.standard.convert

lemma braces_statements_cons (line : Text) (rest : List Text) :
    braces (statements (line :: rest)) =
      braces (Rulebook.standard.convert line) ++ braces (statements rest) := by
  rw [statements, List.flatMap_cons, braces_append, statements]

lemma braces_statements_append (lines rest : List Text) : braces (statements (lines ++ rest)) =
    braces (statements lines) ++ braces (statements rest) := by
  rw [statements, List.flatMap_append, braces_append, statements, statements]

namespace IsBlock

variable {part : BlockPart} {lines : List Text}

lemma isTakenBy_last {last : Text} (h : IsNext last ∨ IsEnd "for".toList last) :
    IsTakenBy .closing last :=
  h.elim IsNext.isTakenBy fun h => h.isTakenBy (by simp [BlockRule.closing])

lemma balanced_loop {line last : Text} {inner rest : List Text}
    (hline : braces (Rulebook.standard.convert line) = ['\x7b'])
    (hlast : braces (Rulebook.standard.convert last) = ['\x7d'])
    (hinner : Balanced (braces (statements inner)))
    (hrest : Balanced (braces (statements rest))) :
    Balanced (braces (statements (line :: (inner ++ (last :: rest))))) := by
  have hblock := hinner.enclose.append hrest
  rw [braces_statements_cons, braces_statements_append, braces_statements_cons, hline, hlast]
  simpa using hblock

lemma isBalanced_braces (h : IsBlock part lines) :
    part.IsBalanced (braces (statements lines)) := by
  -- a line of a branch closes one body and opens the next
  have hbetween {t : Text} (h : Balanced ('\x7b' :: t)) :
      Balanced ('\x7b' :: (['\x7d', '\x7b'] ++ t)) := balanced_nil.enclose.append h
  induction h with
  | nil => exact balanced_nil
  | simple hline _ ih =>
    rw [braces_statements_cons, Rulebook.braces_convert_of_key hline.plain hline.firstWord]
    exact ih
  | branch hline _ _ _ ihinner ihothers ihrest =>
    have hblock := (Balanced.open_append ihothers ihinner).append ihrest
    rw [List.cons_append, List.append_assoc] at hblock
    rw [braces_statements_cons, braces_statements_append, braces_statements_append,
      (hline.isTakenBy (by simp [BlockRule.standard])).braces_convert]
    exact hblock
  | loop hline _ hlast _ ihinner ihrest =>
    exact balanced_loop (hline.isTakenBy (by simp [BlockRule.standard])).braces_convert
      (hlast.isTakenBy (by simp [BlockRule.closing])).braces_convert ihinner ihrest
  | count hline _ hlast _ ihinner ihrest =>
    exact balanced_loop hline.isTakenBy.braces_convert (isTakenBy_last hlast).braces_convert
      ihinner ihrest
  | elseIf hline _ _ ihinner ihothers =>
    have hblock := hbetween (Balanced.open_append ihothers ihinner)
    rw [braces_statements_cons, braces_statements_append, hline.isTakenBy.braces_convert]
    exact hblock
  | otherwise hline _ hlast ihinner =>
    have hblock := hbetween ihinner.enclose
    rw [braces_statements_cons, braces_statements_append,
      (isTakenBy_otherwise hline).braces_convert, braces_statements_cons,
      (hlast.isTakenBy (by simp [BlockRule.closing])).braces_convert]
    exact hblock
  | done hlast =>
    rw [braces_statements_cons, (hlast.isTakenBy (by simp [BlockRule.closing])).braces_convert]
    exact balanced_nil.enclose

lemma trim_eq (h : IsBlock part lines) : ∀ line ∈ lines, trim line = line := by
  induction h with
  | nil => exact fun line hmem => absurd hmem List.not_mem_nil
  | simple hline _ ih => exact List.forall_mem_cons.mpr ⟨hline.trimmed, ih⟩
  | branch hline _ _ _ ihinner ihothers ihrest =>
    have hline := (hline.isTakenBy (by simp [BlockRule.standard])).isExpression.trimmed
    exact List.forall_mem_cons.mpr ⟨hline, List.forall_mem_append.mpr
      ⟨ihinner, List.forall_mem_append.mpr ⟨ihothers, ihrest⟩⟩⟩
  | loop hline _ hlast _ ihinner ihrest =>
    have hline := (hline.isTakenBy (by simp [BlockRule.standard])).isExpression.trimmed
    have hlast := (hlast.isTakenBy (by simp [BlockRule.closing])).isExpression.trimmed
    exact List.forall_mem_cons.mpr ⟨hline, List.forall_mem_append.mpr
      ⟨ihinner, List.forall_mem_cons.mpr ⟨hlast, ihrest⟩⟩⟩
  | count hline _ hlast _ ihinner ihrest =>
    have hline := hline.isTakenBy.isExpression.trimmed
    have hlast := (isTakenBy_last hlast).isExpression.trimmed
    exact List.forall_mem_cons.mpr ⟨hline, List.forall_mem_append.mpr
      ⟨ihinner, List.forall_mem_cons.mpr ⟨hlast, ihrest⟩⟩⟩
  | elseIf hline _ _ ihinner ihothers =>
    have hline := hline.isTakenBy.isExpression.trimmed
    exact List.forall_mem_cons.mpr ⟨hline, List.forall_mem_append.mpr ⟨ihinner, ihothers⟩⟩
  | otherwise hline _ hlast ihinner =>
    have hline := (isTakenBy_otherwise hline).isExpression.trimmed
    have hlast := (hlast.isTakenBy (by simp [BlockRule.closing])).isExpression.trimmed
    exact List.forall_mem_cons.mpr ⟨hline, List.forall_mem_append.mpr
      ⟨ihinner, List.forall_mem_singleton.mpr hlast⟩⟩
  | done hlast =>
    have hlast := (hlast.isTakenBy (by simp [BlockRule.closing])).isExpression.trimmed
    exact List.forall_mem_singleton.mpr hlast

end IsBlock

/-! ### The source of a program -/

namespace Java

lemma braces_line (parts : List Text) : braces (line parts) = parts.flatMap braces := by
  rw [line, braces_append, braces, List.filter_flatten, List.flatMap]
  exact List.append_nil _

variable {indent name : Text} (hindent : braces indent = [])

include hindent

lemma braces_entryPoint (s : List Text) :
    braces (entryPoint indent true s) = '\x7b' :: (braces s.flatten ++ ['\x7d']) := by
  -- blank statements are left out, but they have no braces
  have hshown : braces ((s.filter (!isBlank ·)).flatMap fun statement =>
      line [indent, indent, statement]) = braces s.flatten := by
    induction s with
    | nil => rfl
    | cons statement rest ih =>
      rw [List.flatten_cons, braces_append, List.filter_cons]
      split
      · rw [List.flatMap_cons, braces_append, ih, braces_line]
        simp [hindent]
      · rename_i hblank
        have hwhite : ∀ c ∈ statement, isWhite c = true := by simpa [isBlank] using hblank
        rw [ih, braces_eq_nil_of_forall hwhite (by decide), List.nil_append]
  rw [entryPoint, braces_append, braces_append, braces_append, hshown, braces_line, braces_line,
    braces_line]
  simp only [List.flatMap_cons, List.flatMap_nil, hindent]
  rfl

lemma braces_source_ofStatements (hname : braces name = []) (s : List Text) :
    braces (source indent (.ofStatements name s) true true) =
      '\x7b' :: ('\x7b' :: (braces s.flatten ++ ['\x7d']) ++ ['\x7d']) := by
  have hhead : braces (head (.ofStatements name s)) = ['\x7b'] := by
    show braces (line ["public class ".toList, name, [], " \x7b".toList]) = ['\x7b']
    rw [braces_line]
    simp only [List.flatMap_cons, List.flatMap_nil, hname]
    rfl
  have hblocks : blocks indent (.ofStatements name s) true true = [entryPoint indent true s] := by
    simp [blocks, ClassOutline.ofStatements, ClassOutline.bare]
  rw [source, braces_append, braces_append, braces_append, hhead, hblocks, List.flatMap_singleton]
  show braces imports ++ ['\x7b'] ++ braces (entryPoint indent true s) ++ ['\x7d'] = _
  rw [braces_entryPoint hindent]
  rfl

end Java

lemma Converter.book_ofBook (book : Rulebook) : (ofBook book).book = book := rfl

lemma Converter.defaultClass_ofBook (book : Rulebook) :
    (ofBook book).defaultClass = "Main".toList := rfl

/-- Without a line that names a class or a method, nested blocks are a program of one class. -/
lemma IsBlock.program_eq {lines : List Text} (h : IsBlock .body lines) (c : Converter)
    (hplain : ∀ line ∈ lines, Line.isStructural line = false) :
    (c.convertLines lines).program = ⟨c.defaultClass, [⟨c.defaultClass, Java.source c.indent
      (.ofStatements c.defaultClass (lines.map c.book.convert)) true true⟩]⟩ := by
  have hany : ¬lines.any Line.isStructural = true := by simpa using hplain
  have htrim : (lines.map fun line => c.book.convert (trim line)) = lines.map c.book.convert :=
    List.map_congr_left fun line hline => by rw [h.trim_eq line hline]
  rw [c.program_of_procedural (if_neg hany), htrim]

/-- Under the standard rules the statements of nested blocks are balanced, and without a line that
names a class or a method so is the source of the program. -/
theorem IsBlock.balanced {lines : List Text} (h : IsBlock .body lines) :
    Balanced (lines.flatMap Rulebook.standard.convert) ∧
      ((∀ line ∈ lines, Line.isStructural line = false) →
        ∃ source, ((Converter.ofBook .standard).convertLines lines).program =
          ⟨"Main".toList, [⟨"Main".toList, source⟩]⟩ ∧ Balanced source) := by
  have hbraces : Balanced (braces (statements lines)) := h.isBalanced_braces
  have hbalanced : Balanced (statements lines) := hbraces.of_braces
  refine ⟨hbalanced, fun hplain => ?_⟩
  have hprogram := h.program_eq (.ofBook .standard) hplain
  rw [Converter.book_ofBook, Converter.defaultClass_ofBook] at hprogram
  refine ⟨_, hprogram, Balanced.of_braces ?_⟩
  rw [Java.braces_source_ofStatements (by decide) (by decide), ← List.flatMap_def]
  exact hbraces.enclose.enclose

theorem IsBlock.balanced_branch :
    let lines := ["IF x > 1 THEN", "while y", "print y", "End While", "Else If x",
      "FOR i=1 To n DO", "Next i", "else", "for k = a to b", "EndFor", "end if",
      "// done"].map String.toList
    IsBlock .body lines ∧ Balanced (lines.flatMap Rulebook.standard.convert) ∧
      (∀ line ∈ lines, Line.isStructural line = false) ∧
        ∃ source, ((Converter.ofBook .standard).convertLines lines).program =
          ⟨"Main".toList, [⟨"Main".toList, source⟩]⟩ ∧ Balanced source := by
  intro lines
  have hif : IsConditional "if".toList "then".toList "IF x > 1 THEN".toList :=
    ⟨"IF".toList, " ".toList, "x > 1 THEN".toList, rfl, by decide, by decide,
      .inr ⟨"x > 1".toList, " ".toList, "THEN".toList, rfl, by decide, by decide, by decide⟩⟩
  have hwhile : IsConditional "while".toList "do".toList "while y".toList :=
    ⟨"while".toList, " ".toList, "y".toList, rfl, by decide, by decide, .inl (by decide)⟩
  have hendWhile : IsEnd "while".toList "End While".toList :=
    ⟨"End".toList, " ".toList, "While".toList, rfl, by decide, by decide, by decide⟩
  have helseIf : IsElseIf "Else If x".toList :=
    ⟨"Else".toList, " ".toList, "If x".toList, rfl, by decide, by decide,
      "If".toList, " ".toList, "x".toList, rfl, by decide, by decide, .inl (by decide)⟩
  have hrange : IsRange "i=1 To n DO".toList :=
    ⟨"i".toList, [], [], "1 To n DO".toList, rfl, by decide, by decide, by decide,
      "1".toList, " ".toList, "To n DO".toList, rfl, by decide, by decide,
      "To".toList, " ".toList, "n DO".toList, rfl, by decide, by decide,
      .inr ⟨"n".toList, " ".toList, "DO".toList, rfl, by decide, by decide, by decide⟩⟩
  have hfor : IsCounted "FOR i=1 To n DO".toList :=
    ⟨"FOR".toList, " ".toList, "i=1 To n DO".toList, rfl, by decide, by decide, hrange⟩
  have hnext : IsNext "Next i".toList :=
    .inr ⟨"Next".toList, " ".toList, "i".toList, rfl, by decide, by decide, by decide⟩
  have hrange' : IsRange "k = a to b".toList :=
    ⟨"k".toList, " ".toList, " ".toList, "a to b".toList, rfl, by decide, by decide, by decide,
      "a".toList, " ".toList, "to b".toList, rfl, by decide, by decide,
      "to".toList, " ".toList, "b".toList, rfl, by decide, by decide, .inl (by decide)⟩
  have hfor' : IsCounted "for k = a to b".toList :=
    ⟨"for".toList, " ".toList, "k = a to b".toList, rfl, by decide, by decide, hrange'⟩
  have hendFor : IsEnd "for".toList "EndFor".toList :=
    ⟨"End".toList, [], "For".toList, rfl, by decide, by decide, by decide⟩
  have hendIf : IsEnd "if".toList "end if".toList :=
    ⟨"end".toList, " ".toList, "if".toList, rfl, by decide, by decide, by decide⟩
  have hloop : IsBlock .body (["while y", "print y", "End While"].map String.toList) :=
    .loop hwhile (.simple ⟨by decide, by decide, by decide, by decide⟩ .nil) hendWhile .nil
  have hcount : IsBlock .body (["FOR i=1 To n DO", "Next i"].map String.toList) :=
    .count hfor .nil (.inl hnext) .nil
  have hcount' : IsBlock .body (["for k = a to b", "EndFor"].map String.toList) :=
    .count hfor' .nil (.inr hendFor) .nil
  have hlines : IsBlock .body lines :=
    .branch hif hloop (.elseIf helseIf hcount (.otherwise (by decide) hcount' hendIf))
      (.simple ⟨by decide, by decide, by decide, by decide⟩ .nil)
  have hplain : ∀ line ∈ lines, Line.isStructural line = false := by decide
  obtain ⟨hbalanced, hprogram⟩ := IsBlock.balanced hlines
  exact ⟨hlines, hbalanced, hplain, hprogram hplain⟩

end Pseudocode
