import Pseudocode.Proofs.Slots
import Pseudocode.Proofs.SourceLines

/-!
# Texts without headers

Where no line opens a class or a method, every line is a statement of the entry point of one class,
whatever stands before and after it. Nothing is lost, merged or moved: the program is the frame of
that class around the statements in order, each on a line of its own, except for blank ones.
-/

namespace Pseudocode

lemma Outline.texts_ofStatements (name : Text) (statements : List Text) :
    (Outline.mk [.ofStatements name statements]).texts = statements :=
  List.append_nil statements

namespace Java

lemma lines_main (indent : Text) (statements : List Text) :
    (Procedure.main "Scanner".toList statements).lines indent =
      (indent ++ "public static void main(String[] args) \x7b".toList) ::
        (indent ++ indent ++ "Scanner sc = new Scanner(System.in);".toList) ::
          (statements.filter (!Text.isBlank ·)).map (indent ++ indent ++ ·) ++
        [indent ++ "\x7d".toList] := by
  have hhead : indent ++ "public static void main(String[] args)".toList ++ " \x7b".toList =
      indent ++ "public static void main(String[] args) \x7b".toList := List.append_assoc _ _ _
  exact congrArg (fun head => head :: _) hhead

def statementLines (indent name : Text) (statements : List Text) : List Text :=
  ["import java.util.*;".toList, [], "public class ".toList ++ name ++ " \x7b".toList, [],
      indent ++ "public static void main(String[] args) \x7b".toList,
      indent ++ indent ++ "Scanner sc = new Scanner(System.in);".toList] ++
    (statements.filter (!Text.isBlank ·)).map (indent ++ indent ++ ·) ++
    [indent ++ "\x7d".toList, "\x7d".toList]

lemma unitLines_ofStatements (indent name : Text) (statements : List Text) :
    unitLines indent (.ofStatements name statements) true true =
      statementLines indent name statements := by
  have hblocks : blockLines indent "Scanner".toList (.ofStatements name statements) true =
      [(Procedure.main "Scanner".toList statements).lines indent] := by
    rw [blockLines, fieldLines_of_eq_nil rfl, procedures, Bool.or_true, if_pos rfl]
    rfl
  have hhead : headLine (.ofStatements name statements) =
      "public class ".toList ++ name ++ " \x7b".toList := (List.append_assoc _ _ _).symm
  rw [unitLines, if_pos rfl, if_pos rfl, sourceLines, hblocks, lines_main, hhead, statementLines]
  simp only [List.flatMap_singleton, List.cons_append, List.nil_append, List.append_assoc]

end Java

namespace Converter

variable (c : Converter) {lines : List Text}

/-- Without headers every line is a statement by itself, in order, and the program has these
statements on the lines of its entry point, between those that every such program has. -/
theorem convertLines_lineByLine (h : ∀ line ∈ lines, Line.isStructural line = false) :
    let statements := lines.map fun line => c.book.convert (Text.trim line)
    let conversion := c.convertLines lines
    conversion.mode = .procedural ∧
      conversion.outline = ⟨[⟨c.defaultClass, none, [], [], statements⟩]⟩ ∧
      (∀ first second, lines = first ++ second → conversion.outline.texts =
        (c.convertLines first).outline.texts ++ (c.convertLines second).outline.texts) ∧
      conversion.program = ⟨c.defaultClass, [⟨c.defaultClass,
        Java.unlines (Java.statementLines c.indent c.defaultClass statements)⟩]⟩ := by
  intro statements conversion
  have houtline {lines : List Text} (h : ∀ line ∈ lines, Line.isStructural line = false) :
      (c.convertLines lines).outline = ⟨[.ofStatements c.defaultClass
        (lines.map fun line => c.book.convert (Text.trim line))]⟩ :=
    congrArg Conversion.outline
      (c.convertLines_of_procedural ((Mode.ofLines_eq_procedural_iff lines).mpr h))
  have hmode := (Mode.ofLines_eq_procedural_iff lines).mpr h
  refine ⟨(c.mode_convertLines lines).trans hmode, houtline h, ?_, ?_⟩
  · -- both parts have no headers either
    rintro first second rfl
    obtain ⟨hfirst, hsecond⟩ := List.forall_mem_append.mp h
    rw [show conversion.outline = _ from houtline h, houtline hfirst, houtline hsecond]
    simp only [Outline.texts_ofStatements, List.map_append]
  · rw [show conversion.program = _ from c.program_of_procedural hmode, Java.source_eq_unlines,
      Java.unitLines_ofStatements]

theorem convertLines_lineByLine_app :
    let c : Converter := ⟨.empty, "App".toList, "\t".toList⟩
    let first := ["  print 1", " "].map String.toList
    let second := ["classes = 2", "function"].map String.toList
    let conversion := c.convertLines (first ++ second)
    (∀ line ∈ first ++ second, Line.isStructural line = false) ∧
      conversion.outline = ⟨[⟨"App".toList, none, [], [],
        ["System.out.println(1);", "", "classes = 2;", "function;"].map String.toList⟩]⟩ ∧
      conversion.outline.texts =
        (c.convertLines first).outline.texts ++ (c.convertLines second).outline.texts ∧
      conversion.program = ⟨"App".toList, [⟨"App".toList, Java.unlines (["import java.util.*;", "",
        "public class App \x7b", "", "\tpublic static void main(String[] args) \x7b",
        "\t\tScanner sc = new Scanner(System.in);", "\t\tSystem.out.println(1);",
        "\t\tclasses = 2;", "\t\tfunction;", "\t\x7d", "\x7d"].map String.toList)⟩]⟩ := by
  intro c first second conversion
  have hlines : ∀ line ∈ first ++ second, Line.isStructural line = false := by decide
  obtain ⟨-, houtline, happend, hprogram⟩ := c.convertLines_lineByLine hlines
  have hstatements : (first ++ second).map (fun line => c.book.convert (Text.trim line)) =
      ["System.out.println(1);", "", "classes = 2;", "function;"].map String.toList := by decide
  rw [hstatements] at houtline hprogram
  exact ⟨hlines, houtline, happend first second rfl, hprogram⟩

end Converter
end Pseudocode
