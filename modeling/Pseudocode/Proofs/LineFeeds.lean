import Pseudocode.Proofs.SourceLines
import Mathlib

/-!
# Line feeds in sources

Each item of a class has one line of its source: a field, the note on a method, its head, each
statement, a closing brace, and the empty line before a block. No text brings a line feed of its
own, so that the lines of a source can be counted from its class.
-/

namespace Pseudocode

/-- The number of lines in the source of a class, with the imports if it is the class to launch. -/
def ClassOutline.sourceLength (c : ClassOutline) (isEntry hasMain : Bool) : Nat :=
  2 + (if isEntry then 2 else 0) + (if c.fields = [] then 0 else 1 + c.fields.length) +
    (c.methods.map fun m =>
      3 + m.body.length + if m.signature.diagnostic.isSome then 1 else 0).sum +
    if hasMain then 4 + (c.statements.filter (!Text.isBlank ·)).length else 0

namespace Java

open Text

/-! ### Line feeds between lines -/

lemma count_unlines {lines : List Text} (h : ∀ l ∈ lines, IsLine l) :
    (unlines lines).count '\n' = lines.length := by
  induction lines with
  | nil => rfl
  | cons l lines ih =>
    obtain ⟨hl, hlines⟩ := List.forall_mem_cons.mp h
    rw [unlines_cons, List.count_append, List.count_cons_self, List.count_eq_zero.mpr hl,
      ih hlines, Nat.zero_add, List.length_cons]

lemma splitAt_unlines {lines : List Text} (h : ∀ l ∈ lines, IsLine l) :
    splitAt (· == '\n') (unlines lines) = lines ++ [[]] := by
  induction lines with
  | nil => rfl
  | cons l lines ih =>
    obtain ⟨hl, hlines⟩ := List.forall_mem_cons.mp h
    have hcut : ∀ c ∈ l, (c == '\n') = false := fun c hc =>
      beq_eq_false_iff_ne.mpr fun heq => hl (heq ▸ hc)
    rw [unlines_cons, splitAt_append_cons rfl, splitAt_of_forall hcut, ih hlines]
    rfl

/-! ### The number of lines -/

variable {indent : Text}

lemma length_lines (p : Procedure) :
    (p.lines indent).length = 2 + p.statements.length + if p.note.isSome then 1 else 0 := by
  obtain ⟨note, head, statements⟩ := p
  cases note <;> simp [Procedure.lines] <;> omega

lemma sum_fieldLines (c : ClassOutline) : ((fieldLines indent c).map fun b => b.length + 1).sum =
    if c.fields = [] then 0 else 1 + c.fields.length := by
  split_ifs with h
  · rw [fieldLines_of_eq_nil h]
    rfl
  · rw [fieldLines_of_ne_nil h, List.map_singleton, List.sum_singleton, List.length_map,
      Nat.add_comm]

lemma sum_procedures (scanner : Text) (c : ClassOutline) (force : Bool) :
    ((procedures scanner c force).map fun p => (p.lines indent).length + 1).sum =
      (c.methods.map fun m =>
        3 + m.body.length + if m.signature.diagnostic.isSome then 1 else 0).sum +
      if c.hasEntry || force then 4 + (c.statements.filter (!isBlank ·)).length else 0 := by
  have hmethod (m : Method) : ((Procedure.ofMethod m).lines indent).length + 1 =
      3 + m.body.length + if m.signature.diagnostic.isSome then 1 else 0 :=
    calc ((Procedure.ofMethod m).lines indent).length + 1
      _ = 2 + m.body.length + (if m.signature.diagnostic.isSome then 1 else 0) + 1 :=
        congrArg (· + 1) (length_lines (.ofMethod m))
      _ = 3 + m.body.length + if m.signature.diagnostic.isSome then 1 else 0 := by omega
  have hmain : ((Procedure.main scanner c.statements).lines indent).length + 1 =
      4 + (c.statements.filter (!isBlank ·)).length := by
    rw [length_lines, Procedure.main, List.length_cons, Option.isSome_none,
      if_neg Bool.false_ne_true]
    omega
  rw [procedures, List.map_append, List.sum_append, List.map_map]
  congr 1
  · exact congrArg List.sum (List.map_congr_left fun m _ => hmethod m)
  · split_ifs
    · rw [List.map_singleton, List.sum_singleton, hmain]
    · rfl

lemma length_unitLines (c : ClassOutline) (isEntry force : Bool) :
    (unitLines indent c isEntry force).length = c.sourceLength isEntry (c.hasEntry || force) := by
  have himports : (if isEntry then ["import java.util.*;".toList, []] else []).length =
      if isEntry then 2 else 0 := by
    cases isEntry <;> rfl
  have hblocks (scanner : Text) :
      ((blockLines indent scanner c force).flatMap ([] :: ·)).length =
        ((fieldLines indent c).map fun b => b.length + 1).sum +
          ((procedures scanner c force).map fun p => (p.lines indent).length + 1).sum := by
    rw [List.length_flatMap, blockLines, List.map_append, List.sum_append, List.map_map]
    rfl
  rw [unitLines, List.length_append, himports, sourceLines, List.length_append, List.length_cons,
    hblocks, sum_fieldLines, sum_procedures, ClassOutline.sourceLength, List.length_singleton]
  omega

lemma isLine_unitLines {c : ClassOutline} (hc : c.IsOnLines) (hindent : indent.IsLine)
    (isEntry force : Bool) : ∀ l ∈ unitLines indent c isEntry force, IsLine l := by
  have himports : ∀ l ∈ if isEntry then ["import java.util.*;".toList, []] else [], IsLine l := by
    cases isEntry <;> decide
  have hscanner : IsLine (if isEntry then "Scanner".toList else "java.util.Scanner".toList) := by
    cases isEntry <;> decide
  exact List.forall_mem_append.mpr ⟨himports, isLine_sourceLines hc hindent hscanner force⟩

end Java

namespace Converter

variable {c : Converter}

/-- No text of a conversion has a line feed unless the indentation, the name of the default class or
a template has one. The line feeds of each source are then those between its lines: no diagnostic
and no other text runs on into a line of its own. -/
theorem convert_lineFeeds (hindent : c.indent.IsLine) (hname : c.defaultClass.IsLine)
    (htemplates : ∀ rule ∈ c.book.rules, rule.written.template.IsLine) (t : Text) :
    let outline := (c.convert t).outline
    let program := (c.convert t).program
    let isEntry (cls : ClassOutline) : Bool := cls.name == program.entryClass
    let forced (cls : ClassOutline) : Bool := isEntry cls && (c.convert t).mode == .procedural
    (∀ s ∈ outline.strings, Text.IsLine s) ∧
      List.Forall₂ (fun cls unit => unit.className = cls.name ∧
          Text.splitAt (· == '\n') unit.source =
            Java.unitLines c.indent cls (isEntry cls) (forced cls) ++ [[]] ∧
          unit.source.count '\n' = cls.sourceLength (isEntry cls) (cls.hasEntry || forced cls))
        outline.classes program.units := by
  intro outline program isEntry forced
  have hclasses : ∀ cls ∈ outline.classes, cls.IsOnLines := fun cls hcls =>
    (c.isFrom_convert t cls hcls).isOnLines htemplates hname
  obtain ⟨entryPoint, hprogram, hforced⟩ := c.program_convertLines (Text.lines t)
  have hunits : program.units =
      outline.classes.map (Java.Program.unitOf c.style entryPoint program.entryClass) := by
    rw [show program = _ from hprogram]
    rfl
  refine ⟨List.forall_mem_flatMap.mpr fun cls hcls => (hclasses cls hcls).of_mem_strings, ?_⟩
  -- class by class, the unit is made of lines that have no line feed
  rw [hunits, List.forall₂_map_right_iff, List.forall₂_same]
  intro cls hcls
  have hlines := Java.isLine_unitLines (hclasses cls hcls) hindent (isEntry cls) (forced cls)
  have hsource : (Java.Program.unitOf c.style entryPoint program.entryClass cls).source =
      Java.unlines (Java.unitLines c.indent cls (isEntry cls) (forced cls)) := by
    rw [← Java.source_eq_unlines, show forced cls = (isEntry cls && entryPoint == .always) from
      congrArg (isEntry cls && ·) hforced]
    rfl
  refine ⟨rfl, ?_, ?_⟩
  · rw [hsource, Java.splitAt_unlines hlines]
  · rw [hsource, Java.count_unlines hlines, Java.length_unitLines]

theorem convert_lineFeeds_dog :
    let c : Converter := ⟨.empty, "Main".toList, "\t".toList⟩
    let t := "class Dog\r\nint age\nfunction bark(\nprint 1\nendfunction\n\ninput x".toList
    let dog : ClassOutline := ⟨"Dog".toList, none,
      [.declared ⟨.owner, "int".toList, "age".toList⟩],
      [⟨.unreadable "Dog".toList "bark(".toList, ["System.out.println(1);".toList]⟩],
      ["// ERROR: Invalid input statement: input x".toList]⟩
    (c.convert t).outline = ⟨[dog]⟩ ∧ (∀ s ∈ (c.convert t).outline.strings, Text.IsLine s) ∧
      ∃ unit, (c.convert t).program.units = [unit] ∧
        "\t// ERROR Parsing function signature: bark(".toList ∈
          Text.splitAt (· == '\n') unit.source ∧ unit.source.count '\n' = 16 := by
  intro c t dog
  have houtline : (c.convert t).outline = ⟨[dog]⟩ := by decide +kernel
  have hentry : (c.convert t).program.entryClass = dog.name := by decide
  have hmode : (c.convert t).mode = .structural := by decide
  obtain ⟨hstrings, hunits⟩ :=
    convert_lineFeeds (c := c) (by decide) (by decide) (by decide) t
  rw [houtline, hentry, hmode] at hunits
  obtain ⟨unit, rest, ⟨-, hlines, hcount⟩, hrest, hunit⟩ := List.forall₂_cons_left_iff.mp hunits
  rw [List.forall₂_nil_left_iff.mp hrest] at hunit
  refine ⟨houtline, hstrings, unit, hunit, ?_, hcount.trans (by decide)⟩
  rw [hlines]
  decide

end Converter
end Pseudocode
