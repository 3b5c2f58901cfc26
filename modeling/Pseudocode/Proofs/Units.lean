import Pseudocode.Proofs.Marker
import Pseudocode.Proofs.Mentions

/-!
# The units of a program

A conversion has at least one class, since a line that marks a class or a method is not blank and
the first line that is not blank mentions a class. Each class is a unit of its own, and one of
them, the class to launch, begins with the imports. The type of the scanner in an entry point is
spelt in full where the imports are missing.
-/

namespace Pseudocode

/-! ### The classes of a conversion -/

namespace Place

variable {book : Rulebook} {defaultClass : Text}

lemma Moves.edits_ne_nil {line : Text} {edits : List Edit} {next : Place}
    (h : Moves book defaultClass .outside line edits next) (hne : line ≠ []) : edits ≠ [] := by
  cases h with
  | blank => exact absurd rfl hne
  | classHeader | methodHeader | bareHeader => exact List.cons_ne_nil _ _
  | content => exact List.append_ne_nil_of_right_ne_nil _ (List.cons_ne_nil _ _)

variable (book defaultClass) in
lemma log_ne_nil {lines : List Text} (h : ∃ line ∈ lines, Text.trim line ≠ []) :
    log book defaultClass .outside lines ≠ [] := by
  induction lines with
  | nil => simp at h
  | cons line rest ih =>
    have hmove := moves_move book defaultClass .outside (Text.trim line)
    rw [log]
    by_cases hblank : Text.trim line = []
    · rw [hblank, (Moves.blank .outside).move_eq]
      refine ih ?_
      obtain ⟨other, hother, hne⟩ := h
      rcases List.mem_cons.mp hother with rfl | hrest
      · exact absurd hblank hne
      · exact ⟨other, hrest, hne⟩
    · exact List.append_ne_nil_of_left_ne_nil (hmove.edits_ne_nil hblank) _

end Place

namespace Outline

variable {book : Rulebook} {defaultClass : Text}

lemma nodup_names_ofLines (lines : List Text) : (ofLines book defaultClass lines).names.Nodup := by
  rw [ofLines_eq_replay]
  exact nodup_names_replay (o := empty) List.nodup_nil _

lemma names_ofLines_ne_nil {lines : List Text} (h : ∃ line ∈ lines, Text.trim line ≠ []) :
    (ofLines book defaultClass lines).names ≠ [] := by
  obtain ⟨e, rest, hlog⟩ := List.exists_cons_of_ne_nil
    (Place.log_ne_nil book defaultClass h)
  rw [ofLines_eq_replay, names_replay, hlog, List.map_cons, List.eraseDups_cons]
  exact List.cons_ne_nil _ _

lemma exists_entryClass? {o : Outline} (hne : o.names ≠ []) (preferred : Text) :
    ∃ name ∈ o.names, o.entryClass? preferred = some name := by
  unfold entryClass?
  split_ifs with h
  · exact ⟨preferred, h, rfl⟩
  · exact ⟨o.names.head hne, List.head_mem hne, List.head?_eq_some_head hne⟩

lemma filter_name_eq {o : Outline} (h : o.names.Nodup) {c : ClassOutline} (hc : c ∈ o.classes) :
    o.classes.filter (·.name == c.name) = [c] := by
  obtain ⟨classes⟩ := o
  induction classes with
  | nil => simp at hc
  | cons d rest ih =>
    obtain ⟨hd, hrest⟩ := List.nodup_cons.mp h
    rcases List.mem_cons.mp hc with rfl | hc
    · -- no later class has the name of the first
      have hnone : rest.filter (·.name == c.name) = [] := by
        rw [List.filter_eq_nil_iff]
        intro e he hname
        exact hd (List.mem_map.mpr ⟨e, he, beq_iff_eq.mp hname⟩)
      have hfirst := List.filter_cons_of_pos (p := fun d => d.name == c.name) (l := rest)
        (beq_self_eq_true c.name)
      exact hfirst.trans (congrArg (c :: ·) hnone)
    · have hne : ¬(d.name == c.name) = true := by
        intro heq
        exact hd (List.mem_map.mpr ⟨c, hc, (beq_iff_eq.mp heq).symm⟩)
      have hfirst := List.filter_cons_of_neg (p := fun d => d.name == c.name) (l := rest) hne
      exact hfirst.trans (ih hrest hc)

end Outline

namespace Converter

variable (c : Converter) (lines : List Text)

lemma nodup_names_convertLines : (c.convertLines lines).outline.names.Nodup := by
  cases hmode : Mode.ofLines lines with
  | procedural =>
    rw [convertLines, hmode]
    exact List.pairwise_singleton _ _
  | structural =>
    rw [convertLines, hmode]
    exact Outline.nodup_names_ofLines lines

lemma names_convertLines_ne_nil : (c.convertLines lines).outline.names ≠ [] := by
  cases hmode : Mode.ofLines lines with
  | procedural =>
    rw [convertLines, hmode]
    exact List.cons_ne_nil _ _
  | structural =>
    obtain ⟨line, hline, hmarker⟩ := (Mode.ofLines_eq_structural_iff lines).mp hmode
    rw [convertLines, hmode]
    exact Outline.names_ofLines_ne_nil
      ⟨line, hline, Line.trim_ne_nil_of_isStructural hmarker⟩

end Converter

/-! ### The sources of a program -/

namespace Java

/-- Whether a source begins with the import of the class to launch. -/
def hasImports (source : Text) : Bool := "import java.util.*;\n".toList.isPrefixOf source

lemma hasImports_source (indent : Text) (c : ClassOutline) (isEntry force : Bool) :
    hasImports (source indent c isEntry force) = isEntry := by
  cases isEntry <;> rfl

/-- How a source with or without imports spells the type of its scanner. -/
def scannerType (source : Text) : Text :=
  if hasImports source then "Scanner".toList else "java.util.Scanner".toList

/-- A method of a source: its diagnostic, its head and its statements. -/
structure Procedure where
  note : Option Text
  head : Text
  statements : List Text
deriving DecidableEq

namespace Procedure

def render (indent : Text) (p : Procedure) : Text :=
  (match p.note with
    | some text => line [indent, "// ".toList, text]
    | none => [])
    ++ line [indent, p.head, " \x7b".toList]
    ++ p.statements.flatMap (fun statement => line [indent, indent, statement])
    ++ line [indent, "\x7d".toList]

def ofMethod (m : Method) : Procedure := ⟨m.signature.diagnostic, m.signature.declaration, m.body⟩

/-- The statement that declares a scanner of the given type. -/
def scannerDeclaration (scanner : Text) : Text :=
  scanner ++ ' ' :: Statement.scannerName ++ " = new ".toList ++ scanner ++ "(System.in);".toList

/-- The entry point for the given statements. -/
def main (scanner : Text) (statements : List Text) : Procedure :=
  ⟨none, "public static void main(String[] args)".toList,
    scannerDeclaration scanner :: statements.filter (!Text.isBlank ·)⟩

lemma render_main (indent : Text) (isEntry : Bool) (statements : List Text) :
    (main (if isEntry then "Scanner".toList else "java.util.Scanner".toList) statements).render
      indent = entryPoint indent isEntry statements := by
  cases isEntry <;> simp [main, render, entryPoint, scannerDeclaration, line]

end Procedure

def fieldBlocks (indent : Text) (c : ClassOutline) : List Text :=
  if c.fields.isEmpty then [] else [c.fields.flatMap fun entry => line [indent, entry.render]]

/-- The methods of a class in its source, with the entry point last if it has one or is forced to
have one. -/
def procedures (scanner : Text) (c : ClassOutline) (force : Bool) : List Procedure :=
  c.methods.map .ofMethod ++ if c.hasEntry || force then [.main scanner c.statements] else []

/-- The source of a class whose entry point has a scanner of the given type. -/
def sourceWith (indent scanner : Text) (c : ClassOutline) (isEntry force : Bool) : Text :=
  (if isEntry then imports else []) ++ head c
    ++ (fieldBlocks indent c ++ (procedures scanner c force).map (·.render indent)).flatMap
      ('\n' :: ·)
    ++ line ["\x7d".toList]

/-- The type of the scanner in a source is the one that its imports call for. -/
lemma source_eq_sourceWith (indent : Text) (c : ClassOutline) (isEntry force : Bool) :
    source indent c isEntry force =
      sourceWith indent (scannerType (source indent c isEntry force)) c isEntry force := by
  have hblocks : blocks indent c isEntry force = fieldBlocks indent c ++ (procedures
      (scannerType (source indent c isEntry force)) c force).map (·.render indent) := by
    rw [scannerType, hasImports_source, blocks, procedures, List.map_append, List.map_map,
      ← List.append_assoc]
    cases hentry : c.hasEntry || force with
    | false => rfl
    | true =>
      rw [if_pos rfl, if_pos rfl, List.map_singleton, Procedure.render_main]
      rfl
  rw [sourceWith, ← hblocks, source]

namespace Program

variable (style : Style) (entry : EntryPoint) {o : Outline}

/-- The unit of a class in a program with the given class to launch. -/
def unitOf (entryClass : Text) (c : ClassOutline) : SourceFile :=
  let isEntry := c.name == entryClass
  ⟨c.name, source style.indent c isEntry (isEntry && entry == .always)⟩

lemma units_ofOutline (o : Outline) : (ofOutline style entry o).units =
    o.classes.map (unitOf style entry (ofOutline style entry o).entryClass) := rfl

lemma hasImports_unitOf (entryClass : Text) (c : ClassOutline) :
    hasImports (unitOf style entry entryClass c).source = (c.name == entryClass) :=
  hasImports_source _ _ _ _

lemma className_units : (ofOutline style entry o).units.map (·.className) = o.names := by
  rw [units_ofOutline, List.map_map]
  rfl

lemma unit?_ofOutline (h : o.names.Nodup) {c : ClassOutline} (hc : c ∈ o.classes) :
    (ofOutline style entry o).unit? c.name =
      some (unitOf style entry (ofOutline style entry o).entryClass c) := by
  have hfind : o.classes.find? (·.name = c.name) = some c := Outline.find?_eq_some_of_mem h hc
  rw [unit?, units_ofOutline, List.find?_map]
  exact congrArg (Option.map _) hfind

lemma filter_hasImports (hne : o.names ≠ []) (h : o.names.Nodup) :
    ∃ unit, (ofOutline style entry o).entryUnit? = some unit ∧
      (ofOutline style entry o).units.filter (hasImports ·.source) = [unit] := by
  obtain ⟨name, hname, hentry⟩ := Outline.exists_entryClass? hne style.preferredEntry
  obtain ⟨c, hc, rfl⟩ := List.mem_map.mp hname
  have hclass : (ofOutline style entry o).entryClass = c.name := by
    rw [ofOutline, hentry, Option.getD_some]
  have hunit := unit?_ofOutline style entry h hc
  rw [hclass] at hunit
  have himports : ((hasImports ·.source) ∘ unitOf style entry c.name) = (·.name == c.name) :=
    funext fun d => hasImports_unitOf style entry c.name d
  refine ⟨unitOf style entry c.name c, ?_, ?_⟩
  · rw [entryUnit?, hclass, hunit]
  · rw [units_ofOutline, hclass, List.filter_map, himports, Outline.filter_name_eq h hc,
      List.map_singleton]

end Program
end Java

namespace Converter

variable (c : Converter) (lines : List Text)

lemma program_convertLines :
    ∃ entryPoint, (c.convertLines lines).program =
        .ofOutline c.style entryPoint (c.convertLines lines).outline ∧
      ((c.convertLines lines).mode == .procedural) = (entryPoint == .always) := by
  cases hmode : Mode.ofLines lines with
  | procedural =>
    rw [convertLines, hmode]
    exact ⟨.always, rfl, rfl⟩
  | structural =>
    rw [convertLines, hmode]
    exact ⟨.whenNeeded, rfl, rfl⟩

/-- Every class of a conversion has a unit of its own name, in the order of the classes, which is
the source of that class. The class to launch is the default class if there is one, and its unit
alone begins with the imports. -/
theorem convertLines_units (c : Converter) (lines : List Text) :
    let outline := (c.convertLines lines).outline
    let program := (c.convertLines lines).program
    let forced := (c.convertLines lines).mode == .procedural
    outline.classes ≠ [] ∧ outline.names.Nodup ∧ program.units.map (·.className) = outline.names ∧
      some program.entryClass =
        (if c.defaultClass ∈ outline.names then some c.defaultClass else outline.names.head?) ∧
      (∃ entry, program.entryUnit? = some entry ∧
        program.units.filter (Java.hasImports ·.source) = [entry]) ∧
      ∀ cls ∈ outline.classes, ∃ source, program.unit? cls.name = some ⟨cls.name, source⟩ ∧
        source = Java.source c.indent cls (cls.name == program.entryClass)
          (cls.name == program.entryClass && forced) ∧
        source = Java.sourceWith c.indent (Java.scannerType source) cls
          (cls.name == program.entryClass) (cls.name == program.entryClass && forced) := by
  intro outline program forced
  have hnodup : outline.names.Nodup := c.nodup_names_convertLines lines
  have hne : outline.names ≠ [] := c.names_convertLines_ne_nil lines
  obtain ⟨entryPoint, hprogram, hforced⟩ := c.program_convertLines lines
  obtain ⟨name, -, hentry⟩ := Outline.exists_entryClass? hne c.defaultClass
  have hclass : some program.entryClass = outline.entryClass? c.defaultClass := by
    have hstyle : outline.entryClass? c.style.preferredEntry = some name := hentry
    rw [hentry, show program = _ from hprogram, Java.Program.ofOutline, hstyle, Option.getD_some]
  refine ⟨fun hnil => hne (congrArg (List.map _) hnil), hnodup, ?_, hclass, ?_, fun cls hcls => ?_⟩
  · rw [show program = _ from hprogram]
    exact Java.Program.className_units _ _
  · rw [show program = _ from hprogram]
    exact Java.Program.filter_hasImports _ _ hne hnodup
  · have hunit := Java.Program.unit?_ofOutline c.style entryPoint hnodup hcls
    rw [← hprogram, Java.Program.unitOf, ← hforced] at hunit
    exact ⟨_, hunit, rfl, Java.source_eq_sourceWith _ _ _ _⟩

theorem convertLines_units_zoo :
    let c : Converter := ⟨.empty, "Main".toList, "\t".toList⟩
    let lines := ["class Zoo", "int size", "class Dog, Animal", "Dog()", "endfunction",
      "input int x"].map String.toList
    let dog : ClassOutline := ⟨"Dog".toList, some "Animal".toList, [],
      [⟨.ofHeader "Dog".toList "Dog()".toList, []⟩], ["int x = sc.nextInt();".toList]⟩
    let program := (c.convertLines lines).program
    dog ∈ (c.convertLines lines).outline.classes ∧ program.entryClass = "Zoo".toList ∧
      ∃ source, program.unit? dog.name = some ⟨dog.name, source⟩ ∧
        Java.scannerType source = "java.util.Scanner".toList ∧
        source = "public class Dog extends Animal \x7b\n\n\tpublic Dog() \x7b\n\t\x7d\n\n".toList
          ++ (Java.Procedure.main "java.util.Scanner".toList dog.statements).render c.indent
          ++ "\x7d\n".toList := by
  intro c lines dog program
  have hdog : dog ∈ (c.convertLines lines).outline.classes := by decide
  have hentry : program.entryClass = "Zoo".toList := by decide
  obtain ⟨source, hunit, hsource, hlayout⟩ := (c.convertLines_units lines).2.2.2.2.2 dog hdog
  have htype : Java.scannerType source = "java.util.Scanner".toList := by
    rw [Java.scannerType, hsource, Java.hasImports_source, show _ = "Zoo".toList from hentry]
    rfl
  rw [htype, show _ = "Zoo".toList from hentry] at hlayout
  exact ⟨hdog, hentry, source, hunit, htype, hlayout⟩

end Converter
end Pseudocode
