import Pseudocode.Proofs.Units

/-!
# The scope of the scanner

An input statement becomes a statement that reads from the scanner. The entry point of a class
declares the scanner before all else, so that the statements in it may read. The methods of a
class declare none: a read in the body of a method is out of scope unless the body itself has
declared the scanner.
-/

namespace Pseudocode
namespace Statement

/-- A statement that an input statement of a supported type becomes. -/
def IsRead (statement : Text) : Prop :=
  ∃ line keyword ty name rest, Text.words line = keyword :: ty :: name :: rest ∧
    (scannerRead? (Text.lower ty)).isSome ∧ input? line = some statement

/-- A statement that declares the variable of the scanner, whatever its type and value. -/
def DeclaresScanner (statement : Text) : Prop :=
  ∃ ty value, statement = ty ++ ' ' :: scannerName ++ " = ".toList ++ value ++ [';']

/-- Every read comes after a declaration of the scanner. -/
def ReadsInScope (statements : List Text) : Prop :=
  ∀ before read after, statements = before ++ read :: after → IsRead read →
    ∃ declaration ∈ before, DeclaresScanner declaration

lemma IsRead.isSuffix {statement : Text} (h : IsRead statement) : "();".toList <:+ statement := by
  obtain ⟨line, keyword, ty, name, rest, hwords, hsupported, hinput⟩ := h
  obtain ⟨⟨ty', method⟩, hread⟩ := Option.isSome_iff_exists.mp hsupported
  obtain ⟨-, -, hstatement⟩ := Option.map_eq_some_iff.mp hinput
  simp only [hwords, hread] at hstatement
  exact ⟨_, hstatement⟩

lemma ReadsInScope.cons {declaration : Text} (hdeclares : DeclaresScanner declaration)
    (hread : ¬IsRead declaration) (statements : List Text) :
    ReadsInScope (declaration :: statements) := by
  intro before read after hcut h
  cases before with
  | nil =>
    rw [List.nil_append] at hcut
    exact absurd ((List.cons.inj hcut).1 ▸ h) hread
  | cons first before =>
    have hfirst : declaration = first := (List.cons.inj hcut).1
    exact ⟨declaration, hfirst ▸ List.mem_cons_self, hdeclares⟩

end Statement

open Statement

namespace Java

lemma Procedure.readsInScope_main (scanner : Text) (statements : List Text) :
    ReadsInScope (main scanner statements).statements := by
  refine ReadsInScope.cons ⟨scanner, "new ".toList ++ scanner ++ "(System.in)".toList, ?_⟩ ?_ _
  · simp [scannerDeclaration]
  · intro hread
    have hend : "(System.in);".toList <:+ scannerDeclaration scanner := ⟨_, rfl⟩
    -- a read ends with an empty list of arguments
    have hshort := List.suffix_of_suffix_length_le hread.isSuffix hend (by decide)
    exact absurd hshort (by decide)

lemma readsInScope_procedures_iff (scanner : Text) (c : ClassOutline) (force : Bool) :
    (∀ p ∈ procedures scanner c force, ReadsInScope p.statements) ↔
      ∀ m ∈ c.methods, ReadsInScope m.body := by
  constructor
  · intro h m hm
    exact h (.ofMethod m) (List.mem_append_left _ (List.mem_map_of_mem hm))
  · intro h p hp
    rcases List.mem_append.mp hp with hmethod | hmain
    · obtain ⟨m, hm, rfl⟩ := List.mem_map.mp hmethod
      exact h m hm
    · split_ifs at hmain
      · rw [List.mem_singleton.mp hmain]
        exact Procedure.readsInScope_main scanner c.statements
      · simp at hmain

end Java

namespace Converter

/-- In the unit of a class every read is in scope of a declaration of the scanner if that holds of
the bodies of the methods of the class: the statements of its entry point are always in scope.
Without headers there are no methods. -/
theorem readsInScope_convertLines (c : Converter) (lines : List Text) :
    let outline := (c.convertLines lines).outline
    let program := (c.convertLines lines).program
    let forced := (c.convertLines lines).mode == .procedural
    (∀ cls ∈ outline.classes, ∃ source, program.unit? cls.name = some ⟨cls.name, source⟩ ∧
      source = Java.sourceWith c.indent (Java.scannerType source) cls
        (cls.name == program.entryClass) (cls.name == program.entryClass && forced) ∧
      ((∀ p ∈ Java.procedures (Java.scannerType source) cls
          (cls.name == program.entryClass && forced), ReadsInScope p.statements) ↔
        ∀ m ∈ cls.methods, ReadsInScope m.body)) ∧
      ((c.convertLines lines).mode = .procedural → ∀ cls ∈ outline.classes, cls.methods = []) := by
  intro outline program forced
  constructor
  · intro cls hcls
    obtain ⟨entryPoint, hprogram, hforced⟩ := c.program_convertLines lines
    have hunit := Java.Program.unit?_ofOutline c.style entryPoint
      (c.nodup_names_convertLines lines) hcls
    rw [← hprogram, Java.Program.unitOf, ← hforced] at hunit
    exact ⟨_, hunit, Java.source_eq_sourceWith _ _ _ _, Java.readsInScope_procedures_iff _ cls _⟩
  · intro hmode cls hcls
    cases hlines : Mode.ofLines lines with
    | procedural =>
      have houtline : outline = c.proceduralOutline lines := by
        simp only [outline, convertLines, hlines]
      rw [houtline] at hcls
      rw [List.mem_singleton.mp hcls]
      rfl
    | structural => simp [convertLines, hlines] at hmode

theorem readsInScope_convertLines_ask :
    let c : Converter := .ofBook .standard
    let lines := ["class Dog", "function ask()", "Scanner sc = new Scanner(System.in)",
      "input int age", "endfunction", "input string name"].map String.toList
    let dog : ClassOutline := ⟨"Dog".toList, none, [], [⟨.ofHeader "Dog".toList "ask()".toList,
      ["Scanner sc = new Scanner(System.in);", "int age = sc.nextInt();"].map String.toList⟩],
      ["String name = sc.nextLine();".toList]⟩
    let plain := ["input int age".toList]
    let main : ClassOutline := ⟨"Main".toList, none, [], [], ["int age = sc.nextInt();".toList]⟩
    (dog ∈ (c.convertLines lines).outline.classes ∧
      ∃ source, (c.convertLines lines).program.unit? dog.name = some ⟨dog.name, source⟩ ∧
        ∀ p ∈ Java.procedures (Java.scannerType source) dog false, ReadsInScope p.statements) ∧
      (c.convertLines plain).mode = .procedural ∧ main ∈ (c.convertLines plain).outline.classes ∧
        main.methods = [] := by
  intro c lines dog plain main
  obtain ⟨hdog, hforced⟩ : dog ∈ (c.convertLines lines).outline.classes ∧
      (c.convertLines lines).mode = .structural := by decide +kernel
  have hbody : ∀ m ∈ dog.methods, ReadsInScope m.body := by
    intro m hm
    rw [List.mem_singleton.mp hm]
    exact Java.Procedure.readsInScope_main "Scanner".toList ["int age = sc.nextInt();".toList]
  obtain ⟨source, hunit, -, hscope⟩ := (c.readsInScope_convertLines lines).1 dog hdog
  obtain ⟨hmode, hmain⟩ : (c.convertLines plain).mode = .procedural ∧
      main ∈ (c.convertLines plain).outline.classes := by decide +kernel
  have hnotForced : ((c.convertLines lines).mode == .procedural) = false := by rw [hforced]; rfl
  rw [hnotForced, Bool.and_false] at hscope
  exact ⟨⟨hdog, source, hunit, hscope.mpr hbody⟩, hmode, hmain,
    (c.readsInScope_convertLines plain).2 hmode main hmain⟩

/-- A read in the body of a method, where nothing declares the scanner. -/
theorem read_outOfScope_in_method :
    let c : Converter := .ofBook .standard
    let lines := ["class A", "function f()", "input int x", "endfunction"].map String.toList
    let conversion := c.convertLines lines
    (conversion.program.unit? "A".toList).map (·.source) = some (Text.joinWith ['\n']
        (["import java.util.*;", "", "public class A \x7b", "", "    public void f() \x7b",
          "        int x = sc.nextInt();", "    \x7d", "\x7d", ""].map String.toList)) ∧
      ∃ cls ∈ conversion.outline.classes, ∃ p ∈ Java.procedures "Scanner".toList cls false,
        p.head = "public void f()".toList ∧ ¬ReadsInScope p.statements := by
  intro c lines conversion
  let cls : ClassOutline := ⟨"A".toList, none, [], [⟨.ofHeader "A".toList "f()".toList,
    ["int x = sc.nextInt();".toList]⟩], []⟩
  have hread : IsRead "int x = sc.nextInt();".toList :=
    ⟨"input int x".toList, "input".toList, "int".toList, "x".toList, [], by decide, by decide,
      by decide⟩
  refine ⟨by decide +kernel, cls, by decide +kernel, .ofMethod ⟨.ofHeader "A".toList "f()".toList,
    ["int x = sc.nextInt();".toList]⟩, by decide, by decide, fun hscope => ?_⟩
  obtain ⟨declaration, hmem, -⟩ := hscope [] _ [] rfl hread
  exact absurd hmem List.not_mem_nil

end Converter
end Pseudocode
