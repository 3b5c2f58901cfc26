import Pseudocode.Proofs.Building
import Pseudocode.Proofs.Provenance

/-!
# Emission

The files of a program go into one directory under the names of its classes. These names differ and
have no slash, so each file is written at a place of its own, where it stays while the others are
written, and nothing else changes but for missing directories. When a file is refused, those before
it stand. Building writes the same files, and the compiler, and the program that it has built, find
them.
-/

namespace Pseudocode

/-! ### Units in a directory -/

open Java (SourceFile)

namespace Java.SourceFile

def pathIn (directory : Text) (unit : SourceFile) : Text := Path.join directory unit.fileName

end Java.SourceFile

namespace Host

/-- A host that has the sources of units as files, each under its name in the directory at a place,
and on which everything else still stands. -/
structure Stores (h : Host) (directory : Text) (place : Location) (units : List SourceFile)
    (after : Host) : Prop where
  place_eq : ∀ unit ∈ units, after.place (unit.pathIn directory) = .ok (place ++ [unit.fileName])
  entry_eq : ∀ unit ∈ units, ∃ executable,
    after.entry? (place ++ [unit.fileName]) = some (.file (Text.encode unit.source) executable)
  keepsAt : ∀ q, (∀ unit ∈ units, q ≠ place ++ [unit.fileName]) → h.KeepsAt after q
  directory : ∀ q, h.entry? q = some .directory → after.entry? q = some .directory
  workingDirectory_eq : after.workingDirectory = h.workingDirectory

variable {h h' after : Host} {place : Location} {directory : Text} {units more : List SourceFile}
  {unit : SourceFile}

lemma Extends.stores (hextends : h.Extends after) (directory : Text) (place : Location) :
    h.Stores directory place [] after where
  place_eq := by simp
  entry_eq := by simp
  keepsAt q _ := hextends.keepsAt q
  directory q := (hextends.keepsAt q).directory
  workingDirectory_eq := hextends.workingDirectory_eq

lemma Stores.nil (h : Host) (directory : Text) (place : Location) :
    h.Stores directory place [] h := (Extends.refl h).stores directory place

lemma Stores.append (hfirst : h.Stores directory place units h')
    (hsecond : h'.Stores directory place more after)
    (hnames : ∀ unit ∈ units, ∀ other ∈ more, unit.fileName ≠ other.fileName) :
    h.Stores directory place (units ++ more) after where
  place_eq unit hunit := by
    rcases List.mem_append.mp hunit with hunit | hunit
    · exact place_of_directories hsecond.directory hsecond.workingDirectory_eq
        (hfirst.place_eq unit hunit)
    · exact hsecond.place_eq unit hunit
  entry_eq unit hunit := by
    rcases List.mem_append.mp hunit with hunit | hunit
    · obtain ⟨executable, hentry⟩ := hfirst.entry_eq unit hunit
      have hkeeps : h'.KeepsAt after (place ++ [unit.fileName]) :=
        hsecond.keepsAt _ fun other hother heq =>
          hnames unit hunit other hother (List.singleton_inj.mp (List.append_cancel_left heq))
      rcases hkeeps with heq | ⟨hnone, -⟩
      · exact ⟨executable, heq.trans hentry⟩
      · cases hentry.symm.trans hnone
    · exact hsecond.entry_eq unit hunit
  keepsAt q hq :=
    (hfirst.keepsAt q fun unit hunit => hq unit (List.mem_append_left _ hunit)).trans
      (hsecond.keepsAt q fun unit hunit => hq unit (List.mem_append_right _ hunit))
  directory q hq := hsecond.directory q (hfirst.directory q hq)
  workingDirectory_eq := hsecond.workingDirectory_eq.trans hfirst.workingDirectory_eq

lemma stores_write (hname : Path.IsName unit.fileName)
    (hplace : ∀ p, h.directoryPlace directory = .ok p → p = place)
    (hsink : h.entry? (place ++ [unit.fileName]) ≠ some .sink)
    (hwrite : h.write (unit.pathIn directory) (Text.encode unit.source) = .ok after) :
    h.Stores directory place [unit] after ∧
      ∀ p, after.directoryPlace directory = .ok p → p = place := by
  have hleads : ∀ q, h.place (unit.pathIn directory) = .ok q →
      h.directoryPlace directory = .ok place ∧ q = place ++ [unit.fileName] := by
    intro q hq
    obtain ⟨p, hp, rfl⟩ := place_join hname hq
    exact ⟨hplace p hp ▸ hp, hplace p hp ▸ rfl⟩
  obtain ⟨q, executable, hq, hdirectory, hafter⟩ :=
    write_eq_ok hwrite fun q hq => (hleads q hq).2 ▸ hsink
  obtain ⟨hp, rfl⟩ := hleads q hq
  have hworking : after.workingDirectory = h.workingDirectory := hafter ▸ rfl
  have hother : ∀ q, q ≠ place ++ [unit.fileName] → after.entry? q = h.entry? q :=
    fun q hne => hafter ▸ entry?_put_of_ne hne h _
  have hstands : ∀ q, h.entry? q = some .directory → after.entry? q = some .directory :=
    fun q hq => (hother q fun heq => hdirectory (heq ▸ hq)).trans hq
  refine ⟨⟨?place, ?entry, ?keeps, hstands, hworking⟩, fun p' hp' => ?_⟩
  case place =>
    rw [List.forall_mem_singleton]
    exact place_of_directories hstands hworking hq
  case entry =>
    rw [List.forall_mem_singleton]
    exact ⟨executable, hafter ▸ entry?_put_self (by simp) h _⟩
  case keeps => exact fun q hne => .inl (hother q (hne unit (List.mem_singleton_self _)))
  · rw [directoryPlace, hworking] at hp'
    exact Except.ok.inj (hp'.symm.trans (follow_of_directories hstands hp))

/-- How writing units one after the other ends. -/
inductive WritesAll (h : Host) (directory : Text) (place : Location) (units : List SourceFile) :
    Host × Except FileFault (List Text) → Prop
  | done {after : Host} (hstores : h.Stores directory place units after) :
    WritesAll h directory place units (after, .ok (units.map (·.pathIn directory)))
  | refused {after : Host} {before rest : List SourceFile} {unit : SourceFile} {cause : HostFault}
    (hunits : units = before ++ unit :: rest) (hstores : h.Stores directory place before after)
    (hwrite : after.write (unit.pathIn directory) (Text.encode unit.source) = .error cause) :
    WritesAll h directory place units (after, .error ⟨unit.pathIn directory, cause⟩)

lemma Stores.writesAll_cons {result : Host × Except FileFault (List Text)}
    (hfirst : h.Stores directory place [unit] h')
    (hrest : h'.WritesAll directory place units result)
    (hnames : ∀ other ∈ units, unit.fileName ≠ other.fileName) :
    h.WritesAll directory place (unit :: units)
      (result.1, result.2.map (unit.pathIn directory :: ·)) := by
  cases hrest with
  | done hstores => exact .done (hfirst.append hstores (by simpa using hnames))
  | @refused after before rest other cause hunits hstores hwrite =>
    have hunits' : unit :: units = (unit :: before) ++ other :: rest := congrArg _ hunits
    have hbefore : ∀ other ∈ before, unit.fileName ≠ other.fileName :=
      fun other hother => hnames other (hunits ▸ List.mem_append_left _ hother)
    exact .refused hunits' (hfirst.append hstores (by simpa using hbefore)) hwrite

lemma writesAll_writeAll (hnames : ∀ unit ∈ units, Path.IsName unit.fileName)
    (hnodup : (units.map (·.fileName)).Nodup)
    (hsinks : ∀ unit ∈ units, h.entry? (place ++ [unit.fileName]) ≠ some .sink)
    (hplace : ∀ p, h.directoryPlace directory = .ok p → p = place) :
    h.WritesAll directory place units (SourceFile.writeAll directory h units) := by
  induction units generalizing h with
  | nil => exact .done (.nil h directory place)
  | cons unit units ih =>
    obtain ⟨hname, hnames⟩ := List.forall_mem_cons.mp hnames
    obtain ⟨hsink, hsinks⟩ := List.forall_mem_cons.mp hsinks
    obtain ⟨hnew, hnodup⟩ := List.nodup_cons.mp hnodup
    have hdiffer : ∀ other ∈ units, unit.fileName ≠ other.fileName :=
      fun other hother heq => hnew (List.mem_map.mpr ⟨other, hother, heq.symm⟩)
    rw [SourceFile.writeAll]
    split
    · next hwrite => exact .refused (List.nil_append _).symm (.nil h directory place) hwrite
    · next h' hwrite =>
      obtain ⟨hfirst, hplace⟩ := stores_write hname hplace hsink hwrite
      refine hfirst.writesAll_cons (ih hnames hnodup (fun other hother hentry => ?_) hplace) hdiffer
      -- a sink that is there now was there before
      refine hsinks other hother ((hfirst.keepsAt _ fun written hwritten heq => ?_).sink hentry)
      rw [List.mem_singleton.mp hwritten] at heq
      exact hdiffer other hother (List.singleton_inj.mp (List.append_cancel_left heq)).symm

end Host

/-! ### The units of a program -/

namespace Java

lemma SourceFile.isName_fileName {unit : SourceFile} (h : '/' ∉ unit.className) :
    Path.IsName unit.fileName where
  ne_nil := by simp [fileName]
  slash_notMem := by
    rw [fileName, List.mem_append]
    exact not_or.mpr ⟨h, by decide⟩
  ne_dot heq := by simpa [fileName] using congrArg List.getLast? heq
  ne_dots heq := by simpa [fileName] using congrArg List.getLast? heq

lemma Program.nodup_fileNames {style : Style} {entry : EntryPoint} {o : Outline}
    (h : o.names.Nodup) : ((ofOutline style entry o).units.map (·.fileName)).Nodup := by
  have hfiles : (ofOutline style entry o).units.map (·.fileName) =
      o.names.map (· ++ ".java".toList) := by
    rw [← className_units style entry, List.map_map]
    rfl
  rw [hfiles]
  refine List.pairwise_map.mpr (List.Pairwise.imp ?_ h)
  exact fun hne heq => hne (List.append_cancel_right heq)

end Java

namespace Converter

variable (c : Converter) (lines : List Text)

lemma isName_fileName (hdefault : '/' ∉ c.defaultClass) :
    ∀ unit ∈ (c.convertLines lines).program.units, Path.IsName unit.fileName := by
  intro unit hunit
  refine Java.SourceFile.isName_fileName ?_
  obtain ⟨entryPoint, hprogram, -⟩ := c.program_convertLines lines
  rw [hprogram, Java.Program.units_ofOutline] at hunit
  obtain ⟨cls, hcls, rfl⟩ := List.mem_map.mp hunit
  have hfrom : cls.IsFrom c.book c.defaultClass fun _ => True :=
    c.isFrom_convertLines (fun _ _ => trivial) cls hcls
  rcases hfrom.name with heq | hword
  · exact fun hmem => hdefault (heq ▸ hmem)
  · exact fun hmem => absurd (hword.2 _ hmem) (by decide)

lemma nodup_fileNames : ((c.convertLines lines).program.units.map (·.fileName)).Nodup := by
  obtain ⟨entryPoint, hprogram, -⟩ := c.program_convertLines lines
  rw [hprogram]
  exact Java.Program.nodup_fileNames (c.nodup_names_convertLines lines)

end Converter

/-! ### Emission and building -/

namespace Java.Program

variable {p : Program} {h : Host} {directory : Text}

lemma nodup_pathIn (directory : Text) (hnames : ∀ unit ∈ p.units, Path.IsName unit.fileName)
    (hnodup : (p.units.map (·.fileName)).Nodup) : (p.units.map (·.pathIn directory)).Nodup := by
  refine List.pairwise_map.mpr ((List.pairwise_map.mp hnodup).imp_of_mem ?_)
  intro unit other hunit hother hne heq
  exact hne (Path.join_injective (hnames unit hunit) (hnames other hother) heq)

/-- Emission fails over its directory, or writes the units into it. -/
lemma emit_cases (directory : Text) (hnames : ∀ unit ∈ p.units, Path.IsName unit.fileName)
    (hnodup : (p.units.map (·.fileName)).Nodup)
    (hsinks : ∀ unit ∈ p.units, ∀ place, h.entry? (place ++ [unit.fileName]) ≠ some .sink) :
    (∃ cause, h.makeDirectories directory = .error cause ∧
      p.emit h directory = (h, .error ⟨directory, cause⟩)) ∨
    ∃ made place, h.Extends made ∧ made.WritesAll directory place p.units (p.emit h directory) := by
  cases hmake : h.makeDirectories directory with
  | error cause =>
    left
    exact ⟨cause, rfl, by rw [emit, hmake]⟩
  | ok made =>
    right
    have hextends : h.Extends made := Host.extends_makeDirectories hmake
    obtain ⟨place, hplace⟩ : ∃ place, ∀ q, made.directoryPlace directory = .ok q → q = place := by
      cases made.directoryPlace directory with
      | error => exact ⟨[], by rintro _ ⟨⟩⟩
      | ok place => exact ⟨place, fun _ hq => (Except.ok.inj hq).symm⟩
    refine ⟨made, place, hextends, ?_⟩
    rw [emit, hmake]
    exact Host.writesAll_writeAll hnames hnodup (fun unit hunit hentry =>
      hsinks unit hunit place ((hextends.keepsAt _).sink hentry)) hplace

end Java.Program

/-- The units of a conversion are emitted in order to paths that differ, each of which then leads to
the source of its unit, and nothing else on the host is changed. If a unit is refused, the units
before it are there and no other. What is written before building is the same, on a host that ends
the same, and the same paths are named. Launching the program fails over the same file, or else
writes the same files before anything is started. -/
theorem Converter.emit_convertLines (c : Converter) (lines : List Text) (h : Host)
    (directory : Text) (hdefault : '/' ∉ c.defaultClass)
    (hsinks : ∀ unit ∈ (c.convertLines lines).program.units, ∀ place,
      h.entry? (place ++ [unit.fileName]) ≠ some .sink) :
    let p := (c.convertLines lines).program
    (p.units.map (·.pathIn directory)).Nodup ∧
    (∀ after written, p.emit h directory = (after, .ok written) →
      written = p.units.map (·.pathIn directory) ∧
        ∃ place, h.Stores directory place p.units after) ∧
    (∀ after fault, p.emit h directory = (after, .error fault) →
      (h.makeDirectories directory = .error fault.cause ∧ fault.path = directory ∧
        ∀ q, h.KeepsAt after q) ∨
      ∃ before unit rest place, p.units = before ++ unit :: rest ∧
        fault.path = unit.pathIn directory ∧
        after.write fault.path (Text.encode unit.source) = .error fault.cause ∧
        h.Stores directory place before after) ∧
    Command.writeUnits h directory p.units = p.emit h directory ∧
    ∀ start s input, s.workDirectory = directory →
      (∀ fault, (Command.launch start s p h input).2 = .fault (.file fault) ↔
        (p.emit h directory).2 = .error fault) ∧
      (start.LeavesFiles →
        (Command.launch start s p h input).1.entries = (p.emit h directory).1.entries ∧
        ∀ other, Starter.AgreeOn (p.emit h directory).1.entries start other →
          Command.launch start s p h input = Command.launch other s p h input) := by
  intro p
  have hnames : ∀ unit ∈ p.units, Path.IsName unit.fileName := c.isName_fileName lines hdefault
  have hnodup : (p.units.map (·.fileName)).Nodup := c.nodup_fileNames lines
  refine ⟨Java.Program.nodup_pathIn directory hnames hnodup, ?_, ?_,
    Command.writeUnits_eq_emit h directory p, ?_⟩
  · intro after written hemit
    rcases Java.Program.emit_cases directory hnames hnodup hsinks with
      ⟨cause, -, hfault⟩ | ⟨made, place, hextends, hwrites⟩
    · cases hemit.symm.trans hfault
    · rw [hemit] at hwrites
      cases hwrites with
      | done hstores =>
        exact ⟨rfl, place, (hextends.stores directory place).append hstores (by simp)⟩
  · intro after fault hemit
    rcases Java.Program.emit_cases directory hnames hnodup hsinks with
      ⟨cause, hmake, hfault⟩ | ⟨made, place, hextends, hwrites⟩
    · left
      cases hemit.symm.trans hfault
      exact ⟨hmake, rfl, Host.KeepsAt.refl h⟩
    · right
      rw [hemit] at hwrites
      cases hwrites with
      | refused hunits hstores hwrite =>
        exact ⟨_, _, _, place, hunits, rfl, hwrite,
          (hextends.stores directory place).append hstores (by simp)⟩
  · rintro start s input rfl
    exact ⟨Command.launch_eq_fault_file_iff start s p h input, fun hstart =>
      ⟨Command.entries_launch hstart s p h input, fun other hsame =>
        Command.launch_congr hstart hsame input⟩⟩

theorem Converter.emit_convertLines_zoo :
    let c : Converter := ⟨.empty, "Main".toList, "\t".toList⟩
    let p := (c.convertLines ["class Zoo".toList, "class Dog".toList]).program
    let h : Host := ⟨[(["out".toList], .directory),
      (["out".toList, "Dog.java".toList], .file [0] true),
      (["out".toList, "Cat.java".toList], .file [1] false)], []⟩
    let s : Settings := { Settings.standard with workDirectory := "out".toList }
    let paths := ["out/Zoo.java".toList, "out/Dog.java".toList]
    let start : Starter := fun here _ _ _ => (here.contents "Zoo.java".toList).map fun bytes =>
      ⟨here, bytes, [], [], some 0⟩
    let other : Starter := fun here program arguments input =>
      if here.entries = (p.emit h "out".toList).1.entries then start here program arguments input
      else .error .notFound
    (∀ q, h.entry? q ≠ some .sink) ∧
    (∃ after place, p.emit h "out".toList = (after, .ok paths) ∧
      Command.writeUnits h "out".toList p.units = (after, .ok paths) ∧
      h.Stores "out".toList place p.units after) ∧
    start.LeavesFiles ∧ Starter.AgreeOn (p.emit h "out".toList).1.entries start other ∧
    (Command.launch start s p h []).1.entries = (p.emit h "out".toList).1.entries ∧
    Command.launch start s p h [] = Command.launch other s p h [] ∧
    ∀ zoo ∈ p.units.head?, (Command.launch start s p h []).2 =
      .ran (Command.shownLines (Text.encode zoo.source)) [] (some 0) := by
  intro c p h s paths start other
  have hsinks : ∀ q, h.entry? q ≠ some .sink := by
    intro q hq
    obtain ⟨entry, hentry, hsink⟩ := Host.mem_of_entry? hq (by decide)
    revert hsink hentry entry
    decide
  have hwritten : (p.emit h "out".toList).2 = .ok paths := by decide
  have hstart : start.LeavesFiles := by
    intro here program arguments input ended hended
    dsimp only [start] at hended
    cases hcontents : here.contents "Zoo.java".toList with
    | error =>
      rw [hcontents] at hended
      cases hended
    | ok bytes =>
      rw [hcontents] at hended
      exact Except.ok.inj hended ▸ rfl
  have hother : Starter.AgreeOn (p.emit h "out".toList).1.entries start other :=
    fun here hhere program arguments input => (if_pos hhere).symm
  obtain ⟨-, hok, -, hwriters, hlaunch⟩ := c.emit_convertLines
    ["class Zoo".toList, "class Dog".toList] h "out".toList (by decide) fun _ _ _ => hsinks _
  obtain ⟨-, place, hstores⟩ := hok _ _ (Prod.ext rfl hwritten)
  obtain ⟨-, hfiles⟩ := hlaunch start s [] rfl
  obtain ⟨hentries, hagree⟩ := hfiles hstart
  exact ⟨hsinks, ⟨_, place, Prod.ext rfl hwritten, hwriters.trans (Prod.ext rfl hwritten), hstores⟩,
    hstart, hother, hentries, hagree other hother, by decide +kernel⟩

end Pseudocode
