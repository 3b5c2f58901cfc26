import Pseudocode.Command.Launch
import Pseudocode.Proofs.HostChanges

/-!
# Building

A program is written into the work directory by a writer of its own before it is compiled. That
writer and the one that emits programs agree on the files and on the paths. Programs that are then
started find these files, and leave them as they are if that is their way.
-/

namespace Pseudocode

/-- A starter of programs that leave all files as they are. -/
def Starter.LeavesFiles (start : Starter) : Prop :=
  ∀ ⦃here program arguments input ended⦄, start here program arguments input = .ok ended →
    ended.host.entries = here.entries

/-- Starters that do the same on hosts with the given files. -/
def Starter.AgreeOn (files : List (Location × Entry)) (start other : Starter) : Prop :=
  ∀ ⦃here⦄, here.entries = files → ∀ program arguments input,
    start here program arguments input = other here program arguments input

/-- A starter of programs that read their input from its start: what they leave is an end of it. -/
def Starter.ReadsOnward (start : Starter) : Prop :=
  ∀ ⦃here program arguments input ended⦄, start here program arguments input = .ok ended →
    ended.unread <:+ input

namespace Command

variable {start other : Starter} {h : Host} {files : List (Location × Entry)}
  {directory program : Text} {arguments : List Text}
  {input : List UInt8}

/-! ### The two writers -/

lemma writeFrom_eq (directory : Text) (h : Host) (written : List Text)
    (units : List Java.SourceFile) :
    writeFrom directory h written units =
      ((Java.SourceFile.writeAll directory h units).1,
        (Java.SourceFile.writeAll directory h units).2.map (written ++ ·)) := by
  induction units generalizing h written with
  | nil => simp [writeFrom, Java.SourceFile.writeAll, Except.map]
  | cons unit rest ih =>
    rw [writeFrom, Java.SourceFile.writeAll]
    cases h.write (Path.join directory unit.fileName) (Text.encode unit.source) with
    | error => rfl
    | ok after =>
      dsimp only
      rw [ih]
      cases (Java.SourceFile.writeAll directory after rest).2 <;> simp [Except.map]

/-- Building writes what emission writes and names the same paths, or fails where it fails. -/
lemma writeUnits_eq_emit (h : Host) (directory : Text) (p : Java.Program) :
    writeUnits h directory p.units = p.emit h directory := by
  rw [writeUnits, Java.Program.emit]
  cases h.makeDirectories directory with
  | error => rfl
  | ok made =>
    dsimp only
    rw [writeFrom_eq]
    refine Prod.ext rfl ?_
    cases (Java.SourceFile.writeAll directory made p.units).2 <;> rfl

/-! ### What is started -/

lemma entries_of_enter {entered : Host} (henter : h.enter directory = .ok entered) :
    entered.entries = h.entries := by
  have hsame := congrArg Host.entries (Host.workingDirectory_of_enter henter)
  exact hsame

lemma entries_of_startIn (hstart : start.LeavesFiles) {ended : Ended}
    (hended : startIn start h directory program arguments input = .ok ended) :
    ended.host.entries = h.entries := by
  rw [startIn] at hended
  obtain ⟨entered, henter, hended⟩ := exists_of_bind_eq_ok hended
  obtain ⟨left, hleft, hended⟩ := exists_of_bind_eq_ok hended
  rw [← Except.ok.inj hended]
  exact (hstart hleft).trans (entries_of_enter henter)

lemma unread_of_startIn (hstart : start.ReadsOnward) {ended : Ended}
    (hended : startIn start h directory program arguments input = .ok ended) :
    ended.unread <:+ input := by
  rw [startIn] at hended
  obtain ⟨entered, -, hended⟩ := exists_of_bind_eq_ok hended
  obtain ⟨left, hleft, hended⟩ := exists_of_bind_eq_ok hended
  rw [← Except.ok.inj hended]
  exact (hstart hleft : left.unread <:+ input)

lemma startIn_congr (hsame : Starter.AgreeOn files start other) (hfiles : h.entries = files) :
    startIn start h directory program arguments input =
      startIn other h directory program arguments input := by
  rw [startIn, startIn]
  cases henter : h.enter directory with
  | error => rfl
  | ok entered =>
    have hentered : entered.entries = files := (entries_of_enter henter).trans hfiles
    simp only [bind, Except.bind, hsame hentered]

/-- What is started finds the files that emission leaves. -/
lemma launch_congr (hstart : start.LeavesFiles) {s : Settings} {p : Java.Program}
    (hsame : Starter.AgreeOn (p.emit h s.workDirectory).1.entries start other)
    (input : List UInt8) : launch start s p h input = launch other s p h input := by
  rw [launch, launch, writeUnits_eq_emit]
  split
  · rfl
  · next after written hemit =>
    replace hsame : Starter.AgreeOn after.entries start other := by rwa [hemit] at hsame
    rw [← startIn_congr hsame rfl]
    split
    · rfl
    · next built hbuilt =>
      simp only [startIn_congr hsame (entries_of_startIn hstart hbuilt)]

lemma entries_launch (hstart : start.LeavesFiles) (s : Settings) (p : Java.Program) (h : Host)
    (input : List UInt8) :
    (launch start s p h input).1.entries = (p.emit h s.workDirectory).1.entries := by
  rw [launch, writeUnits_eq_emit]
  split
  · next hemit => rw [hemit]
  · next hemit =>
    rw [hemit]
    split
    · rfl
    · next hbuilt =>
      have hfirst := entries_of_startIn hstart hbuilt
      split
      · dsimp only
        split
        · exact hfirst
        · next hran => exact (entries_of_startIn hstart hran).trans hfirst
      · exact hfirst

lemma launch_eq_fault_file_iff (start : Starter) (s : Settings) (p : Java.Program) (h : Host)
    (input : List UInt8) (fault : FileFault) :
    (launch start s p h input).2 = .fault (.file fault) ↔
      (p.emit h s.workDirectory).2 = .error fault := by
  rw [launch, writeUnits_eq_emit]
  split
  · next hemit => simp [hemit]
  · next hemit =>
    rw [hemit]
    refine iff_of_false (fun hfault => ?_) (by simp)
    dsimp only at hfault
    split at hfault
    · cases hfault
    · split at hfault
      · split at hfault <;> cases hfault
      · cases hfault

/-- A program that has run was given lines of what the compiler had left of the input. -/
theorem launch_eq_ran (hstart : start.ReadsOnward) {s : Settings} {p : Java.Program} {after : Host}
    {output errors : List Text} {status : Option Nat}
    (hran : launch start s p h input = (after, .ran output errors status)) :
    ∃ built ended rest, rest <:+ input ∧
      startIn start built s.workDirectory s.runtime ["-cp".toList, ".".toList, p.entryClass]
        (forwarded rest) = .ok ended ∧
      after = ended.host ∧ output = shownLines ended.output ∧
      errors = shownLines ended.errors ∧ status = ended.status := by
  rw [launch] at hran
  split at hran
  · cases hran
  · split at hran
    · cases hran
    · next built hbuilt =>
      split at hran
      · dsimp only at hran
        split at hran
        · cases hran
        · next ended hended =>
          cases hran
          exact ⟨built.host, ended, built.unread, unread_of_startIn hstart hbuilt, hended, rfl, rfl,
            rfl, rfl⟩
      · cases hran

end Command

end Pseudocode
