import Pseudocode.Host.Files
import Pseudocode.Proofs.DirectoryPaths
import Pseudocode.Proofs.Results

/-!
# Changes of a host

What writing a file and making directories leave as it was. A path leads to the same place as long
as the directories on its way stand.
-/

namespace Pseudocode

namespace Host

/-- What stood at a place still does, but a directory may have come where nothing stood. -/
def KeepsAt (h after : Host) (q : Location) : Prop :=
  after.entry? q = h.entry? q ∨ h.entry? q = none ∧ after.entry? q = some .directory

variable {h h' after : Host} {q place : Location} {e : Entry} {path : Text} {bytes : List UInt8}

lemma KeepsAt.refl (h : Host) (q : Location) : h.KeepsAt h q := .inl rfl

lemma KeepsAt.trans (hfirst : h.KeepsAt h' q) (hsecond : h'.KeepsAt after q) :
    h.KeepsAt after q := by
  rcases hfirst with hfirst | ⟨hnone, hfirst⟩ <;> rcases hsecond with hsecond | ⟨hmissing, hsecond⟩
  · exact .inl (hsecond.trans hfirst)
  · exact .inr ⟨hfirst.symm.trans hmissing, hsecond⟩
  · exact .inr ⟨hnone, hsecond.trans hfirst⟩
  · cases hfirst.symm.trans hmissing

lemma KeepsAt.directory (hkeeps : h.KeepsAt after q) (hq : h.entry? q = some .directory) :
    after.entry? q = some .directory := by
  rcases hkeeps with heq | ⟨hnone, -⟩
  · exact heq.trans hq
  · cases hq.symm.trans hnone

lemma KeepsAt.sink (hkeeps : h.KeepsAt after q) (hq : after.entry? q = some .sink) :
    h.entry? q = some .sink := by
  rcases hkeeps with heq | ⟨-, hdirectory⟩
  · exact heq.symm.trans hq
  · cases hq.symm.trans hdirectory

lemma lookup_putIn_self (place : Location) (e : Entry) (entries : List (Location × Entry)) :
    (putIn place e entries).lookup place = some e := by
  induction entries with
  | nil => exact List.lookup_cons_self
  | cons entry entries ih =>
    rw [putIn]
    split
    · exact List.lookup_cons_self
    · next hne => rw [List.lookup_cons, beq_false_of_ne (Ne.symm hne), ih]

lemma lookup_putIn_of_ne (hq : q ≠ place) (e : Entry) (entries : List (Location × Entry)) :
    (putIn place e entries).lookup q = entries.lookup q := by
  induction entries with
  | nil => rw [putIn, List.lookup_cons, beq_false_of_ne hq]
  | cons entry entries ih =>
    rw [putIn]
    split
    · next heq => rw [List.lookup_cons, List.lookup_cons, heq, beq_false_of_ne hq]
    · rw [List.lookup_cons, List.lookup_cons, ih]

lemma entry?_put_self (hplace : place ≠ []) (h : Host) (e : Entry) :
    Host.entry? (h.put place e) place = some e := by
  unfold entry?
  rw [if_neg (by simpa using hplace)]
  exact lookup_putIn_self place e h.entries

lemma entry?_put_of_ne (hq : q ≠ place) (h : Host) (e : Entry) :
    Host.entry? (h.put place e) q = h.entry? q := by
  unfold entry?
  split
  · rfl
  · exact lookup_putIn_of_ne hq e h.entries

lemma ne_nil_of_entry? (hplace : h.entry? place ≠ some .directory) : place ≠ [] :=
  fun heq => hplace (by rw [heq]; rfl)

lemma mem_of_entry? (hq : h.entry? q = some e) (hdirectory : e ≠ .directory) :
    ∃ entry ∈ h.entries, entry.2 = e := by
  unfold entry? at hq
  split at hq
  · exact absurd (Option.some.inj hq).symm hdirectory
  · obtain ⟨before, after, hentries, -⟩ := List.lookup_eq_some_iff.mp hq
    exact ⟨(q, e), hentries ▸ List.mem_append_right _ List.mem_cons_self, rfl⟩

/-! ### Following a path -/

lemma follow_append (h : Host) (place : Location) (names more : List Text) :
    h.follow place (names ++ more) = h.follow place names >>= fun p => h.follow p more := by
  induction names generalizing place with
  | nil => rfl
  | cons name names ih =>
    rw [List.cons_append, follow, follow]
    cases h.entry? place with
    | none => rfl
    | some e =>
      cases e with
      | file | sink | utility => rfl
      | directory =>
        dsimp only
        split_ifs
        · exact ih _
        · exact ih _
        · rfl
        · exact ih _

lemma follow_of_directories (hdirectories : ∀ q, h.entry? q = some .directory →
    after.entry? q = some .directory) {names : List Text} {start : Location}
    (hfollow : h.follow start names = .ok place) : after.follow start names = .ok place := by
  induction names generalizing start with
  | nil => exact hfollow
  | cons name names ih =>
    rw [follow] at hfollow ⊢
    cases hentry : h.entry? start with
    | none =>
      rw [hentry] at hfollow
      cases hfollow
    | some e =>
      rw [hentry] at hfollow
      cases e with
      | file | sink | utility => cases hfollow
      | directory =>
        rw [hdirectories start hentry]
        dsimp only at hfollow ⊢
        split_ifs at hfollow ⊢
        · exact ih hfollow
        · exact ih hfollow
        · exact ih hfollow

/-- The place of a directory, followed from the root or from where programs work. -/
def directoryPlace (h : Host) (directory : Text) : Except HostFault Location :=
  h.follow (if Path.isAbsolute directory then [] else h.workingDirectory) (Path.steps directory)

lemma follow_name {name : Text} (hname : Path.IsName name)
    (hfollow : h.follow place [name] = .ok q) : q = place ++ [name] := by
  rw [follow] at hfollow
  split at hfollow
  · cases hfollow
  · rw [if_neg (by simp [hname.ne_nil, hname.ne_dot]), if_neg hname.ne_dots] at hfollow
    split_ifs at hfollow
    exact (Except.ok.inj hfollow).symm
  · cases hfollow

def IsPath (path : Text) : Prop :=
  '\x00' ∉ path ∧ path ≠ [] ∧ Text.byteSize path ≤ longestPath

lemma place_eq_ok_iff : h.place path = .ok q ↔ IsPath path ∧
    h.follow (if Path.isAbsolute path then [] else h.workingDirectory) (Path.parts path) =
      .ok q := by
  rw [place, IsPath]
  generalize h.follow _ _ = result
  split_ifs with hnul hempty hlong
  · simp_all
  · simp_all
  · exact ⟨False.elim, fun heq => absurd heq.1.2.2 (Nat.not_le_of_gt hlong)⟩
  · simp_all

lemma place_join {directory name : Text} (hname : Path.IsName name)
    (hplace : h.place (Path.join directory name) = .ok q) :
    ∃ place, h.directoryPlace directory = .ok place ∧ q = place ++ [name] := by
  obtain ⟨-, hfollow⟩ := place_eq_ok_iff.mp hplace
  rw [Path.isAbsolute_join hname, Path.parts_join hname, follow_append] at hfollow
  obtain ⟨place, hdirectory, hname'⟩ := exists_of_bind_eq_ok hfollow
  exact ⟨place, hdirectory, follow_name hname hname'⟩

/-- Nothing that stands is lost, and programs work where they did. -/
structure Extends (h after : Host) : Prop where
  keepsAt : ∀ q, h.KeepsAt after q
  workingDirectory_eq : after.workingDirectory = h.workingDirectory

lemma Extends.refl (h : Host) : h.Extends h := ⟨KeepsAt.refl h, rfl⟩

lemma Extends.trans (hfirst : h.Extends h') (hsecond : h'.Extends after) : h.Extends after :=
  ⟨fun q => (hfirst.keepsAt q).trans (hsecond.keepsAt q),
    hsecond.workingDirectory_eq.trans hfirst.workingDirectory_eq⟩

lemma extends_makeDirectoryFrom {start : Location} {names : List Text}
    (hmake : h.makeDirectoryFrom start names = .ok after) : h.Extends after := by
  rw [makeDirectoryFrom] at hmake
  obtain ⟨place, -, hmake⟩ := exists_of_bind_eq_ok hmake
  split at hmake
  · cases hmake
  · next hnone =>
    have hplace : place ≠ [] := ne_nil_of_entry? (h := h) (by simp [hnone])
    split at hmake
    · obtain rfl := Except.ok.inj hmake
      refine ⟨fun q => ?_, rfl⟩
      by_cases hq : q = place
      · rw [hq]
        exact .inr ⟨hnone, entry?_put_self hplace h _⟩
      · exact .inl (entry?_put_of_ne hq h _)
    · cases hmake
    · cases hmake

lemma extends_makeDirectoriesFrom {start : Location} {names : List Text}
    (hmake : h.makeDirectoriesFrom start names = .ok after) : h.Extends after := by
  induction names generalizing after with
  | nil => exact Except.ok.inj hmake ▸ .refl h
  | cons name outer ih =>
    rw [makeDirectoriesFrom] at hmake
    split at hmake
    · next hfirst => exact Except.ok.inj hmake ▸ extends_makeDirectoryFrom hfirst
    · -- the directory around it is made first
      split at hmake
      · cases hmake
      · next outside houter =>
        have hextends : h.Extends outside := ih houter
        split at hmake
        · next hinner =>
          exact hextends.trans (Except.ok.inj hmake ▸ extends_makeDirectoryFrom hinner)
        · split at hmake
          · exact Except.ok.inj hmake ▸ hextends
          · cases hmake
    · split at hmake
      · exact Except.ok.inj hmake ▸ .refl h
      · cases hmake

lemma extends_makeDirectories {directory : Text}
    (hmake : h.makeDirectories directory = .ok after) : h.Extends after := by
  rw [makeDirectories] at hmake
  split_ifs at hmake
  · exact Except.ok.inj hmake ▸ .refl h
  · exact extends_makeDirectoriesFrom hmake
  · exact extends_makeDirectoriesFrom hmake

lemma place_of_directories
    (hdirectories : ∀ q, h.entry? q = some .directory → after.entry? q = some .directory)
    (hworking : after.workingDirectory = h.workingDirectory) (hplace : h.place path = .ok q) :
    after.place path = .ok q := by
  obtain ⟨hpath, hfollow⟩ := place_eq_ok_iff.mp hplace
  refine place_eq_ok_iff.mpr ⟨hpath, ?_⟩
  rw [hworking]
  exact follow_of_directories hdirectories hfollow

/-- A write that no sink takes makes a file and changes nothing else. -/
lemma write_eq_ok (hwrite : h.write path bytes = .ok after)
    (hsink : ∀ q, h.place path = .ok q → h.entry? q ≠ some .sink) :
    ∃ place executable, h.place path = .ok place ∧ h.entry? place ≠ some .directory ∧
      after = h.put place (.file bytes executable) := by
  rw [write] at hwrite
  obtain ⟨place, hplace, hwrite⟩ := exists_of_bind_eq_ok hwrite
  refine ⟨place, ?_⟩
  split at hwrite
  · cases hwrite
  · next hentry => exact ⟨_, hplace, by simp [hentry], (Except.ok.inj hwrite).symm⟩
  · next hentry => exact absurd hentry (hsink place hplace)
  · cases hwrite
  · next hentry =>
    split at hwrite
    · split_ifs at hwrite
      exact ⟨_, hplace, by simp [hentry], (Except.ok.inj hwrite).symm⟩
    · cases hwrite
    · cases hwrite

lemma workingDirectory_of_enter {entered : Host} (henter : h.enter path = .ok entered) :
    { entered with workingDirectory := h.workingDirectory } = h := by
  rw [enter] at henter
  obtain ⟨place, -, henter⟩ := exists_of_bind_eq_ok henter
  split at henter <;> cases henter
  rfl

end Host

end Pseudocode
