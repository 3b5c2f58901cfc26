import Pseudocode.Proofs.SessionChannels
import Pseudocode.Shell.Builtin

/-!
# What utilities and commands do to channels

Every utility and every command of the shell itself lets a session go on. Those that read standard
input leave an end of it.
-/

namespace Pseudocode.Shell

open Session

variable {s t : Session}

/-! ### Utilities -/

namespace Utility

/-- A utility after which sources and streams have gone on. -/
def GoesOn (run : Utility) : Prop := ∀ (s : Session) arguments, s.Onward (run s arguments)

@[simp] lemma onward_refuse (h : s.Onward t) (utility path : Text) (cause : HostFault) :
    s.Onward (refuse t utility path cause) := by
  simp [refuse, h]

lemma goesOn_of_lookup {entries : List (Text × Utility)} {name : Text} {run : Utility}
    (hentries : ∀ entry ∈ entries, GoesOn entry.2) (h : entries.lookup name = some run) :
    GoesOn run := by
  obtain ⟨before, after, rfl, -⟩ := List.lookup_eq_some_iff.mp h
  exact hentries (name, run) (by simp)

lemma onward_operand (s : Session) (path : Text) : s.Onward (operand s path).1 := by
  rw [operand]
  split <;> simp

lemma onward_forTexts {utility : Text} {f : Session → Text → Text → Session}
    (hf : ∀ (s : Session) path text, s.Onward (f s path text)) (s : Session) (paths : List Text) :
    s.Onward (forTexts utility f s paths) := by
  refine Onward.foldl (fun t path => ?_) (by simp) _
  have hread := onward_operand t path
  split
  · next read text hoperand =>
    rw [hoperand] at hread
    exact hread.trans (hf read path text)
  · next read cause hoperand =>
    rw [hoperand] at hread
    exact onward_refuse hread ..

@[simp] lemma goesOn_cat : GoesOn cat := fun s _ => onward_forTexts (by simp) s _

@[simp] lemma goesOn_head : GoesOn head := fun s _ => onward_forTexts (by simp) s _

@[simp] lemma goesOn_tail : GoesOn tail := fun s _ => onward_forTexts (by simp) s _

@[simp] lemma goesOn_wc : GoesOn wc := by
  intro s arguments
  have hrows (row : Text → Text → Text) (paths : List Text) :
      s.Onward (forTexts "wc".toList (fun s path t => s.say (row path t)) s paths) :=
    onward_forTexts (by simp) s paths
  simp only [wc]
  split
  · exact hrows ..
  · exact (hrows ..).say _

@[simp] lemma goesOn_sort : GoesOn sort := by
  intro s arguments
  refine Onward.say (Onward.fst_foldl (fun r path => ?_) (by simp) _) _
  have hread := onward_operand r.1 path
  dsimp only
  split
  · next hoperand => rwa [hoperand] at hread
  · next hoperand =>
    rw [hoperand] at hread
    exact onward_refuse hread ..

@[simp] lemma goesOn_grep : GoesOn grep := by
  intro s arguments
  simp only [grep]
  split
  · simp
  · refine Onward.foldl (fun t path => ?_) (by simp) _
    have hread := onward_operand t path
    split
    · next read text hoperand =>
      rw [hoperand] at hread
      repeat' split
      all_goals simp [hread]
    · next read cause hoperand =>
      rw [hoperand] at hread
      simp [hread]

@[simp] lemma goesOn_tr : GoesOn tr := by
  intro s arguments
  simp only [tr]
  split
  · split <;> simp
  · simp
  · simp

@[simp] lemma goesOn_seq : GoesOn seq := fun s _ => by simp [seq]

@[simp] lemma goesOn_expr : GoesOn expr := by
  intro s arguments
  simp only [expr]
  repeat' split
  all_goals simp

@[simp] lemma goesOn_ls : GoesOn ls := by
  intro s arguments
  have hfound (paths : List Text) : s.Onward (paths.foldl (fun s path =>
      if (s.entryAt? path).isSome then s
      else (s.warn ("ls: cannot access '".toList ++ path
        ++ "': No such file or directory".toList)).withStatus 2) (s.withStatus 0)) := by
    refine Onward.foldl (fun t path => ?_) (by simp) _
    split <;> simp
  simp only [ls]
  refine Onward.ite ?_ ?_
  · exact Onward.foldl (by simp) ((hfound _).say _) _
  · exact ((hfound _).say _).say _

@[simp] lemma goesOn_mkdir : GoesOn mkdir := by
  intro s arguments
  refine Onward.foldl (fun t path => ?_) (by simp) _
  dsimp only
  split <;> simp

@[simp] lemma goesOn_rm : GoesOn rm := by
  intro s arguments
  refine Onward.foldl (fun t path => ?_) (by simp) _
  dsimp only
  repeat' split
  all_goals simp

@[simp] lemma goesOn_touch : GoesOn touch := by
  intro s arguments
  refine Onward.foldl (fun t path => ?_) (by simp) _
  repeat' split
  all_goals simp

@[simp] lemma goesOn_copy (name : Text) (moves : Bool) : GoesOn (copy name moves) := by
  intro s arguments
  refine Onward.foldl (fun t path => ?_) (by simp) _
  dsimp only
  repeat' split
  all_goals simp

@[simp] lemma goesOn_chmod : GoesOn chmod := by
  intro s arguments
  rw [chmod]
  split
  · simp
  · refine Onward.foldl (fun t path => ?_) (by simp) _
    repeat' split
    all_goals simp

@[simp] lemma goesOn_skip (status : Nat) : GoesOn (skip status) := fun s _ => by simp [skip]

@[simp] lemma goesOn_test (name : Text) : GoesOn (Test.run name) := by
  intro s arguments
  simp only [Test.run]
  repeat' split
  all_goals simp

@[simp] lemma goesOn_basename : GoesOn basename := fun s _ => by simp [basename]

@[simp] lemma goesOn_dirname : GoesOn dirname := fun s _ => by simp [dirname]

@[simp] lemma goesOn_pwd : GoesOn pwd := fun s _ => by simp [pwd]

@[simp] lemma goesOn_echo : GoesOn echo := fun s _ => by simp [echo]

@[simp] lemma goesOn_printf : GoesOn printf := fun s _ => by simp [printf]

/-- Each utility of the host reads from the start of what is left and writes at an end. -/
theorem goesOn_of_mem_table : ∀ entry ∈ table, GoesOn entry.2 := by
  simp [table]

end Utility

/-! ### Commands of the shell itself -/

namespace Builtin

open Utility

lemma suffix_of_inputLine {raw : Bool} {input rest : Text}
    (h : (inputLine raw input).2 = some rest) : rest <:+ input := by
  fun_induction inputLine raw input with
  | case1 => cases h
  | case2 after =>
    cases h
    exact List.suffix_cons ..
  | case3 c after hraw line found hline ih =>
    rw [hline] at ih
    exact (ih h).trans (List.suffix_cons ..)
  | case4 c after hraw line found hline ih =>
    rw [hline] at ih
    exact (ih h).trans (List.suffix_append ['\\', c] after)
  | case5 c after hfeed hbackslash line found hline ih =>
    rw [hline] at ih
    exact (ih h).trans (List.suffix_cons ..)

@[simp] lemma goesOn_exit : GoesOn exit := by
  intro s arguments
  rw [exit]
  split <;> simp

@[simp] lemma goesOn_returns : GoesOn returns := fun s _ => by simp [returns]

@[simp] lemma goesOn_breaks : GoesOn breaks := fun s _ => by simp [breaks]

@[simp] lemma goesOn_continues : GoesOn continues := fun s _ => by simp [continues]

@[simp] lemma goesOn_shift : GoesOn shift := by
  intro s arguments
  simp only [shift]
  split <;> simp

@[simp] lemma goesOn_set : GoesOn set := by
  intro s arguments
  simp only [set]
  repeat' split
  all_goals simp

@[simp] lemma goesOn_unset : GoesOn unset :=
  fun _ _ => (onward_withStatus _).2 (Onward.foldl (by simp) (.refl _) _)

@[simp] lemma goesOn_assign : GoesOn assign := by
  intro s arguments
  refine (onward_withStatus _).2 (Onward.foldl (fun t text => ?_) (.refl s) _)
  split <;> simp

@[simp] lemma goesOn_localise : GoesOn localise := by
  intro s arguments
  exact (Onward.foldl (by simp) (.refl s) _).trans (goesOn_assign _ _)

@[simp] lemma goesOn_cd : GoesOn cd := by
  intro s arguments
  simp only [cd]
  split <;> simp

@[simp] lemma goesOn_kill : GoesOn kill := by
  intro s arguments
  simp only [kill]
  repeat' split
  all_goals simp

lemma input_foldl_set (values : List (Text × Text)) (s : Session) :
    (values.foldl (fun s (name, value) => s.set name value) s).input = s.input := by
  induction values generalizing s with
  | nil => rfl
  | cons entry values ih => exact (ih (s.set entry.1 entry.2)).trans rfl

@[simp] lemma goesOn_read : GoesOn read := by
  intro s arguments
  simp only [read]
  split
  · simp
  · have hset (values : List (Text × Text)) :
        s.Onward (values.foldl (fun s (name, value) => s.set name value) s) :=
      Onward.foldl (by simp) (.refl s) values
    split
    · next rest hrest =>
      have hsuffix := suffix_of_inputLine hrest
      rw [← input_foldl_set] at hsuffix
      simpa using (hset _).trans (onward_leave hsuffix)
    · simp [hset]

/-- Each command of the shell itself reads from the start of what is left. -/
theorem goesOn_of_mem_commands : ∀ entry ∈ table, GoesOn entry.2 := by
  simp [table]

end Builtin
end Pseudocode.Shell
