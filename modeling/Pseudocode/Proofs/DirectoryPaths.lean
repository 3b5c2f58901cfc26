import Pseudocode.Host.Path
import Pseudocode.Proofs.Pieces

/-!
# Paths in a directory

A name without slashes, put behind the path of a directory, leads to the directory and one step
further. Different names make different paths.
-/

namespace Pseudocode

namespace Path

/-- A name that leads one step down: it is no directory itself and has no slash. -/
structure IsName (name : Text) : Prop where
  ne_nil : name ≠ []
  slash_notMem : '/' ∉ name
  ne_dot : name ≠ ['.']
  ne_dots : name ≠ ['.', '.']

def steps (directory : Text) : List Text :=
  (Text.splitAt (· == '/') directory).filter (!·.isEmpty)

variable {directory name other : Text}

lemma IsName.splitAt_eq (h : IsName name) : Text.splitAt (· == '/') name = [name] :=
  Text.splitAt_of_forall fun _ hc => beq_false_of_ne fun heq => h.slash_notMem (heq ▸ hc)

lemma IsName.isAbsolute_eq (h : IsName name) : isAbsolute name = false := by
  obtain ⟨c, rest, rfl⟩ := List.exists_cons_of_ne_nil h.ne_nil
  exact beq_false_of_ne fun heq => h.slash_notMem (Option.some.inj heq ▸ List.mem_cons_self)

lemma join_nil (h : IsName name) : join [] name = name := by
  rw [join, h.isAbsolute_eq]
  rfl

lemma join_slash (h : IsName name) (outer : Text) :
    join (outer ++ ['/']) name = outer ++ '/' :: name := by
  rw [join, h.isAbsolute_eq, if_neg (by simp), if_pos (by simp), List.append_assoc]
  rfl

lemma join_of_ne_nil (h : IsName name) (hdirectory : directory ≠ [])
    (hlast : directory.getLast? ≠ some '/') :
    join directory name = directory ++ '/' :: name := by
  rw [join, h.isAbsolute_eq, if_neg (by simpa using hdirectory), if_neg hlast]

lemma parts_append_slash (h : IsName name) (outer : Text) :
    parts (outer ++ '/' :: name) = steps outer ++ [name] := by
  rw [parts, Text.splitAt_append_cons rfl, h.splitAt_eq, List.dropLast_concat, steps]
  simp

lemma steps_slash (outer : Text) : steps (outer ++ ['/']) = steps outer := by
  rw [steps, Text.splitAt_append_cons rfl, List.filter_append, steps]
  exact List.append_nil _

lemma parts_join (h : IsName name) (directory : Text) :
    parts (join directory name) = steps directory ++ [name] := by
  rcases List.eq_nil_or_concat directory with rfl | ⟨outer, last, rfl⟩
  · rw [join_nil h, parts, h.splitAt_eq]
    rfl
  · by_cases hlast : last = '/'
    · rw [hlast, List.concat_eq_append, join_slash h, parts_append_slash h, steps_slash]
    · rw [List.concat_eq_append, join_of_ne_nil h (by simp) (by simpa using hlast),
        parts_append_slash h]

lemma isAbsolute_join (h : IsName name) (directory : Text) :
    isAbsolute (join directory name) = isAbsolute directory := by
  cases directory with
  | nil => rw [join_nil h, h.isAbsolute_eq]; rfl
  | cons c rest =>
    unfold join
    rw [h.isAbsolute_eq]
    split_ifs <;> simp_all [isAbsolute]

lemma join_injective (h : IsName name) (ho : IsName other)
    (heq : join directory name = join directory other) : name = other := by
  have hparts : steps directory ++ [name] = steps directory ++ [other] := by
    rw [← parts_join h, ← parts_join ho, heq]
  exact List.singleton_inj.mp (List.append_cancel_left hparts)

end Path

end Pseudocode
