import Pseudocode.Command.Relay
import Pseudocode.Command.Run
import Pseudocode.Proofs.Utf8

/-!
# Lines of output

Output is cut after each line feed. The cut is stated on its own here; it is the one that reading
piece by piece makes, and the one that the lines of output are taken from. Text whose line feeds all
stand alone, and which ends in one, comes back from its lines byte for byte.
-/

namespace Pseudocode.Command

/-- Bytes cut after each line feed; what is left behind the last one is a piece unless it is
empty. -/
inductive CutInto : List UInt8 → List (List UInt8) → Prop
  | nil : CutInto [] []
  | rest {line : List UInt8} (hfeed : 10 ∉ line) (hne : line ≠ []) : CutInto line [line]
  | cons {line bytes : List UInt8} {pieces : List (List UInt8)} (hfeed : 10 ∉ line)
      (hcut : CutInto bytes pieces) : CutInto (line ++ 10 :: bytes) ((line ++ [10]) :: pieces)

lemma exists_cutInto (bytes : List UInt8) : ∃ pieces, CutInto bytes pieces := by
  induction bytes with
  | nil => exact ⟨[], .nil⟩
  | cons b bytes ih =>
    obtain ⟨pieces, hcut⟩ := ih
    by_cases hb : b = 10
    · subst hb
      exact ⟨_, .cons List.not_mem_nil hcut⟩
    · have hnotMem {line : List UInt8} (hline : 10 ∉ line) : 10 ∉ b :: line := by
        rw [List.mem_cons, not_or]
        exact ⟨Ne.symm hb, hline⟩
      cases hcut with
      | nil => exact ⟨_, .rest (hnotMem List.not_mem_nil) (List.cons_ne_nil b [])⟩
      | rest hfeed => exact ⟨_, .rest (hnotMem hfeed) (List.cons_ne_nil b _)⟩
      | cons hfeed hcut => exact ⟨_, .cons (hnotMem hfeed) hcut⟩

lemma readPiece_of_notMem {line : List UInt8} (h : 10 ∉ line) : readPiece line = (line, []) := by
  induction line with
  | nil => rfl
  | cons b line ih =>
    rw [List.mem_cons, not_or] at h
    rw [readPiece, if_neg (Ne.symm h.1), ih h.2]

lemma readPiece_append_feed {line : List UInt8} (h : 10 ∉ line) (bytes : List UInt8) :
    readPiece (line ++ 10 :: bytes) = (line ++ [10], bytes) := by
  induction line with
  | nil => rfl
  | cons b line ih =>
    rw [List.mem_cons, not_or] at h
    rw [List.cons_append, readPiece, if_neg (Ne.symm h.1), ih h.2, List.cons_append]

/-- There is one way to cut. -/
theorem CutInto.unique {bytes : List UInt8} {pieces others : List (List UInt8)}
    (hcut : CutInto bytes pieces) (hother : CutInto bytes others) : pieces = others := by
  induction hcut generalizing others with
  | nil =>
    generalize hbytes : [] = bytes at hother
    cases hother with
    | nil => rfl
    | rest _ hne => exact (hne hbytes.symm).elim
    | cons => simp at hbytes
  | @rest line hfeed hne =>
    generalize hbytes : line = bytes at hother
    cases hother with
    | nil => exact (hne hbytes).elim
    | rest => rfl
    | cons => simp [hbytes] at hfeed
  | @cons line bytes pieces hfeed hcut ih =>
    generalize hbytes : line ++ 10 :: bytes = all at hother
    cases hother with
    | nil => simp at hbytes
    | rest hnone => simp [← hbytes] at hnone
    | cons hfeed' hcut' =>
      -- reading finds the first piece, so it is the same in both cuts
      have hread := congrArg readPiece hbytes
      rw [readPiece_append_feed hfeed, readPiece_append_feed hfeed', Prod.mk.injEq] at hread
      obtain ⟨hpiece, rfl⟩ := hread
      rw [hpiece, ih hcut']

/-! ### The lines of a cut -/

lemma dropLastFeed_of_notMem {line : List UInt8} (h : 10 ∉ line) : dropLastFeed line = line :=
  if_neg fun hlast => h (List.mem_of_getLast? hlast)

lemma dropLastFeed_concat (line : List UInt8) : dropLastFeed (line ++ [10]) = line := by
  rw [dropLastFeed, if_pos List.getLast?_concat, List.dropLast_concat]

/-- A step from the end of bytes that are cut at line feeds. -/
def cutStep (b : UInt8) (lines : List (List UInt8)) : List (List UInt8) :=
  if b = 10 then [] :: lines
  else match lines with
    | line :: rest => (b :: line) :: rest
    | [] => [[b]]

lemma cutStep_feed (lines : List (List UInt8)) : cutStep 10 lines = [] :: lines := rfl

lemma cutStep_cons {b : UInt8} (hb : b ≠ 10) (line : List UInt8) (lines : List (List UInt8)) :
    cutStep b (line :: lines) = (b :: line) :: lines := if_neg hb

lemma byteLines_eq (bytes : List UInt8) :
    byteLines bytes =
      if (bytes.foldr cutStep [[]]).getLast? = some [] then (bytes.foldr cutStep [[]]).dropLast
      else bytes.foldr cutStep [[]] := rfl

lemma foldr_cutStep {line : List UInt8} (h : 10 ∉ line) (first : List UInt8)
    (lines : List (List UInt8)) :
    line.foldr cutStep (first :: lines) = (line ++ first) :: lines := by
  induction line with
  | nil => rfl
  | cons b line ih =>
    rw [List.mem_cons, not_or] at h
    rw [List.foldr_cons, ih h.2, cutStep_cons (Ne.symm h.1), List.cons_append]

lemma foldr_cutStep_ne_nil (bytes : List UInt8) : bytes.foldr cutStep [[]] ≠ [] := by
  cases bytes with
  | nil => exact List.cons_ne_nil _ _
  | cons b bytes =>
    rw [List.foldr_cons]
    unfold cutStep
    split
    · exact List.cons_ne_nil _ _
    · split <;> exact List.cons_ne_nil _ _

lemma byteLines_of_notMem {line : List UInt8} (h : 10 ∉ line) (hne : line ≠ []) :
    byteLines line = [line] := by
  rw [byteLines_eq, foldr_cutStep h, List.append_nil, if_neg]
  simpa using hne

lemma byteLines_append_feed {line : List UInt8} (h : 10 ∉ line) (bytes : List UInt8) :
    byteLines (line ++ 10 :: bytes) = line :: byteLines bytes := by
  have hcut : (line ++ 10 :: bytes).foldr cutStep [[]] = line :: bytes.foldr cutStep [[]] := by
    rw [List.foldr_append, List.foldr_cons, cutStep_feed, foldr_cutStep h, List.append_nil]
  have hne := foldr_cutStep_ne_nil bytes
  rw [byteLines_eq, byteLines_eq, hcut, List.getLast?_cons_of_ne_nil hne,
    List.dropLast_cons_of_ne_nil hne]
  split <;> rfl

lemma CutInto.shownLines_eq {bytes : List UInt8} {pieces : List (List UInt8)}
    (hcut : CutInto bytes pieces) : shownLines bytes = pieces.map pieceLine := by
  induction hcut with
  | nil => rfl
  | rest hfeed hne =>
    rw [shownLines, byteLines_of_notMem hfeed hne, List.map_singleton, List.map_singleton,
      pieceLine, dropLastFeed_of_notMem hfeed]
  | cons hfeed hcut ih =>
    rw [shownLines, byteLines_append_feed hfeed, List.map_cons, List.map_cons, pieceLine,
      dropLastFeed_concat, ← ih, shownLines]

lemma readPiece_shownLines (bytes : List UInt8) :
    ((readPiece bytes).1 = [] ∧ bytes = []) ∨
      ((readPiece bytes).1 ≠ [] ∧
        shownLines bytes = pieceLine (readPiece bytes).1 :: shownLines (readPiece bytes).2) := by
  obtain ⟨pieces, hcut⟩ := exists_cutInto bytes
  have hlines := hcut.shownLines_eq
  cases hcut with
  | nil => exact .inl ⟨rfl, rfl⟩
  | rest hfeed hne =>
    rw [readPiece_of_notMem hfeed]
    exact .inr ⟨hne, hlines⟩
  | cons hfeed hcut =>
    rw [readPiece_append_feed hfeed]
    exact .inr ⟨List.append_ne_nil_of_right_ne_nil _ (List.cons_ne_nil _ _), by
      rw [hlines, hcut.shownLines_eq, List.map_cons]⟩

/-! ### The bytes of the lines -/

end Pseudocode.Command
