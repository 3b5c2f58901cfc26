import Pseudocode.Proofs.Layout

/-!
# Pieces of a text

A text is cut into pieces that hold no cutting character, and into words that hold no white space.
White space around a text or between its words belongs to no word.
-/

namespace Pseudocode.Text

/-- A condition on all characters of a text is decided by going through the text, not through all
characters. -/
instance (priority := 1100) (p : Char → Prop) [DecidablePred p] (t : Text) :
    Decidable (∀ c ∈ t, p c) := List.decidableBAll p t

variable {isCut : Char → Bool} {c : Char} {t : Text}

lemma splitAt_eq_splitOnP (isCut : Char → Bool) (t : Text) :
    splitAt isCut t = t.splitOnP isCut := by
  induction t with
  | nil => rw [List.splitOnP_nil, splitAt]
  | cons c rest ih =>
    rw [List.splitOnP_cons_eq_if_modifyHead, ← ih]
    cases hc : isCut c with
    | true => simp [splitAt, hc]
    | false =>
      obtain ⟨piece, pieces, h⟩ := List.exists_cons_of_ne_nil (splitAt_ne_nil isCut rest)
      rw [splitAt_cons_of_neg isCut hc, h]
      rfl

lemma splitAt_append_cons (hc : isCut c = true) (s t : Text) :
    splitAt isCut (s ++ c :: t) = splitAt isCut s ++ splitAt isCut t := by
  rw [splitAt_eq_splitOnP, splitAt_eq_splitOnP, splitAt_eq_splitOnP,
    List.splitOnP_append_cons s t hc]

lemma splitAt_of_forall (h : ∀ c ∈ t, isCut c = false) : splitAt isCut t = [t] := by
  rw [splitAt_eq_splitOnP, List.splitOnP_eq_singleton h]

lemma eq_of_splitAt_eq_singleton {piece : Text} (h : splitAt isCut t = [piece]) : t = piece := by
  by_cases hcut : ∃ c ∈ t, isCut c = true
  · obtain ⟨c, hmem, hc⟩ := hcut
    obtain ⟨first, second, rfl⟩ := List.append_of_mem hmem
    -- a cut leaves a piece on either side
    have hlength := congrArg List.length h
    have hfirst := List.length_pos_of_ne_nil (splitAt_ne_nil isCut first)
    have hsecond := List.length_pos_of_ne_nil (splitAt_ne_nil isCut second)
    rw [splitAt_append_cons hc, List.length_append, List.length_singleton] at hlength
    omega
  · have hnone : ∀ c ∈ t, isCut c = false := fun c hc =>
      Bool.eq_false_iff.mpr fun hc' => hcut ⟨c, hc, hc'⟩
    rw [splitAt_of_forall hnone] at h
    exact List.singleton_inj.mp h

lemma exists_splitAt_append {s : Text} (h : ∀ c ∈ s, isCut c = false) (t : Text) :
    ∃ pieces last, splitAt isCut t = pieces ++ [last] ∧
      splitAt isCut (t ++ s) = pieces ++ [last ++ s] := by
  induction t with
  | nil => exact ⟨[], [], rfl, splitAt_of_forall h⟩
  | cons c rest ih =>
    obtain ⟨pieces, last, ht, hts⟩ := ih
    cases hc : isCut c with
    | true => exact ⟨[] :: pieces, last, by simp [splitAt, hc, ht], by simp [splitAt, hc, hts]⟩
    | false =>
      rw [List.cons_append, splitAt_cons_of_neg isCut hc, splitAt_cons_of_neg isCut hc, ht, hts]
      cases pieces with
      | nil => exact ⟨[], c :: last, rfl, rfl⟩
      | cons first pieces => exact ⟨(c :: first) :: pieces, last, rfl, rfl⟩

lemma of_mem_splitAt {piece : Text} (h : piece ∈ splitAt isCut t) (hc : c ∈ piece) :
    isCut c = false ∧ c ∈ t := by
  induction t generalizing piece with
  | nil =>
    rw [splitAt, List.mem_singleton] at h
    exact absurd (h ▸ hc) List.not_mem_nil
  | cons d rest ih =>
    have hlater : piece ∈ splitAt isCut rest → isCut c = false ∧ c ∈ d :: rest := fun h =>
      (ih h hc).imp_right (List.mem_cons_of_mem d)
    cases hd : isCut d with
    | true =>
      rw [splitAt, if_pos hd] at h
      rcases List.mem_cons.mp h with rfl | h
      · exact absurd hc List.not_mem_nil
      · exact hlater h
    | false =>
      obtain ⟨first, pieces, hpieces⟩ := List.exists_cons_of_ne_nil (splitAt_ne_nil isCut rest)
      rw [splitAt_cons_of_neg isCut hd, hpieces] at h
      rcases List.mem_cons.mp h with rfl | h
      · rcases List.mem_cons.mp hc with rfl | hc
        · exact ⟨hd, List.mem_cons_self⟩
        · exact (ih (by simp [hpieces]) hc).imp_right (List.mem_cons_of_mem d)
      · exact hlater (hpieces ▸ List.mem_cons_of_mem first h)

/-- What stands before the first entry that fails a test is determined by the whole. -/
lemma append_cons_inj {α : Type} {p : α → Bool} {a b s t : List α} {x y : α}
    (ha : ∀ c ∈ a, p c = true) (hb : ∀ c ∈ b, p c = true) (hx : p x = false) (hy : p y = false)
    (h : a ++ x :: s = b ++ y :: t) : a = b ∧ x = y ∧ s = t := by
  have hrun : a = b := by
    have htake := congrArg (List.takeWhile p) h
    rwa [List.takeWhile_append_of_pos ha, List.takeWhile_append_of_pos hb,
      List.takeWhile_cons_of_neg (Bool.eq_false_iff.mp hx),
      List.takeWhile_cons_of_neg (Bool.eq_false_iff.mp hy), List.append_nil,
      List.append_nil] at htake
  rw [hrun] at h
  exact ⟨hrun, List.cons.inj (List.append_cancel_left h)⟩

/-! ### Words -/

lemma of_mem_words {word : Text} (h : word ∈ words t) (hc : c ∈ word) :
    isWhite c = false ∧ c ∈ t :=
  of_mem_splitAt (List.mem_filter.mp h).1 hc

lemma ne_nil_of_mem_words {word : Text} (h : word ∈ words t) : word ≠ [] := by
  have hkept := (List.mem_filter.mp h).2
  simpa using hkept

lemma words_append_cons (hc : isWhite c = true) (s t : Text) :
    words (s ++ c :: t) = words s ++ words t := by
  rw [words, splitAt_append_cons hc, List.filter_append]
  rfl

lemma words_of_forall (hne : t ≠ []) (h : ∀ c ∈ t, isWhite c = false) : words t = [t] := by
  rw [words, splitAt_of_forall h]
  exact List.filter_cons_of_pos (by simpa using hne)

lemma words_white_append {s : Text} (h : ∀ c ∈ s, isWhite c = true) (t : Text) :
    words (s ++ t) = words t := by
  induction s with
  | nil => rfl
  | cons c s ih =>
    obtain ⟨hc, hs⟩ := List.forall_mem_cons.mp h
    exact (words_append_cons hc [] (s ++ t)).trans (ih hs)

lemma words_append_white {s : Text} (h : ∀ c ∈ s, isWhite c = true) (t : Text) :
    words (t ++ s) = words t := by
  cases s with
  | nil => rw [List.append_nil]
  | cons c s =>
    obtain ⟨hc, hs⟩ := List.forall_mem_cons.mp h
    have hnone : words s = words [] := by simpa using words_white_append hs []
    rw [words_append_cons hc, hnone]
    exact List.append_nil _

lemma exists_eq_append_trim (t : Text) : ∃ before after : Text, t = before ++ trim t ++ after ∧
    (∀ c ∈ before, isWhite c = true) ∧ ∀ c ∈ after, isWhite c = true := by
  refine ⟨t.takeWhile isWhite, (trimStart t).rtakeWhile isWhite, ?_, ?_, ?_⟩
  · have hend : trim t ++ (trimStart t).rtakeWhile isWhite = trimStart t :=
      List.rdropWhile_append_rtakeWhile
    rw [List.append_assoc, hend, trimStart, List.takeWhile_append_dropWhile]
  · exact fun c hc => List.mem_takeWhile_imp hc
  · exact fun c hc => List.mem_rtakeWhile_imp hc

lemma words_trim (t : Text) : words (trim t) = words t := by
  obtain ⟨before, after, ht, hbefore, hafter⟩ := exists_eq_append_trim t
  conv_rhs => rw [ht, words_append_white hafter, words_white_append hbefore]

lemma trim_append_whites {s : Text} (h : ∀ c ∈ s, isWhite c = true) (t : Text) :
    trim (t ++ s) = trim t := by
  induction s generalizing t with
  | nil => rw [List.append_nil]
  | cons c s ih =>
    obtain ⟨hc, hs⟩ := List.forall_mem_cons.mp h
    rw [List.append_cons, ih hs, trim_append_white hc]

lemma trim_white_append {s : Text} (h : ∀ c ∈ s, isWhite c = true) (t : Text) :
    trim (s ++ t) = trim t := by
  rw [trim, trim, trimStart, List.dropWhile_append_of_pos h]
  rfl

lemma isWhite_of_mem_head?_trim (hc : c ∈ (trim t).head?) : isWhite c = false := by
  obtain ⟨rest, hrest⟩ := List.head?_eq_some_iff.mp hc
  obtain ⟨after, hafter⟩ : trim t <+: trimStart t := List.rdropWhile_prefix isWhite (trimStart t)
  rw [hrest, List.cons_append] at hafter
  have hfirst := List.head?_dropWhile_not isWhite t
  rw [← trimStart, ← hafter] at hfirst
  exact hfirst

lemma isWhite_of_mem_getLast?_trim (hc : c ∈ (trim t).getLast?) : isWhite c = false := by
  have hne : trim t ≠ [] := by
    rintro hnil
    rw [hnil] at hc
    exact absurd hc (by simp)
  have hlast := List.rdropWhile_last_not isWhite (trimStart t) hne
  rw [List.getLast?_eq_some_getLast hne, Option.mem_some_iff] at hc
  exact Bool.eq_false_iff.mpr (hc ▸ hlast)

lemma trim_trim (t : Text) : trim (trim t) = trim t :=
  trim_eq_self (fun _ => isWhite_of_mem_head?_trim) (fun _ => isWhite_of_mem_getLast?_trim)

lemma exists_words_cons (hc : isWhite c = false) (t : Text) :
    ∃ word rest, words (c :: t) = (c :: word) :: rest := by
  obtain ⟨piece, pieces, hpieces⟩ := List.exists_cons_of_ne_nil (splitAt_ne_nil isWhite t)
  refine ⟨piece, pieces.filter (!·.isEmpty), ?_⟩
  rw [words, splitAt_cons_of_neg isWhite hc, hpieces]
  rfl

lemma words_ne_nil (h : ∃ c ∈ t, isWhite c = false) : words t ≠ [] := by
  obtain ⟨before, after, ht, hbefore, hafter⟩ := exists_eq_append_trim t
  obtain ⟨c, hc, hwhite⟩ := h
  have hne : trim t ≠ [] := by
    intro hnil
    rw [ht, hnil, List.append_nil] at hc
    have hall := (List.mem_append.mp hc).elim (hbefore c) (hafter c)
    exact Bool.noConfusion (hwhite.symm.trans hall)
  obtain ⟨d, rest, hd⟩ := List.exists_cons_of_ne_nil hne
  have hfirst : isWhite d = false := isWhite_of_mem_head?_trim (t := t) (by rw [hd]; rfl)
  obtain ⟨word, more, hwords⟩ := exists_words_cons hfirst rest
  rw [← words_trim, hd, hwords]
  exact List.cons_ne_nil _ _

/-! ### Lines -/

lemma mem_of_mem_dropReturn (h : c ∈ dropReturn t) : c ∈ t := by
  rcases List.eq_nil_or_concat' t with rfl | ⟨s, d, rfl⟩
  · exact h
  · rw [dropReturn_concat] at h
    split_ifs at h
    · exact List.mem_append_left _ h
    · exact h

lemma lineFeed_notMem_of_mem_lines {line : Text} (h : line ∈ lines t) : '\n' ∉ line := by
  have hpiece : ∀ piece ∈ splitAt (· == '\n') t, '\n' ∉ piece := by
    intro piece hpiece hmem
    exact absurd (of_mem_splitAt hpiece hmem).1 (by decide)
  intro hmem
  rw [lines_eq] at h
  rcases List.mem_append.mp h with h | h
  · obtain ⟨piece, hp, rfl⟩ := List.mem_map.mp h
    exact hpiece piece (List.dropLast_subset _ hp) (mem_of_mem_dropReturn hmem)
  · split_ifs at h
    · exact absurd h List.not_mem_nil
    · rw [List.mem_singleton] at h
      have hlast : line ∈ splitAt (· == '\n') t := by
        rw [h, List.getLastD_eq_getLast?, List.getLast?_eq_some_getLast (splitAt_ne_nil _ t)]
        exact List.getLast_mem _
      exact hpiece line hlast hmem

end Pseudocode.Text
