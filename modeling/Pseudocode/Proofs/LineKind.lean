import Pseudocode.Outline.Header
import Pseudocode.Outline.Signature
import Mathlib.Data.List.TakeDrop

/-!
# Kinds of line

A class header, a method header with its keyword and the closing line of a method begin with
different letters, in whatever case, so that no line is of two of these kinds. A header without
the keyword holds a parenthesis, which the closing line does not.
-/

namespace Pseudocode
namespace Text

lemma mem_of_mem_trim {c : Char} {t : Text} (h : c ∈ trim t) : c ∈ t := by
  have hstart : c ∈ trimStart t := by
    unfold trim trimEnd dropEndWhile at h
    rw [List.mem_reverse] at h
    exact List.mem_reverse.mp ((List.dropWhile_sublist _).mem h)
  exact (List.dropWhile_sublist _).mem hstart

lemma fold_eq_of_sameLetter {c d : Char} (hd : (asciiLower d).toNat < 128)
    (h : sameLetter c d = true) : fold c = asciiLower d := by
  have hlower : asciiLower c = asciiLower d := by simpa [sameLetter] using h
  have hc : c.toNat < 128 := by
    by_contra hc
    -- beyond ASCII there are no capitals, so that c itself would be the lower case of d
    have hcapital : ¬('A' ≤ c ∧ c ≤ 'Z') := by
      rintro ⟨-, hZ⟩
      have hle : c.toNat ≤ 90 := hZ
      omega
    rw [asciiLower, if_neg hcapital] at hlower
    exact hc (hlower ▸ hd)
  rw [fold, if_pos hc, hlower]

lemma sameWord_cons {a : Text} {d : Char} {ds : Text} (h : sameWord a (d :: ds) = true) :
    ∃ c cs, a = c :: cs ∧ sameLetter c d = true ∧ sameWord cs ds = true := by
  cases a with
  | nil => simp [sameWord] at h
  | cons c cs =>
    simp only [sameWord, Bool.and_eq_true] at h
    exact ⟨c, cs, rfl, h.1, h.2⟩

lemma exists_sameLetter_of_mem {a b : Text} (h : sameWord a b = true) {c : Char} (hc : c ∈ a) :
    ∃ d ∈ b, sameLetter c d = true := by
  induction b generalizing a with
  | nil =>
    cases a with
    | nil => simp at hc
    | cons _ _ => simp [sameWord] at h
  | cons d ds ih =>
    obtain ⟨c', cs, rfl, hletter, hrest⟩ := sameWord_cons h
    rcases List.mem_cons.mp hc with rfl | hc
    · exact ⟨d, List.mem_cons_self, hletter⟩
    · obtain ⟨d', hd', hl⟩ := ih hrest hc
      exact ⟨d', List.mem_cons_of_mem d hd', hl⟩

end Text

namespace Keyword

lemma append_of_cutAtByte? {size : Nat} {t head rest : Text}
    (h : cutAtByte? size t = some (head, rest)) : t = head ++ rest := by
  induction t generalizing size head rest with
  | nil =>
    cases size with
    | zero => simp_all [cutAtByte?]
    | succ size => simp [cutAtByte?] at h
  | cons c t ih =>
    cases size with
    | zero =>
      simp only [cutAtByte?, Option.some.injEq, Prod.mk.injEq] at h
      simp [← h.1, ← h.2]
    | succ size =>
      rw [cutAtByte?] at h
      split at h
      · obtain ⟨⟨head', rest'⟩, hcut, hpair⟩ := Option.map_eq_some_iff.mp h
        obtain ⟨rfl, rfl⟩ := Prod.mk.inj hpair
        rw [ih hcut, List.cons_append]
      · simp at h

lemma append_of_after? {keyword line rest : Text} (h : after? keyword line = some rest) :
    ∃ head, line = head ++ rest ∧ Text.sameWord head keyword = true := by
  unfold after? at h
  split at h
  · rename_i head rest' hcut
    split at h
    · rename_i hword
      rw [Option.some.injEq] at h
      exact ⟨head, h ▸ append_of_cutAtByte? hcut, hword⟩
    · simp at h
  · simp at h

end Keyword

/-! ### The first letter of a line -/

lemma ClassHeader.ofLine?_eq_some_iff {line : Text} {header : ClassHeader} :
    ofLine? line = some header ↔
      (line.take 5).map Text.fold = "class".toList ∧ ∃ c rest, line.drop 5 = c :: rest ∧
        Text.isWhite c = true ∧ ofNames? (Text.trimStart rest) = some header := by
  unfold ofLine?
  split_ifs with hkeyword
  · cases line.drop 5 with
    | nil => simp
    | cons c rest =>
      by_cases hwhite : Text.isWhite c = true
      · simp [hkeyword, hwhite]
      · simp [hwhite]
  · exact iff_of_false id fun h => hkeyword h.1

lemma ClassHeader.head?_fold {line : Text} {header : ClassHeader} (h : ofLine? line = some header) :
    line.head?.map Text.fold = some 'c' := by
  obtain ⟨hkeyword, -⟩ := ofLine?_eq_some_iff.mp h
  cases line with
  | nil => simp at hkeyword
  | cons c rest =>
    rw [List.take_succ_cons, List.map_cons] at hkeyword
    exact congrArg some (List.cons.inj hkeyword).1

lemma ClassHeader.ne_nil {line : Text} {header : ClassHeader} (h : ofLine? line = some header) :
    line ≠ [] := by
  rintro rfl
  exact absurd (head?_fold h) (by decide)

namespace Line

lemma head?_fold_of_methodHeader {line header : Text} (h : methodHeader? line = some header) :
    line.head?.map Text.fold = some 'f' := by
  obtain ⟨rest, hafter, -⟩ := Option.map_eq_some_iff.mp h
  obtain ⟨head, rfl, hword⟩ := Keyword.append_of_after? hafter
  obtain ⟨c, cs, rfl, hletter, -⟩ := Text.sameWord_cons hword
  exact congrArg some (Text.fold_eq_of_sameLetter (by decide) hletter)

lemma head?_fold_of_closesMethod {line : Text} (h : closesMethod line = true) :
    line.head?.map Text.fold = some 'e' := by
  obtain ⟨c, cs, rfl, hletter, -⟩ := Text.sameWord_cons h
  exact congrArg some (Text.fold_eq_of_sameLetter (by decide) hletter)

lemma ne_nil_of_methodHeader {line header : Text} (h : methodHeader? line = some header) :
    line ≠ [] := by
  rintro rfl
  exact absurd (head?_fold_of_methodHeader h) (by decide)

lemma ne_nil_of_closesMethod {line : Text} (h : closesMethod line = true) : line ≠ [] := by
  rintro rfl
  exact absurd (head?_fold_of_closesMethod h) (by decide)

lemma classHeader_none_of_methodHeader {line header : Text} (h : methodHeader? line = some header) :
    ClassHeader.ofLine? line = none := by
  refine Option.eq_none_iff_forall_ne_some.mpr fun c hc => ?_
  have hletter := (ClassHeader.head?_fold hc).symm.trans (head?_fold_of_methodHeader h)
  exact absurd hletter (by decide)

lemma classHeader_none_of_closesMethod {line : Text} (h : closesMethod line = true) :
    ClassHeader.ofLine? line = none := by
  refine Option.eq_none_iff_forall_ne_some.mpr fun c hc => ?_
  have hletter := (ClassHeader.head?_fold hc).symm.trans (head?_fold_of_closesMethod h)
  exact absurd hletter (by decide)

lemma methodHeader_none_of_closesMethod {line : Text} (h : closesMethod line = true) :
    methodHeader? line = none := by
  refine Option.eq_none_iff_forall_ne_some.mpr fun t ht => ?_
  have hletter := (head?_fold_of_methodHeader ht).symm.trans (head?_fold_of_closesMethod h)
  exact absurd hletter (by decide)

end Line

/-! ### Headers without the keyword -/

namespace HeaderParts

lemma paren_mem_of_parameters? {t parameters : Text} (h : parameters? t = some parameters) :
    '(' ∈ t := by
  unfold parameters? at h
  split at h
  · rename_i rest hstart
    have hmem : '(' ∈ Text.trimStart t := hstart ▸ List.mem_cons_self
    exact (List.dropWhile_sublist _).mem hmem
  · simp at h

lemma mem_of_mem_spanWord_snd {c : Char} {t : Text} (h : c ∈ (Text.spanWord t).2) : c ∈ t := by
  rw [Text.spanWord, List.span_eq_takeWhile_dropWhile] at h
  exact (List.dropWhile_sublist _).mem h

lemma paren_mem_of_ofText? {t : Text} {parts : HeaderParts} (h : ofText? t = some parts) :
    '(' ∈ t := by
  unfold ofText? at h
  split at h
  · simp at h
  · rename_i first rest hne hspan
    have hrest : ∀ c ∈ rest, c ∈ t := fun c hc => mem_of_mem_spanWord_snd (hspan ▸ hc)
    split at h
    · rename_i parameters hparameters
      exact hrest _ (paren_mem_of_parameters? hparameters)
    · split at h
      · split at h
        · simp at h
        · rename_i second rest' hne' hspan'
          obtain ⟨parameters, hparameters, -⟩ := Option.map_eq_some_iff.mp h
          have hmem : '(' ∈ Text.trimStart rest :=
            mem_of_mem_spanWord_snd (hspan' ▸ paren_mem_of_parameters? hparameters)
          exact hrest _ ((List.dropWhile_sublist _).mem hmem)
      · simp at h

end HeaderParts

namespace Signature

/-- Whether a line can be read as a header does not depend on the class it stands in. -/
lemma isSome_ofLine? (owner owner' line : Text) :
    (ofLine? owner line).isSome = (ofLine? owner' line).isSome := by
  unfold ofLine? ofHeader?
  split <;> simp

lemma ofHeader_eq_of_ofLine? {owner line : Text} {signature : Signature}
    (h : ofLine? owner line = some signature) : ofHeader owner line = signature := by
  unfold ofLine? at h
  split at h
  · simp at h
  · rw [ofHeader, h, Option.getD_some]

lemma paren_mem_of_ofLine? {owner line : Text} {signature : Signature}
    (h : ofLine? owner line = some signature) : '(' ∈ line := by
  unfold ofLine? at h
  split at h
  · simp at h
  · obtain ⟨parts, hparts, -⟩ := Option.map_eq_some_iff.mp h
    exact Text.mem_of_mem_trim (HeaderParts.paren_mem_of_ofText? hparts)

lemma none_of_closesMethod {line : Text} (h : Line.closesMethod line = true) (owner : Text) :
    ofLine? owner line = none := by
  refine Option.eq_none_iff_forall_ne_some.mpr fun signature hs => ?_
  obtain ⟨d, hd, hletter⟩ := Text.exists_sameLetter_of_mem h (paren_mem_of_ofLine? hs)
  have hkeyword : "endfunction".toList.any (Text.sameLetter '(') = false := by decide
  exact List.any_eq_false.mp hkeyword d hd hletter

end Signature
end Pseudocode
