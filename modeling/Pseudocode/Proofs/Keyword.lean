import Pseudocode.Proofs.LineKind

/-!
# Keywords at the start of a line

A keyword is cut off a line by its number of bytes. Texts that agree up to the case of ASCII
letters have as many bytes, so that the cut never decides: a line begins with a keyword exactly
when some start of it agrees with the keyword.
-/

namespace Pseudocode
namespace Text

lemma sameWord_iff {a b : Text} : sameWord a b = true ↔ a.map asciiLower = b.map asciiLower := by
  induction a generalizing b with
  | nil =>
    cases b with
    | nil | cons => simp [sameWord]
  | cons c cs ih =>
    cases b with
    | nil => simp [sameWord]
    | cons d ds => simp [sameWord, sameLetter, ih]

lemma sameWord_append {a b c d : Text} (hac : sameWord a c = true) (hbd : sameWord b d = true) :
    sameWord (a ++ b) (c ++ d) = true := by
  rw [sameWord_iff] at hac hbd ⊢
  rw [List.map_append, List.map_append, hac, hbd]

lemma sameWord_take {a b : Text} (h : sameWord a b = true) (n : Nat) :
    sameWord (a.take n) (b.take n) = true := by
  rw [sameWord_iff] at h ⊢
  rw [List.map_take, List.map_take, h]

lemma sameWord_drop {a b : Text} (h : sameWord a b = true) (n : Nat) :
    sameWord (a.drop n) (b.drop n) = true := by
  rw [sameWord_iff] at h ⊢
  rw [List.map_drop, List.map_drop, h]

lemma length_eq_of_sameWord {a b : Text} (h : sameWord a b = true) : a.length = b.length := by
  have hlength := congrArg List.length (sameWord_iff.mp h)
  rwa [List.length_map, List.length_map] at hlength

lemma toNat_asciiLower {c : Char} (h : 'A' ≤ c ∧ c ≤ 'Z') :
    (asciiLower c).toNat = c.toNat + 32 := by
  have hle : c.toNat ≤ 90 := h.2
  have hvalid : (c.toNat + 32).isValidChar := .inl (by omega)
  rw [asciiLower, if_pos h, Char.ofNat, dif_pos hvalid]
  rfl

lemma byteLength_asciiLower (c : Char) : byteLength (asciiLower c) = byteLength c := by
  by_cases h : 'A' ≤ c ∧ c ≤ 'Z'
  · have hle : c.toNat ≤ 90 := h.2
    have hlower := toNat_asciiLower h
    rw [byteLength, byteLength, if_pos (by omega), if_pos (by omega)]
  · rw [asciiLower, if_neg h]

lemma byteLength_pos (c : Char) : 0 < byteLength c := by
  unfold byteLength
  split_ifs <;> omega

lemma byteSize_map_asciiLower (t : Text) : byteSize (t.map asciiLower) = byteSize t := by
  induction t with
  | nil => rfl
  | cons c rest ih => rw [List.map_cons, byteSize, byteSize, byteLength_asciiLower, ih]

lemma byteSize_eq_of_sameWord {a b : Text} (h : sameWord a b = true) :
    byteSize a = byteSize b := by
  rw [← byteSize_map_asciiLower a, sameWord_iff.mp h, byteSize_map_asciiLower]

end Text

namespace Keyword

lemma cutAtByte?_append (head rest : Text) :
    cutAtByte? (Text.byteSize head) (head ++ rest) = some (head, rest) := by
  induction head with
  | nil => cases rest <;> rfl
  | cons c head ih =>
    obtain ⟨size, hsize⟩ : ∃ size, Text.byteLength c + Text.byteSize head = size + 1 :=
      Nat.exists_eq_add_one.mpr (Nat.add_pos_left (Text.byteLength_pos c) _)
    have hle : Text.byteLength c ≤ size + 1 := hsize ▸ Nat.le_add_right _ _
    have hrest : size + 1 - Text.byteLength c = Text.byteSize head := by omega
    rw [Text.byteSize, hsize, List.cons_append, cutAtByte?, if_pos hle, hrest, ih]
    rfl

lemma after?_append {keyword head : Text} (h : Text.sameWord head keyword = true) (rest : Text) :
    after? keyword (head ++ rest) = some rest := by
  rw [after?, ← Text.byteSize_eq_of_sameWord h, cutAtByte?_append]
  exact if_pos h

lemma isSome_after?_iff {keyword line : Text} :
    (after? keyword line).isSome ↔
      ∃ head rest, line = head ++ rest ∧ Text.sameWord head keyword = true := by
  rw [Option.isSome_iff_exists]
  constructor
  · rintro ⟨rest, h⟩
    obtain ⟨head, hline, hword⟩ := append_of_after? h
    exact ⟨head, rest, hline, hword⟩
  · rintro ⟨head, rest, rfl, hword⟩
    exact ⟨rest, after?_append hword rest⟩

end Keyword
end Pseudocode
