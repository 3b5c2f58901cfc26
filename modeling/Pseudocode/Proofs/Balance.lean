import Pseudocode.Text.Basic
import Mathlib.Data.List.Infix

/-!
# Balanced braces

A text is balanced if it closes as many braces as it opens and never more than it has opened so
far. Whether it is can be told from its braces alone, and a balanced text may be put anywhere into
another one.
-/

namespace Pseudocode.Text

def isBrace (c : Char) : Bool := c == '\x7b' || c == '\x7d'

def braces (t : Text) : Text := t.filter isBrace

/-- Every brace of the text has its counterpart. -/
structure Balanced (t : Text) : Prop where
  total : t.count '\x7b' = t.count '\x7d'
  start : ∀ u, u <+: t → u.count '\x7d' ≤ u.count '\x7b'

variable {s t : Text}

/-! ### The braces of a text -/

lemma braces_append (s t : Text) : braces (s ++ t) = braces s ++ braces t := List.filter_append s t

lemma braces_eq_nil_iff : braces t = [] ↔ ∀ c ∈ t, isBrace c = false := by
  simp [braces, List.filter_eq_nil_iff]

lemma braces_eq_nil_of_forall {p : Char → Bool} (h : ∀ c ∈ t, p c = true)
    (hp : p '\x7b' = false ∧ p '\x7d' = false) : braces t = [] := by
  refine braces_eq_nil_iff.mpr fun c hc => Bool.eq_false_iff.mpr fun hbrace => ?_
  have hpc := h c hc
  rcases Bool.or_eq_true_iff.mp hbrace with hopen | hclose
  · rw [beq_iff_eq.mp hopen, hp.1] at hpc
    exact Bool.noConfusion hpc
  · rw [beq_iff_eq.mp hclose, hp.2] at hpc
    exact Bool.noConfusion hpc

lemma count_braces (t : Text) :
    (braces t).count '\x7b' = t.count '\x7b' ∧ (braces t).count '\x7d' = t.count '\x7d' :=
  ⟨List.count_filter rfl, List.count_filter rfl⟩

/-- Only the braces of a text decide whether it is balanced. -/
lemma Balanced.of_braces (h : Balanced (braces t)) : Balanced t := by
  refine ⟨?_, fun u hu => ?_⟩
  · rw [← (count_braces t).1, ← (count_braces t).2, h.total]
  · rw [← (count_braces u).1, ← (count_braces u).2]
    exact h.start _ (hu.filter isBrace)

/-! ### Balanced texts in others -/

lemma balanced_nil : Balanced [] :=
  ⟨rfl, fun u hu => by rw [List.prefix_nil.mp hu, List.count_nil, List.count_nil]⟩

lemma prefix_append_cases {u : Text} (h : u <+: s ++ t) : u <+: s ∨ ∃ v, v <+: t ∧ u = s ++ v := by
  rcases List.prefix_or_prefix_of_prefix h (List.prefix_append s t) with h' | ⟨v, rfl⟩
  · exact .inl h'
  · exact .inr ⟨v, (List.prefix_append_right_inj s).mp h, rfl⟩

lemma Balanced.insert (before : Text) {after : Text} (h : Balanced (before ++ after))
    (ht : Balanced t) : Balanced (before ++ (t ++ after)) := by
  have htotal := h.total
  have htotal' := ht.total
  simp only [List.count_append] at htotal
  refine ⟨?_, fun u hu => ?_⟩
  · simp only [List.count_append]
    omega
  · rcases prefix_append_cases hu with hu | ⟨v, hv, rfl⟩
    · exact h.start u (hu.trans (List.prefix_append before after))
    · have hbefore := h.start before (List.prefix_append before after)
      rcases prefix_append_cases hv with hv | ⟨w, hw, rfl⟩
      · have hstart := ht.start v hv
        simp only [List.count_append]
        omega
      · have hstart := h.start (before ++ w) ((List.prefix_append_right_inj before).mpr hw)
        simp only [List.count_append] at hstart ⊢
        omega

lemma Balanced.append (hs : Balanced s) (ht : Balanced t) : Balanced (s ++ t) := by
  have hend : Balanced (s ++ []) := by rwa [List.append_nil]
  have h := hend.insert s ht
  rwa [List.append_nil] at h

lemma Balanced.open_append (h : Balanced ('\x7b' :: t)) (hs : Balanced s) :
    Balanced ('\x7b' :: (s ++ t)) := Balanced.insert ['\x7b'] h hs

lemma Balanced.enclose (ht : Balanced t) : Balanced ('\x7b' :: (t ++ ['\x7d'])) := by
  have hpair : Balanced ['\x7b', '\x7d'] := by
    refine ⟨rfl, fun u hu => ?_⟩
    rcases List.prefix_cons_iff.mp hu with rfl | ⟨v, rfl, hv⟩
    · exact Nat.le_refl _
    · rcases List.prefix_cons_iff.mp hv with rfl | ⟨w, rfl, hw⟩
      · decide
      · rw [List.prefix_nil.mp hw]
        decide
  exact hpair.open_append ht

end Pseudocode.Text
