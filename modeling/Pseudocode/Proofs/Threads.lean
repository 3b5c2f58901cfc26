import Pseudocode.Pattern.Search
import Mathlib.Data.List.Basic

/-!
# Where patterns end

A run through a pattern only reads on: each of its ends lies as many characters behind the start as
it has read. With a condition on the start and the end of the text around it, a pattern ends only
where it has read all of it.
-/

namespace Pseudocode.Pattern
namespace Thread

/-- `u` comes after `t` by reading on. -/
def Follows (t u : Thread) : Prop :=
  ∃ taken, t.rest = taken ++ u.rest ∧ u.offset = t.offset + taken.length

variable {t u v : Thread}

lemma Follows.refl (t : Thread) : t.Follows t := ⟨[], rfl, rfl⟩

lemma Follows.trans (htu : t.Follows u) (huv : u.Follows v) : t.Follows v := by
  obtain ⟨taken, hrest, hoffset⟩ := htu
  obtain ⟨taken', hrest', hoffset'⟩ := huv
  refine ⟨taken ++ taken', ?_, ?_⟩
  · rw [hrest, hrest', List.append_assoc]
  · rw [hoffset', hoffset, List.length_append, Nat.add_assoc]

/-- Where two ways lead to the same place, the same text is left. -/
lemma Follows.rest_eq (hu : t.Follows u) (hv : t.Follows v) (h : v.offset = u.offset) :
    v.rest = u.rest := by
  obtain ⟨taken, hrest, hoffset⟩ := hu
  obtain ⟨taken', hrest', hoffset'⟩ := hv
  have hlength : taken'.length = taken.length := by omega
  exact (List.append_inj (hrest'.symm.trans hrest) hlength).2

lemma Follows.offset_eq (h : t.Follows u) (hrest : u.rest = []) :
    u.offset = t.offset + t.rest.length := by
  obtain ⟨taken, htaken, hoffset⟩ := h
  rw [hoffset, htaken, hrest, List.append_nil]

lemma follows_of_step {set : CharSet} (h : t.step set = some u) : t.Follows u := by
  unfold step at h
  split at h
  · cases h
  · rename_i c rest hrest
    split_ifs at h
    cases h
    exact ⟨[c], hrest, rfl⟩

lemma mem_of_mem_distinct {ts : List Thread} (h : u ∈ distinct ts) : u ∈ ts := by
  induction ts with
  | nil => exact h
  | cons t ts ih =>
    rcases List.mem_cons.mp h with rfl | h
    · exact List.mem_cons_self
    · exact List.mem_cons_of_mem t (ih (List.mem_filter.mp h).1)

lemma exists_mem_distinct {ts : List Thread} (h : u ∈ ts) :
    ∃ v ∈ distinct ts, v.offset = u.offset := by
  induction ts with
  | nil => exact absurd h List.not_mem_nil
  | cons t ts ih =>
    by_cases hoffset : t.offset = u.offset
    · exact ⟨t, List.mem_cons_self, hoffset⟩
    · rcases List.mem_cons.mp h with rfl | h
      · exact absurd rfl hoffset
      · obtain ⟨v, hv, hvu⟩ := ih h
        refine ⟨v, List.mem_cons_of_mem t (List.mem_filter.mpr ⟨hv, ?_⟩), hvu⟩
        exact decide_eq_true (fun hvt => hoffset (hvt.symm.trans hvu))

end Thread

open Thread

/-! ### Loops -/

/-- `u` is an end of so many rounds from `t`, each from the end of the one before. -/
inductive Rounds (round : Thread → List Thread) : Nat → Thread → Thread → Prop
  | none (t : Thread) : Rounds round 0 t t
  | cons {n : Nat} {t v u : Thread} (first : v ∈ round t) (rest : Rounds round n v u) :
      Rounds round (n + 1) t u

lemma mem_orStop {greedy : Bool} {more : List Thread} {t u : Thread} :
    u ∈ orStop greedy more t ↔ u ∈ more ∨ u = t := by
  unfold orStop
  split_ifs
  · simp
  · simp [or_comm]

section Loops

variable {round : Thread → List Thread}

lemma Rounds.concat {n : Nat} {t v u : Thread} (h : Rounds round n t v) (hu : u ∈ round v) :
    Rounds round (n + 1) t u := by
  induction h with
  | none t => exact .cons hu (.none u)
  | cons first _ ih => exact .cons first (ih hu)

lemma Rounds.of_round {R : Thread → Thread → Prop} (hrefl : ∀ t, R t t)
    (htrans : ∀ {t u v}, R t u → R u v → R t v) (hround : ∀ t, ∀ u ∈ round t, R t u) {n : Nat}
    {t u : Thread} (h : Rounds round n t u) : R t u := by
  induction h with
  | none t => exact hrefl t
  | cons first _ ih => exact htrans (hround _ _ first) ih

lemma rounds_of_mem_rounds {count : Nat} {t u : Thread} (h : u ∈ rounds round count t) :
    Rounds round count t u := by
  induction count generalizing u with
  | zero =>
    rw [List.mem_singleton.mp h]
    exact .none t
  | succ count ih =>
    obtain ⟨v, hv, hu⟩ := List.mem_flatMap.mp (mem_of_mem_distinct h)
    exact (ih hv).concat hu

lemma rounds_of_mem_atMost {greedy : Bool} {count : Nat} {seen : List (Nat × Nat)} {t u : Thread}
    (h : u ∈ (atMost round greedy count seen t).1) : ∃ n ≤ count, Rounds round n t u := by
  induction count generalizing seen t u with
  | zero =>
    rw [List.mem_singleton.mp h]
    exact ⟨0, Nat.le_refl 0, .none t⟩
  | succ count ih =>
    unfold atMost at h
    split_ifs at h
    · exact absurd h List.not_mem_nil
    · rcases mem_orStop.mp h with h | h
      · let reached (acc : List Thread × List (Nat × Nat)) : Prop :=
          ∀ u ∈ acc.1, ∃ n ≤ count + 1, Rounds round n t u
        refine List.foldlRecOn (motive := reached) (round t) _
          (fun u hu => absurd hu List.not_mem_nil) (fun acc hacc v hv u hu => ?_) u h
        rcases List.mem_append.mp hu with hu | hu
        · exact hacc u hu
        · obtain ⟨n, hn, hrounds⟩ := ih hu
          exact ⟨n + 1, Nat.succ_le_succ hn, .cons hv hrounds⟩
      · rw [h]
        exact ⟨0, Nat.zero_le _, .none t⟩

lemma rounds_of_mem_onceOrMore {greedy : Bool} {fuel : Nat} {seen : List Nat} {t u : Thread}
    (h : u ∈ (onceOrMore round greedy fuel seen t).1) : ∃ n, Rounds round (n + 1) t u := by
  induction fuel generalizing seen t u with
  | zero => exact absurd h List.not_mem_nil
  | succ fuel ih =>
    unfold onceOrMore at h
    let reached (acc : List Thread × List Nat) : Prop := ∀ u ∈ acc.1, ∃ n, Rounds round (n + 1) t u
    refine List.foldlRecOn (motive := reached) (round t) _
      (fun u hu => absurd hu List.not_mem_nil) (fun acc hacc v hv u hu => ?_) u h
    have hfirst : ∃ n, Rounds round (n + 1) t v := ⟨0, .cons hv (.none v)⟩
    split_ifs at hu
    · exact hacc u hu
    · rcases List.mem_append.mp hu with hu | hu
      · exact hacc u hu
      · -- a round that does not move is followed by no other
        rcases mem_orStop.mp hu with hu | rfl
        · exact absurd hu List.not_mem_nil
        · exact hfirst
    · rcases List.mem_append.mp hu with hu | hu
      · exact hacc u hu
      · rcases mem_orStop.mp hu with hu | rfl
        · obtain ⟨n, hrounds⟩ := ih hu
          exact ⟨n + 1, .cons hv hrounds⟩
        · exact hfirst

end Loops

lemma mem_run_anchor {a : Anchor} {t u : Thread} :
    u ∈ (anchor a).run t ↔ t.meets a ∧ u = t := by
  unfold run
  split_ifs with h <;> simp [h]

/-- What holds across each character and each capture, and across two ways one after the other,
holds across a run. -/
lemma of_mem_run {R : Thread → Thread → Prop} (hrefl : ∀ t, R t t)
    (htrans : ∀ {t u v}, R t u → R u v → R t v)
    (hstep : ∀ {set t u}, Thread.step set t = some u → R t u)
    (hcapture : ∀ {index t u}, R t u → R t (capture index t u)) {p : Pattern} {t u : Thread}
    (h : u ∈ p.run t) : R t u := by
  induction p generalizing t u with
  | empty =>
    rw [List.mem_singleton.mp h]
    exact hrefl t
  | one set => exact hstep (Option.mem_toList.mp h)
  | anchor a =>
    rw [(mem_run_anchor.mp h).2]
    exact hrefl t
  | seq p q ihp ihq =>
    obtain ⟨v, hv, hu⟩ := List.mem_flatMap.mp (mem_of_mem_distinct h)
    exact htrans (ihp hv) (ihq hu)
  | alt p q ihp ihq =>
    rcases List.mem_append.mp (mem_of_mem_distinct h) with h | h
    · exact ihp h
    · exact ihq h
  | group index p ih =>
    obtain ⟨v, hv, rfl⟩ := List.mem_map.mp h
    exact hcapture (ih hv)
  | exactly count p ih =>
    exact (rounds_of_mem_rounds h).of_round hrefl htrans fun _ _ => ih
  | upTo count greedy p ih =>
    obtain ⟨n, -, hrounds⟩ := rounds_of_mem_atMost (mem_of_mem_distinct h)
    exact hrounds.of_round hrefl htrans fun _ _ => ih
  | plus greedy p ih =>
    obtain ⟨n, hrounds⟩ := rounds_of_mem_onceOrMore h
    exact hrounds.of_round hrefl htrans fun _ _ => ih

/-- Each end of a run comes after its start by reading on. -/
theorem follows_of_mem_run {p : Pattern} {t u : Thread} (h : u ∈ p.run t) : t.Follows u :=
  of_mem_run Follows.refl Follows.trans follows_of_step (fun h => h) h

/-! ### Captures -/

/-- What is captured on the way is part of the text ahead. -/
def Thread.Captures (t u : Thread) : Prop :=
  u.rest ⊆ t.rest ∧ ∀ x ∈ u.captures, x ∈ t.captures ∨ x.2 ⊆ t.rest

lemma captures_of_mem_run {p : Pattern} {t u : Thread} (h : u ∈ p.run t) : t.Captures u := by
  refine of_mem_run (R := Thread.Captures) (fun t => ⟨List.Subset.refl _, fun x hx => .inl hx⟩)
    (fun {t u v} htu huv => ?_) (fun {set t u} hstep => ?_) (fun {index t u} htu => ?_) h
  · refine ⟨List.Subset.trans huv.1 htu.1, fun x hx => ?_⟩
    rcases huv.2 x hx with hx | hx
    · exact htu.2 x hx
    · exact .inr (List.Subset.trans hx htu.1)
  · obtain ⟨taken, hrest, -⟩ := follows_of_step hstep
    have hcaptures : u.captures = t.captures := by
      unfold step at hstep
      split at hstep
      · cases hstep
      · split_ifs at hstep
        cases hstep
        rfl
    exact ⟨hrest ▸ List.subset_append_right taken u.rest, fun x hx => .inl (hcaptures ▸ hx)⟩
  · refine ⟨htu.1, fun x hx => ?_⟩
    rcases List.mem_cons.mp hx with rfl | hx
    · exact .inr (List.take_subset _ _)
    · exact htu.2 x hx

lemma exists_run_of_searchFrom {p : Pattern} {offset : Nat} {previous : Option Char} {t : Text}
    {u : Thread} (h : searchFrom p offset previous t = some u) :
    ∃ start : Thread, start.rest ⊆ t ∧ start.captures = [] ∧ u ∈ p.run start := by
  induction t generalizing offset previous with
  | nil => exact ⟨_, List.Subset.refl _, rfl, List.mem_of_mem_head? h⟩
  | cons c rest ih =>
    unfold searchFrom at h
    split at h
    · rename_i v hv
      exact ⟨_, List.Subset.refl _, rfl, List.mem_of_mem_head? (hv.trans h)⟩
    · obtain ⟨start, hstart, hnone, hu⟩ := ih h
      exact ⟨start, List.subset_cons_of_subset c hstart, hnone, hu⟩

/-- Groups capture parts of the text that is searched. -/
theorem subset_of_captures? {p : Pattern} {t : Text} {groups : List Text}
    (h : p.captures? t = some groups) : ∀ g ∈ groups, g ⊆ t := by
  obtain ⟨u, hu, rfl⟩ := Option.map_eq_some_iff.mp h
  obtain ⟨start, hstart, hnone, hrun⟩ := exists_run_of_searchFrom hu
  obtain ⟨-, hcaptures⟩ := captures_of_mem_run hrun
  intro g hg
  obtain ⟨i, -, rfl⟩ := List.mem_map.mp hg
  unfold captured
  cases hlookup : u.captures.lookup (i + 1) with
  | none => exact List.nil_subset t
  | some g =>
    obtain ⟨newer, older, hsplit, -⟩ := List.lookup_eq_some_iff.mp hlookup
    have hmem : (i + 1, g) ∈ u.captures := hsplit ▸ List.mem_append_right newer List.mem_cons_self
    rcases hcaptures _ hmem with hmem | hsub
    · rw [hnone] at hmem
      exact absurd hmem List.not_mem_nil
    · exact List.Subset.trans hsub hstart

end Pseudocode.Pattern
