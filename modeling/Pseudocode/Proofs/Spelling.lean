import Pseudocode.Proofs.WholeLine

/-!
# What patterns spell

A pattern spells a text if the text has its parts one after the other. A run reads only texts that
the pattern spells. Where a pattern repeats nothing but single characters, and otherwise has parts
that may be left out, it also reads every such text: of several ways to one place a search keeps
the first, but a place once reached is never lost.
-/

namespace Pseudocode.Pattern

open Thread

/-- So many texts of a kind one after the other. -/
def Repeats (kind : Text → Prop) : Nat → Text → Prop
  | 0, t => t = []
  | n + 1, t => ∃ a b, t = a ++ b ∧ kind a ∧ Repeats kind n b

/-- The texts that a pattern spells, conditions on positions aside. -/
def Spells : Pattern → Text → Prop
  | empty, t => t = []
  | one set, t => ∃ c, t = [c] ∧ set.contains c = true
  | anchor _, t => t = []
  | seq p q, t => ∃ a b, t = a ++ b ∧ p.Spells a ∧ q.Spells b
  | alt p q, t => p.Spells t ∨ q.Spells t
  | group _ p, t => p.Spells t
  | exactly count p, t => Repeats p.Spells count t
  | upTo count _ p, t => ∃ n ≤ count, Repeats p.Spells n t
  | plus _ p, t => ∃ n, Repeats p.Spells (n + 1) t

/-- No condition on a position, and no part that is repeated but single characters. -/
def isPlain : Pattern → Bool
  | empty | one _ => true
  | anchor _ | exactly _ _ => false
  | seq p q | alt p q => p.isPlain && q.isPlain
  | group _ p => p.isPlain
  | upTo count _ p => count == 1 && p.isPlain
  | plus _ (one _) => true
  | plus _ _ => false

/-! ### Runs read what a pattern spells -/

/-- The text between two threads is of a kind. -/
def Reads (kind : Text → Prop) (t u : Thread) : Prop :=
  ∃ taken, kind taken ∧ t.rest = taken ++ u.rest

lemma Rounds.reads {round : Thread → List Thread} {kind : Text → Prop}
    (hround : ∀ t, ∀ u ∈ round t, Reads kind t u) {n : Nat} {t u : Thread}
    (h : Rounds round n t u) : Reads (Repeats kind n) t u := by
  induction h with
  | none t => exact ⟨[], rfl, rfl⟩
  | cons first _ ih =>
    obtain ⟨a, ha, hfirst⟩ := hround _ _ first
    obtain ⟨b, hb, hrest⟩ := ih
    exact ⟨a ++ b, ⟨a, b, rfl, ha, hb⟩, by rw [hfirst, hrest, List.append_assoc]⟩

lemma reads_of_mem_run {p : Pattern} {t u : Thread} (h : u ∈ p.run t) : Reads p.Spells t u := by
  induction p generalizing t u with
  | empty =>
    rw [List.mem_singleton.mp h]
    exact ⟨[], rfl, rfl⟩
  | one set =>
    have hstep : t.step set = some u := Option.mem_toList.mp h
    unfold step at hstep
    split at hstep
    · cases hstep
    · rename_i c rest hrest
      split_ifs at hstep with hc
      cases hstep
      exact ⟨[c], ⟨c, rfl, hc⟩, hrest⟩
  | anchor a =>
    rw [(mem_run_anchor.mp h).2]
    exact ⟨[], rfl, rfl⟩
  | seq p q ihp ihq =>
    obtain ⟨v, hv, hu⟩ := List.mem_flatMap.mp (mem_of_mem_distinct h)
    obtain ⟨a, ha, hfirst⟩ := ihp hv
    obtain ⟨b, hb, hrest⟩ := ihq hu
    exact ⟨a ++ b, ⟨a, b, rfl, ha, hb⟩, by rw [hfirst, hrest, List.append_assoc]⟩
  | alt p q ihp ihq =>
    rcases List.mem_append.mp (mem_of_mem_distinct h) with h | h
    · obtain ⟨a, ha, hrest⟩ := ihp h
      exact ⟨a, .inl ha, hrest⟩
    · obtain ⟨a, ha, hrest⟩ := ihq h
      exact ⟨a, .inr ha, hrest⟩
  | group index p ih =>
    obtain ⟨v, hv, rfl⟩ := List.mem_map.mp h
    exact (ih hv : Reads p.Spells t v)
  | exactly count p ih => exact (rounds_of_mem_rounds h).reads fun _ _ => ih
  | upTo count greedy p ih =>
    obtain ⟨n, hn, hrounds⟩ := rounds_of_mem_atMost (mem_of_mem_distinct h)
    obtain ⟨taken, htaken, hrest⟩ := hrounds.reads fun _ _ => ih
    exact ⟨taken, ⟨n, hn, htaken⟩, hrest⟩
  | plus greedy p ih =>
    obtain ⟨n, hrounds⟩ := rounds_of_mem_onceOrMore h
    obtain ⟨taken, htaken, hrest⟩ := hrounds.reads fun _ _ => ih
    exact ⟨taken, ⟨n, htaken⟩, hrest⟩

/-! ### Plain patterns read all that they spell -/

lemma repeats_one_iff {kind : Text → Prop} {t : Text} : Repeats kind 1 t ↔ kind t := by
  constructor
  · rintro ⟨a, b, rfl, ha, rfl⟩
    rwa [List.append_nil]
  · exact fun h => ⟨t, [], (List.append_nil t).symm, h, rfl⟩

lemma repeats_spells_one_iff {set : CharSet} {n : Nat} {t : Text} :
    Repeats (one set).Spells n t ↔ t.length = n ∧ ∀ c ∈ t, set.contains c = true := by
  induction n generalizing t with
  | zero =>
    constructor
    · rintro rfl
      exact ⟨rfl, fun c hc => absurd hc List.not_mem_nil⟩
    · exact fun h => List.length_eq_zero_iff.mp h.1
  | succ n ih =>
    constructor
    · rintro ⟨_, b, rfl, ⟨c, rfl, hc⟩, hb⟩
      obtain ⟨hlength, hset⟩ := ih.mp hb
      exact ⟨by simp [hlength], List.forall_mem_cons.mpr ⟨hc, hset⟩⟩
    · rintro ⟨hlength, hset⟩
      obtain ⟨c, b, rfl⟩ := List.exists_cons_of_length_eq_add_one hlength
      obtain ⟨hc, hset⟩ := List.forall_mem_cons.mp hset
      exact ⟨[c], b, rfl, ⟨c, rfl, hc⟩, ih.mpr ⟨Nat.succ.inj hlength, hset⟩⟩

lemma spells_plus_one_iff {set : CharSet} {greedy : Bool} {t : Text} :
    (plus greedy (one set)).Spells t ↔ t ≠ [] ∧ ∀ c ∈ t, set.contains c = true := by
  constructor
  · rintro ⟨n, h⟩
    obtain ⟨hlength, hset⟩ := repeats_spells_one_iff.mp h
    exact ⟨List.ne_nil_of_length_eq_add_one hlength, hset⟩
  · rintro ⟨hne, hset⟩
    obtain ⟨c, t, rfl⟩ := List.exists_cons_of_ne_nil hne
    exact ⟨t.length, repeats_spells_one_iff.mpr ⟨rfl, hset⟩⟩

lemma spells_upTo_one_iff {greedy : Bool} {p : Pattern} {t : Text} :
    (upTo 1 greedy p).Spells t ↔ t = [] ∨ p.Spells t := by
  constructor
  · rintro ⟨n, hn, h⟩
    match n, hn, h with
    | 0, _, h => exact .inl h
    | 1, _, h => exact .inr (repeats_one_iff.mp h)
  · rintro (rfl | h)
    · exact ⟨0, Nat.zero_le 1, rfl⟩
    · exact ⟨1, Nat.le_refl 1, repeats_one_iff.mpr h⟩

lemma atMost_one (round : Thread → List Thread) (greedy : Bool) (t : Thread) :
    (atMost round greedy 1 [] t).1 = orStop greedy (round t) t := by
  have hfold (seen : List (Nat × Nat)) (found us : List Thread) :
      us.foldl (fun acc u => (acc.1 ++ [u], acc.2)) (found, seen) = (found ++ us, seen) := by
    induction us generalizing found with
    | nil => simp
    | cons u us ih => simp [ih]
  unfold atMost
  simp only [List.contains_nil, Bool.false_eq_true, if_false, atMost]
  rw [hfold]
  rfl

lemma onceOrMore_one_cons {set : CharSet} {greedy : Bool} {fuel : Nat} {seen : List Nat}
    {t : Thread} {c : Char} {rest : Text} (hc : set.contains c = true)
    (hrest : t.rest = c :: rest) (hseen : ∀ i ∈ seen, i ≤ t.offset) :
    let next : Thread := ⟨t.offset + 1, some c, rest, t.captures⟩
    (onceOrMore (one set).run greedy (fuel + 1) seen t).1 =
      orStop greedy (onceOrMore (one set).run greedy fuel (next.offset :: seen) next).1 next := by
  intro next
  have hround : (one set).run t = [next] := by
    obtain ⟨offset, previous, rest, captures⟩ := t
    cases hrest
    simp [run, step, hc, next]
  have hnew : seen.contains next.offset = false := by
    rw [List.contains_eq_mem, decide_eq_false_iff_not]
    exact fun hmem => absurd (hseen _ hmem) (Nat.not_succ_le_self t.offset)
  have hmoved : next.offset ≠ t.offset := Nat.succ_ne_self t.offset
  rw [onceOrMore]
  simp only [hround, List.foldl_cons, List.foldl_nil, hnew, Bool.false_eq_true, if_false,
    if_neg hmoved, List.nil_append]

lemma exists_mem_onceOrMore_one {set : CharSet} {greedy : Bool} {taken : Text} (hne : taken ≠ [])
    (hset : ∀ c ∈ taken, set.contains c = true) {fuel : Nat} (hfuel : taken.length ≤ fuel)
    {seen : List Nat} {t : Thread} (hseen : ∀ i ∈ seen, i ≤ t.offset) {s : Text}
    (hrest : t.rest = taken ++ s) :
    ∃ u ∈ (onceOrMore (one set).run greedy fuel seen t).1, u.rest = s := by
  induction taken generalizing fuel seen t with
  | nil => exact absurd rfl hne
  | cons c taken ih =>
    obtain ⟨hc, hset⟩ := List.forall_mem_cons.mp hset
    obtain ⟨fuel, rfl⟩ := Nat.exists_eq_add_of_le' (Nat.le_trans (by simp) hfuel : 1 ≤ fuel)
    let next : Thread := ⟨t.offset + 1, some c, taken ++ s, t.captures⟩
    have hways : (onceOrMore (one set).run greedy (fuel + 1) seen t).1 =
        orStop greedy (onceOrMore (one set).run greedy fuel (next.offset :: seen) next).1 next :=
      onceOrMore_one_cons hc hrest hseen
    rw [hways]
    cases taken with
    | nil => exact ⟨next, mem_orStop.mpr (.inr rfl), rfl⟩
    | cons d taken =>
      have hlater : ∀ i ∈ next.offset :: seen, i ≤ next.offset := by
        refine List.forall_mem_cons.mpr ⟨Nat.le_refl _, fun i hi => ?_⟩
        exact Nat.le_succ_of_le (hseen i hi)
      obtain ⟨u, hu, hus⟩ := ih (List.cons_ne_nil d taken) hset
        (Nat.le_of_succ_le_succ hfuel) hlater rfl
      exact ⟨u, mem_orStop.mpr (.inl hu), hus⟩

lemma follows_of_mem_flatMap {p q : Pattern} {t u : Thread}
    (h : u ∈ (p.run t).flatMap q.run) : t.Follows u := by
  obtain ⟨v, hv, hu⟩ := List.mem_flatMap.mp h
  exact (follows_of_mem_run hv).trans (follows_of_mem_run hu)

lemma follows_of_mem_orStop {p : Pattern} {greedy : Bool} {t u : Thread}
    (h : u ∈ orStop greedy (p.run t) t) : t.Follows u := by
  rcases mem_orStop.mp h with h | rfl
  · exact follows_of_mem_run h
  · exact .refl u

/-- Of the ways from one thread those that are kept leave the same texts. -/
lemma exists_mem_distinct_rest {ts : List Thread} {t u : Thread} (hts : ∀ u ∈ ts, t.Follows u)
    (hu : u ∈ ts) : ∃ v ∈ distinct ts, v.rest = u.rest := by
  obtain ⟨v, hv, hoffset⟩ := exists_mem_distinct hu
  exact ⟨v, hv, (hts u hu).rest_eq (hts v (mem_of_mem_distinct hv)) hoffset⟩

lemma exists_mem_run {p : Pattern} (hp : p.isPlain = true) {taken s : Text} (h : p.Spells taken)
    {t : Thread} (hrest : t.rest = taken ++ s) : ∃ u ∈ p.run t, u.rest = s := by
  induction p generalizing taken s t with
  | empty =>
    cases h
    exact ⟨t, List.mem_singleton_self t, hrest⟩
  | one set =>
    obtain ⟨c, rfl, hc⟩ := h
    obtain ⟨offset, previous, rest, captures⟩ := t
    cases hrest
    exact ⟨⟨offset + 1, some c, s, captures⟩, by simp [run, step, hc], rfl⟩
  | anchor | exactly => exact Bool.noConfusion hp
  | seq p q ihp ihq =>
    obtain ⟨hplain, hplain'⟩ := Bool.and_eq_true_iff.mp hp
    obtain ⟨a, b, rfl, ha, hb⟩ := h
    rw [List.append_assoc] at hrest
    obtain ⟨v, hv, hvrest⟩ := ihp hplain ha hrest
    obtain ⟨u, hu, hurest⟩ := ihq hplain' hb hvrest
    obtain ⟨w, hw, hwrest⟩ := exists_mem_distinct_rest
      (fun _ hu => follows_of_mem_flatMap hu) (List.mem_flatMap.mpr ⟨v, hv, hu⟩)
    exact ⟨w, hw, hwrest.trans hurest⟩
  | alt p q ihp ihq =>
    obtain ⟨hplain, hplain'⟩ := Bool.and_eq_true_iff.mp hp
    have hfollows : ∀ u ∈ p.run t ++ q.run t, t.Follows u := by
      intro u hu
      rcases List.mem_append.mp hu with hu | hu <;> exact follows_of_mem_run hu
    obtain ⟨u, hu, hurest⟩ : ∃ u ∈ p.run t ++ q.run t, u.rest = s := by
      rcases h with h | h
      · obtain ⟨u, hu, hurest⟩ := ihp hplain h hrest
        exact ⟨u, List.mem_append_left _ hu, hurest⟩
      · obtain ⟨u, hu, hurest⟩ := ihq hplain' h hrest
        exact ⟨u, List.mem_append_right _ hu, hurest⟩
    obtain ⟨w, hw, hwrest⟩ := exists_mem_distinct_rest hfollows hu
    exact ⟨w, hw, hwrest.trans hurest⟩
  | group index p ih =>
    obtain ⟨u, hu, hurest⟩ := ih hp h hrest
    exact ⟨_, List.mem_map.mpr ⟨u, hu, rfl⟩, hurest⟩
  | upTo count greedy p ih =>
    obtain ⟨hcount, hplain⟩ := Bool.and_eq_true_iff.mp hp
    obtain rfl : count = 1 := beq_iff_eq.mp hcount
    have hfollows : ∀ u ∈ (atMost p.run greedy 1 [] t).1, t.Follows u := fun u hu =>
      follows_of_mem_orStop (atMost_one p.run greedy t ▸ hu)
    obtain ⟨u, hu, hurest⟩ : ∃ u ∈ (atMost p.run greedy 1 [] t).1, u.rest = s := by
      rw [atMost_one]
      rcases spells_upTo_one_iff.mp h with rfl | h
      · exact ⟨t, mem_orStop.mpr (.inr rfl), hrest⟩
      · obtain ⟨u, hu, hurest⟩ := ih hplain h hrest
        exact ⟨u, mem_orStop.mpr (.inl hu), hurest⟩
    obtain ⟨w, hw, hwrest⟩ := exists_mem_distinct_rest hfollows hu
    exact ⟨w, hw, hwrest.trans hurest⟩
  | plus greedy p ih =>
    obtain ⟨set, rfl⟩ : ∃ set, p = one set := by
      cases p with
      | one set => exact ⟨set, rfl⟩
      | _ => exact Bool.noConfusion hp
    obtain ⟨hne, hset⟩ := spells_plus_one_iff.mp h
    have hfuel : taken.length ≤ t.rest.length + 1 := by
      rw [hrest, List.length_append]
      omega
    exact exists_mem_onceOrMore_one hne hset hfuel (fun i hi => absurd hi List.not_mem_nil) hrest

/-- A plain pattern describes exactly the texts that it spells. -/
theorem describes_iff_spells {p : Pattern} (hp : p.isPlain = true) (t : Text) :
    p.Describes t ↔ p.Spells t := by
  constructor
  · rintro ⟨u, hu, hrest⟩
    obtain ⟨taken, htaken, h⟩ := reads_of_mem_run hu
    rw [hrest, List.append_nil] at h
    have ht : t = taken := h
    rwa [ht]
  · intro h
    obtain ⟨u, hu, hrest⟩ := exists_mem_run hp h (t := atStart t) (List.append_nil t).symm
    exact ⟨u, hu, hrest⟩

end Pseudocode.Pattern
