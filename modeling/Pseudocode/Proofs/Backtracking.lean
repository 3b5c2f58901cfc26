import Pseudocode.Proofs.WordForms

/-!
# Backtracking

Of several ways to one place a search keeps only the first. It still finds what backtracking finds,
which tries the ways through each pattern in turn until the patterns after it can be completed:
whether they can be depends on the text ahead and not on the way there. Which parts of a text are
captured is therefore told pattern by pattern. A greedy repetition takes all that it can, and a
lazy one no more than what follows needs.
-/

namespace Pseudocode.Pattern

open Thread

/-- The first way through the patterns one after the other that `last` accepts, if the ways through
each are tried in turn. -/
def backtrack (last : Thread → Option Thread) : List Pattern → Thread → Option Thread
  | [], t => last t
  | p :: ps, t => (p.run t).findSome? (backtrack last ps)

/-- Whether `f` accepts a place depends on the text ahead, which has to be of a kind. -/
def Decides (f : Thread → Option Thread) (kind : Text → Prop) : Prop :=
  ∀ t, (f t).isSome = true ↔ kind t.rest

/-- A text that the patterns spell, followed by one of a kind. -/
def Before (ps : List Pattern) (kind : Text → Prop) (t : Text) : Prop :=
  ∃ a b, t = a ++ b ∧ SpellsAll ps a ∧ kind b

/-- Accepts the end of the text. -/
def finish (t : Thread) : Option Thread := if t.rest.isEmpty then some t else none

variable {f : Thread → Option Thread} {kind : Text → Prop} {p q : Pattern} {ps qs : List Pattern}
  {t u : Thread}

lemma decides_finish : Decides finish (· = []) := by
  intro t
  unfold finish
  split_ifs with h
  · exact iff_of_true rfl (List.isEmpty_iff.mp h)
  · exact iff_of_false Bool.false_ne_true (mt List.isEmpty_iff.mpr h)

lemma Decides.eq_none (hf : Decides f kind) (h : ¬kind t.rest) : f t = none := by
  rw [← Option.isNone_iff_eq_none, ← Option.isSome_eq_false_iff, Bool.eq_false_iff]
  exact fun hsome => h ((hf t).mp hsome)

/-! ### Searching and backtracking -/

lemma backtrack_append : backtrack f (ps ++ qs) = backtrack (backtrack f qs) ps := by
  induction ps with
  | nil => rfl
  | cons p ps ih => funext t; rw [List.cons_append, backtrack, backtrack, ih]

lemma Decides.backtrack (hf : Decides f kind) (hps : ∀ p ∈ ps, p.isPlain = true) :
    Decides (backtrack f ps) (Before ps kind) := by
  induction ps with
  | nil =>
    intro t
    rw [Pattern.backtrack, hf]
    constructor
    · exact fun h => ⟨[], t.rest, rfl, rfl, h⟩
    · rintro ⟨_, b, ht, rfl, hb⟩
      rw [ht]
      exact hb
  | cons p ps ih =>
    obtain ⟨hp, hps⟩ := List.forall_mem_cons.mp hps
    intro t
    rw [Pattern.backtrack, List.findSome?_isSome_iff]
    constructor
    · rintro ⟨u, hu, hsome⟩
      obtain ⟨a, ha, hrest⟩ := reads_of_mem_run hu
      obtain ⟨b, c, hb, hspells, hc⟩ := (ih hps u).mp hsome
      exact ⟨a ++ b, c, by rw [hrest, hb, List.append_assoc], ⟨a, b, rfl, ha, hspells⟩, hc⟩
    · rintro ⟨_, c, hrest, ⟨a, b, rfl, ha, hspells⟩, hc⟩
      rw [List.append_assoc] at hrest
      obtain ⟨u, hu, hurest⟩ := exists_mem_run hp ha hrest
      exact ⟨u, hu, (ih hps u).mpr ⟨b, c, hurest, hspells, hc⟩⟩

lemma findSome?_filter {α β : Type} {f : α → Option β} {keep : α → Bool} {xs : List α}
    (h : ∀ x ∈ xs, keep x = false → f x = none) :
    (xs.filter keep).findSome? f = xs.findSome? f := by
  induction xs with
  | nil => rfl
  | cons x xs ih =>
    obtain ⟨hx, hxs⟩ := List.forall_mem_cons.mp h
    cases hkeep : keep x with
    | true => rw [List.filter_cons_of_pos hkeep, List.findSome?_cons, List.findSome?_cons, ih hxs]
    | false =>
      rw [List.filter_cons_of_neg (Bool.eq_false_iff.mp hkeep), List.findSome?_cons, hx hkeep,
        ih hxs]

/-- A thread that is left out leads nowhere else than the one that is kept. -/
lemma findSome?_distinct (hf : Decides f kind) {ts : List Thread} (hts : ∀ u ∈ ts, t.Follows u) :
    (distinct ts).findSome? f = ts.findSome? f := by
  induction ts with
  | nil => rfl
  | cons v ts ih =>
    obtain ⟨hv, hts⟩ := List.forall_mem_cons.mp hts
    rw [distinct, List.findSome?_cons, List.findSome?_cons, ← ih hts]
    cases hfound : f v with
    | some u => rfl
    | none =>
      refine findSome?_filter fun u hu hoffset => ?_
      have hsame : v.offset = u.offset := (of_decide_eq_false hoffset |> not_not.mp).symm
      have hrest := (hts u (mem_of_mem_distinct hu)).rest_eq hv hsame
      have hkind : ¬kind v.rest := fun h => by simpa [hfound] using (hf v).mpr h
      exact hf.eq_none (hrest ▸ hkind)

lemma findSome?_flatMap {α β γ : Type} {f : β → Option γ} {g : α → List β} {xs : List α} :
    (xs.flatMap g).findSome? f = xs.findSome? fun x => (g x).findSome? f := by
  induction xs with
  | nil => rfl
  | cons x xs ih =>
    rw [List.flatMap_cons, List.findSome?_append, List.findSome?_cons, ih]
    cases (g x).findSome? f <;> rfl

/-- A search through patterns one after the other finds what backtracking finds. -/
theorem findSome?_run_inTurn (hf : Decides f kind) (hps : ∀ p ∈ ps, p.isPlain = true) :
    ((inTurn ps).run t).findSome? f = backtrack f ps t := by
  have hfold {p : Pattern} {ps : List Pattern} (hps : ∀ p ∈ ps, p.isPlain = true) :
      ((ps.foldl seq p).run t).findSome? f = (p.run t).findSome? (backtrack f ps) := by
    induction ps generalizing p with
    | nil => rfl
    | cons q ps ih =>
      obtain ⟨-, hps⟩ := List.forall_mem_cons.mp hps
      rw [List.foldl_cons, ih hps]
      show (distinct ((p.run t).flatMap q.run)).findSome? (backtrack f ps) = _
      rw [findSome?_distinct (hf.backtrack hps) fun u hu => follows_of_mem_flatMap hu,
        findSome?_flatMap]
      rfl
  cases ps with
  | nil => exact List.findSome?_singleton
  | cons p ps => exact hfold (List.forall_mem_cons.mp hps).2

lemma head?_distinct (ts : List Thread) : (distinct ts).head? = ts.head? := by
  cases ts <;> rfl

lemma captures?_enclosed (p : Pattern) (line : Text) :
    (enclosed p).captures? line = ((p.run (.atStart line)).findSome? finish).map fun found =>
      (List.range p.groupCount).map fun i => found.captured (i + 1) := by
  have hcount : (enclosed p).groupCount = p.groupCount := by simp [enclosed, groupCount]
  have hstart : (Pattern.seq (.anchor .textStart) p).run (.atStart line) =
      distinct (p.run (.atStart line)) := by
    simp [run, meets, atStart]
  have hend (u : Thread) : ((Pattern.anchor .textEnd).run u).head? = finish u := by
    rw [run, finish, meets]
    split_ifs <;> rfl
  have hhead : ((enclosed p).run (.atStart line)).head? =
      (p.run (.atStart line)).findSome? finish := by
    show (distinct (((Pattern.seq (.anchor .textStart) p).run (.atStart line)).flatMap
      (Pattern.anchor .textEnd).run)).head? = _
    rw [head?_distinct, List.head?_flatMap, hstart]
    simp only [hend]
    exact findSome?_distinct decides_finish fun u hu => follows_of_mem_run hu
  rw [captures?, searchFrom_eq_matchFrom, matchFrom_enclosed, hhead, hcount, Option.map_map,
    Option.map_map]
  rfl

/-! ### What patterns take -/

/-- Where `taken ++ s` is ahead and what comes after the patterns accepts texts of a kind, among
them `s`, backtracking leads through the patterns to `s` and captures `new` on the way. -/
def Takes (ps : List Pattern) (kind : Text → Prop) (taken s : Text) (new : List (Nat × Text)) :
    Prop :=
  kind s → ∀ f, Decides f kind → ∀ t : Thread, t.rest = taken ++ s → ∃ u : Thread, u.rest = s ∧
    u.offset = t.offset + taken.length ∧ u.captures = new ++ t.captures ∧ backtrack f ps t = f u

variable {set : CharSet} {a b s taken : Text} {new new' : List (Nat × Text)} {c : Char}

lemma Takes.before (h : Takes ps kind taken s new) (hps : ∀ p ∈ ps, p.isPlain = true)
    (hs : kind s) : Before ps kind (taken ++ s) := by
  classical
  let f (t : Thread) : Option Thread := if kind t.rest then some t else none
  have hf : Decides f kind := by
    intro t
    by_cases ht : kind t.rest <;> simp [f, ht]
  obtain ⟨u, hu, -, -, hfound⟩ := h hs f hf (.atStart (taken ++ s)) rfl
  refine (hf.backtrack hps (.atStart (taken ++ s))).mp ?_
  rw [hfound, hf u, hu]
  exact hs

lemma Takes.append (h : Takes ps (Before qs kind) a (b ++ s) new) (h' : Takes qs kind b s new')
    (hqs : ∀ q ∈ qs, q.isPlain = true) : Takes (ps ++ qs) kind (a ++ b) s (new' ++ new) := by
  intro hs f hf t ht
  rw [List.append_assoc] at ht
  obtain ⟨v, hv, hoffset, hcaptures, hfirst⟩ :=
    h (h'.before hqs hs) (backtrack f qs) (hf.backtrack hqs) t ht
  obtain ⟨u, hu, hoffset', hcaptures', hsecond⟩ := h' hs f hf v hv
  refine ⟨u, hu, ?_, ?_, ?_⟩
  · rw [hoffset', hoffset, List.length_append, Nat.add_assoc]
  · rw [hcaptures', hcaptures, List.append_assoc]
  · rw [backtrack_append, hfirst, hsecond]

lemma takes_nil : Takes [] kind [] s [] := fun _ _ _ t ht => ⟨t, ht, rfl, rfl, rfl⟩

lemma takes_one (hc : set.contains c = true) : Takes [one set] kind [c] s [] := by
  rintro - f - ⟨offset, previous, rest, captures⟩ ht
  cases ht
  refine ⟨⟨offset + 1, some c, s, captures⟩, rfl, rfl, rfl, ?_⟩
  simp [backtrack, run, step, hc]

lemma isPlain_word (w : Text) : ∀ p ∈ word w, p.isPlain = true := by
  intro p hp
  obtain ⟨c, -, rfl⟩ := List.mem_map.mp hp
  rfl

lemma takes_word {w : Text} (hw : w.IsSmall) : Takes (word w) kind w s [] := by
  induction w generalizing kind s with
  | nil => exact takes_nil
  | cons c w ih =>
    obtain ⟨hc, hw⟩ := List.forall_mem_cons.mp hw
    have hletter : (CharSet.anyCase (.single c)).contains c = true :=
      CharSet.contains_of_sameLetter hc (beq_self_eq_true _)
    exact (takes_one hletter).append (a := [c]) (b := w) (ih hw) (isPlain_word w)

lemma Takes.group {index : Nat} (h : Takes [p] kind taken s new) :
    Takes [.group index p] kind taken s ((index, taken) :: new) := by
  intro hs f hf t ht
  obtain ⟨u, hu, hoffset, hcaptures, hfound⟩ :=
    h hs (f ∘ capture index t) (fun v => hf (capture index t v)) t ht
  refine ⟨capture index t u, hu, hoffset, ?_, ?_⟩
  · have htaken : t.rest.take (u.offset - t.offset) = taken := by
      rw [hoffset, Nat.add_sub_cancel_left, ht, List.take_left]
    rw [capture, htaken, hcaptures]
    rfl
  · rw [backtrack, run, List.findSome?_map]
    exact hfound

/-! ### Parts that may be left out -/

lemma findSome?_orStop_greedy (f : Thread → Option Thread) (us : List Thread) (t : Thread) :
    (orStop true us t).findSome? f = (us.findSome? f).or (f t) := by
  rw [orStop, if_pos rfl, List.findSome?_append, List.findSome?_singleton]

lemma findSome?_orStop_lazy (f : Thread → Option Thread) (us : List Thread) (t : Thread) :
    (orStop false us t).findSome? f = (f t).or (us.findSome? f) := by
  rw [orStop, if_neg Bool.false_ne_true, List.findSome?_cons]
  cases f t <;> rfl

lemma backtrack_optional (hf : Decides f kind) (hqs : ∀ q ∈ qs, q.isPlain = true) (t : Thread) :
    backtrack f [upTo 1 true (inTurn qs)] t = (backtrack f qs t).or (f t) := by
  show (distinct (atMost (inTurn qs).run true 1 [] t).1).findSome? f = _
  rw [atMost_one, findSome?_distinct hf fun u hu => follows_of_mem_orStop hu,
    findSome?_orStop_greedy, findSome?_run_inTurn hf hqs]

lemma Takes.optional (h : Takes qs kind taken s new) (hqs : ∀ q ∈ qs, q.isPlain = true) :
    Takes [upTo 1 true (inTurn qs)] kind taken s new := by
  intro hs f hf t ht
  obtain ⟨u, hu, hoffset, hcaptures, hfound⟩ := h hs f hf t ht
  obtain ⟨x, hx⟩ := Option.isSome_iff_exists.mp ((hf u).mpr (hu ▸ hs))
  refine ⟨u, hu, hoffset, hcaptures, ?_⟩
  rw [backtrack_optional hf hqs, hfound, hx, Option.some_or]

lemma takes_optional_nil (hqs : ∀ q ∈ qs, q.isPlain = true) (h : ¬Before qs kind s) :
    Takes [upTo 1 true (inTurn qs)] kind [] s [] := by
  intro _ f hf t ht
  have hrest : t.rest = s := ht
  have hnone : backtrack f qs t = none :=
    (hf.backtrack hqs).eq_none fun hbefore => h (hrest ▸ hbefore)
  refine ⟨t, ht, rfl, rfl, ?_⟩
  rw [backtrack_optional hf hqs, hnone, Option.none_or]

/-! ### Repetitions of single characters -/

lemma onceOrMore_one_of_stop {greedy : Bool} {fuel : Nat} {seen : List Nat}
    (h : ∀ c ∈ t.rest.head?, set.contains c = false) :
    (onceOrMore (one set).run greedy fuel seen t).1 = [] := by
  have hround : (one set).run t = [] := by
    obtain ⟨offset, previous, rest, captures⟩ := t
    cases rest with
    | nil => rfl
    | cons c rest => simp [run, step, h c rfl]
  cases fuel with
  | zero => rfl
  | succ fuel => rw [onceOrMore, hround, List.foldl_nil]

/-- A greedy repetition goes on as far as it can, and a lazy one until what follows can be
completed. -/
lemma findSome?_onceOrMore_one (hf : Decides f kind) (hs : kind s) {greedy : Bool}
    (hgreedy : greedy = true → ∀ c ∈ s.head?, set.contains c = false)
    (hlazy : greedy = false → ∀ a b, taken = a ++ b → a ≠ [] → b ≠ [] → ¬kind (b ++ s))
    (hne : taken ≠ []) (hset : ∀ c ∈ taken, set.contains c = true) {fuel : Nat}
    (hfuel : taken.length ≤ fuel) {seen : List Nat} (hseen : ∀ i ∈ seen, i ≤ t.offset)
    (hrest : t.rest = taken ++ s) :
    ∃ u : Thread, u.rest = s ∧ u.offset = t.offset + taken.length ∧ u.captures = t.captures ∧
      (onceOrMore (one set).run greedy fuel seen t).1.findSome? f = f u := by
  induction taken generalizing fuel seen t with
  | nil => exact absurd rfl hne
  | cons c taken ih =>
    obtain ⟨hc, hset⟩ := List.forall_mem_cons.mp hset
    obtain ⟨fuel, rfl⟩ := Nat.exists_eq_add_of_le' (Nat.le_trans (by simp) hfuel : 1 ≤ fuel)
    let next : Thread := ⟨t.offset + 1, some c, taken ++ s, t.captures⟩
    have hways : (onceOrMore (one set).run greedy (fuel + 1) seen t).1 =
        orStop greedy (onceOrMore (one set).run greedy fuel (next.offset :: seen) next).1 next :=
      onceOrMore_one_cons hc hrest hseen
    cases taken with
    | nil =>
      refine ⟨next, rfl, rfl, rfl, ?_⟩
      cases greedy with
      | true =>
        rw [hways, onceOrMore_one_of_stop (hgreedy rfl), findSome?_orStop_greedy,
          List.findSome?_nil, Option.none_or]
      | false =>
        obtain ⟨x, hx⟩ := Option.isSome_iff_exists.mp ((hf next).mpr hs)
        rw [hways, findSome?_orStop_lazy, hx, Option.some_or]
    | cons d taken =>
      have hlater : ∀ i ∈ next.offset :: seen, i ≤ next.offset := by
        refine List.forall_mem_cons.mpr ⟨Nat.le_refl _, fun i hi => ?_⟩
        exact Nat.le_succ_of_le (hseen i hi)
      have hlazy' (h : greedy = false) (a b : Text) (htaken : d :: taken = a ++ b) (_ : a ≠ []) :
          b ≠ [] → ¬kind (b ++ s) :=
        hlazy h (c :: a) b (congrArg (c :: ·) htaken) (List.cons_ne_nil c a)
      obtain ⟨u, hu, hoffset, hcaptures, hfound⟩ := ih hlazy' (List.cons_ne_nil d taken) hset
        (Nat.le_of_succ_le_succ hfuel) hlater (t := next) rfl
      refine ⟨u, hu, ?_, hcaptures, ?_⟩
      · rw [hoffset, List.length_cons (a := c)]
        show t.offset + 1 + _ = _
        omega
      · cases greedy with
        | true =>
          obtain ⟨x, hx⟩ := Option.isSome_iff_exists.mp ((hf u).mpr (hu ▸ hs))
          rw [hways, findSome?_orStop_greedy, hfound, hx, Option.some_or]
        | false =>
          have hnone : f next = none := hf.eq_none
            (hlazy rfl [c] (d :: taken) rfl (List.cons_ne_nil c []) (List.cons_ne_nil d taken))
          rw [hways, findSome?_orStop_lazy, hnone, Option.none_or]
          exact hfound

lemma takes_plus {greedy : Bool}
    (hgreedy : greedy = true → ∀ c ∈ s.head?, set.contains c = false)
    (hlazy : greedy = false → ∀ a b, taken = a ++ b → a ≠ [] → b ≠ [] → ¬kind (b ++ s))
    (hne : taken ≠ []) (hset : ∀ c ∈ taken, set.contains c = true) :
    Takes [plus greedy (one set)] kind taken s [] := by
  intro hs f hf t ht
  have hfuel : taken.length ≤ t.rest.length + 1 := by
    rw [ht, List.length_append]
    omega
  exact findSome?_onceOrMore_one hf hs hgreedy hlazy hne hset hfuel
    (fun i hi => absurd hi List.not_mem_nil) ht

lemma takes_greedy (hne : taken ≠ []) (hset : ∀ c ∈ taken, set.contains c = true)
    (hstop : ∀ c ∈ s.head?, set.contains c = false) :
    Takes [plus true (one set)] kind taken s [] :=
  takes_plus (fun _ => hstop) (fun h => Bool.noConfusion h) hne hset

/-- A lazy repetition takes a text if what follows cannot be completed after less of it. -/
lemma takes_lazy (hne : taken ≠ []) (hset : ∀ c ∈ taken, set.contains c = true)
    (hsooner : ∀ a b, taken = a ++ b → a ≠ [] → b ≠ [] → ¬kind (b ++ s)) :
    Takes [plus false (one set)] kind taken s [] :=
  takes_plus (fun h => Bool.noConfusion h) (fun _ => hsooner) hne hset

lemma before_end_iff {t : Text} : Before ps (· = []) t ↔ SpellsAll ps t := by
  constructor
  · rintro ⟨a, _, rfl, ha, rfl⟩
    rwa [List.append_nil]
  · exact fun h => ⟨t, [], (List.append_nil t).symm, h, rfl⟩

lemma captures?_eq_none {line : Text} (hps : ∀ p ∈ ps, p.isPlain = true)
    (h : ¬SpellsAll ps line) : (enclosed (inTurn ps)).captures? line = none := by
  have hnone : backtrack finish ps (.atStart line) = none :=
    (decides_finish.backtrack hps).eq_none (mt before_end_iff.mp h)
  rw [captures?_enclosed, findSome?_run_inTurn decides_finish hps, hnone, Option.map_none]

/-- Patterns that take a whole line capture in it what they capture on the way. -/
lemma captures?_of_takes {line : Text} (h : Takes ps (· = []) line [] new)
    (hps : ∀ p ∈ ps, p.isPlain = true) : (enclosed (inTurn ps)).captures? line =
      some ((List.range (inTurn ps).groupCount).map fun i => (new.lookup (i + 1)).getD []) := by
  obtain ⟨u, hu, -, hcaptures, hfound⟩ :=
    h rfl finish decides_finish (.atStart line) (List.append_nil line).symm
  have hend : finish u = some u := by rw [finish, hu]; rfl
  have hcaptures : u.captures = new := hcaptures.trans (List.append_nil new)
  rw [captures?_enclosed, findSome?_run_inTurn decides_finish hps, hfound, hend, Option.map_some]
  simp only [captured, hcaptures]

end Pseudocode.Pattern
