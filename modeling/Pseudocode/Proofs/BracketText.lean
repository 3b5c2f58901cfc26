import Pseudocode.Proofs.PatternText

/-!
# Classes whose text goes on

A class in brackets ends with its own bracket, and reading it never looks past that. Only the ends
of its members can run on: a class that has been read to the end is not cut short by what follows.
-/

namespace Pseudocode.Pattern
namespace Bracket

def negation (flags : Flags) (t : Text) : Bool × Text :=
  match flags.skip t with
  | '^' :: rest => (true, rest)
  | t => (false, t)

/-- The members at the start of a bracket that could be taken for signs, and what follows. -/
def leading (flags : Flags) (t : Text) : Text × Text :=
  match hyphens flags false t with
  | ([], ']' :: rest) => ([']'], flags.skip rest)
  | (members, t) => (members, t)

lemma open?_eq (flags : Flags) (t : Text) :
    open? flags t =
      let (negated, t) := negation flags t
      let (members, t) := leading flags t
      if t.isEmpty then none
      else some (⟨negated, none, .ofList members, members.map fun _ => 0⟩, t) := rfl

lemma negation_append {flags : Flags} {t left : Text} {negated : Bool}
    (h : negation flags t = (negated, left)) (hne : left ≠ []) (tail : Text) :
    negation flags (t ++ tail) = (negated, left ++ tail) := by
  unfold negation at h ⊢
  split at h
  · rename_i rest hskip
    obtain ⟨rfl, rfl⟩ := Prod.mk.inj h
    rw [Flags.skip_append (hskip ▸ List.cons_ne_nil _ _), hskip]
    rfl
  · rename_i hcaret
    obtain ⟨rfl, rfl⟩ := Prod.mk.inj h
    rw [Flags.skip_append hne]
    split
    · rename_i rest hskip
      obtain ⟨c, left, hc⟩ := List.exists_cons_of_ne_nil hne
      rw [hc] at hskip
      exact absurd (hc.trans (congrArg (· :: left) (List.cons.inj hskip).1)) (hcaret left)
    · rfl

lemma hyphens_append {flags : Flags} {inComment : Bool} {t members left : Text}
    (h : hyphens flags inComment t = (members, left)) (hne : left ≠ []) (tail : Text) :
    hyphens flags inComment (t ++ tail) = (members, left ++ tail) := by
  induction t generalizing inComment members with
  | nil => exact absurd (Prod.mk.inj h).2.symm hne
  | cons c t ih =>
    rw [List.cons_append]
    unfold hyphens at h ⊢
    cases hskips : flags.skips? inComment c with
    | some inComment =>
      simp only [hskips] at h ⊢
      exact ih h
    | none =>
      simp only [hskips] at h ⊢
      split_ifs at h ⊢ with hhyphen
      · obtain ⟨rfl, rfl⟩ := Prod.mk.inj h
        simp only [ih rfl]
      · obtain ⟨rfl, rfl⟩ := Prod.mk.inj h
        rfl

lemma leading_append {flags : Flags} {t members left : Text}
    (h : leading flags t = (members, left)) (hne : left ≠ []) (tail : Text) :
    leading flags (t ++ tail) = (members, left ++ tail) := by
  unfold leading at h ⊢
  cases hhyphens : hyphens flags false t with
  | mk first rest =>
    have hrest : rest ≠ [] := by
      rintro rfl
      simp only [hhyphens] at h
      exact hne (Prod.mk.inj h).2.symm
    obtain ⟨c, rest, rfl⟩ := List.exists_cons_of_ne_nil hrest
    simp only [hyphens_append hhyphens hrest, List.cons_append]
    simp only [hhyphens] at h
    split at h
    · rename_i hpair
      cases hpair
      obtain ⟨rfl, rfl⟩ := Prod.mk.inj h
      exact congrArg (Prod.mk [']']) (Flags.skip_append hne tail)
    · rename_i hsign _ hpair
      cases hpair
      obtain ⟨rfl, rfl⟩ := Prod.mk.inj h
      split
      · simp_all
      · simp_all

lemma open?_append {flags : Flags} {t rest : Text} {b : Bracket}
    (h : open? flags t = some (b, rest)) (tail : Text) :
    open? flags (t ++ tail) = some (b, rest ++ tail) := by
  rw [open?_eq] at h ⊢
  cases hnegation : negation flags t with
  | mk negated left =>
    cases hleading : leading flags left with
    | mk members left' =>
      simp only [hnegation, hleading] at h
      split_ifs at h with hblank
      obtain ⟨rfl, rfl⟩ := Prod.mk.inj (Option.some.inj h)
      -- each stage has left something for the next
      have hne : left' ≠ [] := fun hnil => hblank (List.isEmpty_iff.mpr hnil)
      have hne' : left ≠ [] := by
        rintro rfl
        exact hne (Prod.mk.inj hleading).2.symm
      simp only [negation_append hnegation hne', leading_append hleading hne]
      rw [if_neg (by simp [hne])]

/-- The text goes on after what has been read. -/
def more {α : Type} (read : α × Text) : α × Text := (read.1, read.2 ++ closing)

def className? (negated : Bool) (t : Text) : Option (CharSet × Text) :=
  match t.span (· != ':') with
  | (name, ':' :: ']' :: rest) =>
    (CharSet.named? name).map fun s => (if negated then .compl s else s, rest)
  | _ => none

lemma className?_append (negated : Bool) (t : Text) :
    className? negated (t ++ closing) = (className? negated t).map more := by
  unfold className?
  cases hspan : t.span (· != ':') with
  | mk name left =>
    cases left with
    | nil =>
      have hdrop : (t ++ closing).dropWhile (· != ':') = [] := by
        rw [List.span_eq_takeWhile_dropWhile] at hspan
        rw [List.dropWhile_append, (Prod.mk.inj hspan).2]
        rfl
      rw [List.span_eq_takeWhile_dropWhile, hdrop]
      rfl
    | cons d left =>
      rw [span_append hspan (List.cons_ne_nil d left)]
      cases left with
      | nil => simp [closing]
      | cons e left =>
        by_cases hend : d = ':' ∧ e = ']'
        · obtain ⟨rfl, rfl⟩ := hend
          simp only [List.cons_append, Option.map_map]
          rfl
        · have hnone (rest : Text) : ¬d :: e :: left = ':' :: ']' :: rest := by
            intro hcons
            obtain ⟨hd, hcons⟩ := List.cons.inj hcons
            exact hend ⟨hd, (List.cons.inj hcons).1⟩
          simp_all

def nameNegation : Text → Bool × Text
  | '^' :: rest => (true, rest)
  | t => (false, t)

lemma nameNegation_append (t : Text) : nameNegation (t ++ closing) = more (nameNegation t) := by
  cases t with
  | nil => rfl
  | cons c rest =>
    by_cases hc : c = '^'
    · subst hc
      rfl
    · have hplain (left : Text) : nameNegation (c :: left) = (false, c :: left) := by
        unfold nameNegation
        split
        · rename_i hcons
          exact absurd (List.cons.inj hcons).1 hc
        · rfl
      rw [List.cons_append, hplain, hplain]
      rfl

lemma named?_append (t : Text) : named? (t ++ closing) = (named? t).map more := by
  cases t with
  | nil => rfl
  | cons c rest =>
    by_cases hc : c = ':'
    · have hcolon (left : Text) : named? (':' :: left) =
          className? (nameNegation left).1 (nameNegation left).2 := rfl
      rw [hc, List.cons_append, hcolon, hcolon, nameNegation_append]
      exact className?_append _ _
    · have hnone (left : Text) : named? (c :: left) = none := by
        unfold named?
        split
        · rename_i hcons
          exact absurd (List.cons.inj hcons).1 hc
        · rfl
      rw [List.cons_append, hnone, hnone]
      rfl

lemma member?_append {flags : Flags} {t rest : Text} {e : Escape}
    (h : member? flags t = some (e, rest)) :
    member? flags (t ++ closing) = some (e, rest ++ closing) := by
  cases t with
  | nil => simp [member?] at h
  | cons c t =>
    by_cases hc : c = '\\'
    · subst hc
      exact Escape.read?_append h
    · have hplain (left : Text) : member? flags (c :: left) = some (.char c, left) := by
        unfold member?
        split
        · simp_all
        · rename_i hcons
          exact absurd (List.cons.inj hcons).1 hc
        · simp_all
      rw [List.cons_append, hplain]
      rw [hplain] at h
      obtain ⟨rfl, rfl⟩ := Prod.mk.inj (Option.some.inj h)
      rfl

/-- Reads what follows the first member of what may be a range. -/
def rangeEnd? (flags : Flags) (low : Escape) (t : Text) : Option (CharSet × Text) :=
  match t with
  | '-' :: rest =>
    match flags.skip rest with
    | [] => none
    | c :: rest =>
      if c = ']' ∨ c = '-' then (single? low).bind fun s => some (s, t)
      else
        (member? flags (c :: rest)).bind fun (high, rest) =>
          match low, high with
          | .char lo, .char hi => if lo ≤ hi then some (.range lo hi, rest) else none
          | _, _ => none
  | _ => (single? low).bind fun s => some (s, t)

lemma range?_eq (flags : Flags) (t : Text) :
    range? flags t =
      (member? flags t).bind fun (low, left) => rangeEnd? flags low (flags.skip left) := rfl

lemma rangeEnd?_of_ne {c : Char} (hc : c ≠ '-') (flags : Flags) (low : Escape) (t : Text) :
    rangeEnd? flags low (c :: t) = (single? low).bind fun s => some (s, c :: t) := by
  unfold rangeEnd?
  split
  · rename_i hcons
    exact absurd (List.cons.inj hcons).1 hc
  · rfl

lemma single?_append {low : Escape} {t rest : Text} {s : CharSet}
    (h : ((single? low).bind fun s => some (s, t)) = some (s, rest)) (tail : Text) :
    ((single? low).bind fun s => some (s, t ++ tail)) = some (s, rest ++ tail) := by
  obtain ⟨s', hs, h⟩ := Option.bind_eq_some_iff.mp h
  cases h
  rw [hs, Option.bind_some]

lemma rangeEnd?_append {flags : Flags} {low : Escape} {t rest : Text} {s : CharSet}
    (h : rangeEnd? flags low t = some (s, rest)) (hne : rest ≠ []) :
    rangeEnd? flags low (t ++ closing) = some (s, rest ++ closing) := by
  cases t with
  | nil =>
    obtain ⟨s', -, h⟩ := Option.bind_eq_some_iff.mp h
    cases h
    exact absurd rfl hne
  | cons d t =>
    by_cases hd : d = '-'
    · subst hd
      rw [List.cons_append]
      unfold rangeEnd? at h ⊢
      simp only at h ⊢
      cases hskip : flags.skip t with
      | nil => simp [hskip] at h
      | cons c left =>
        rw [Flags.skip_append (hskip ▸ List.cons_ne_nil c left), hskip, List.cons_append]
        simp only [hskip] at h ⊢
        split_ifs at h ⊢ with hsign
        · exact single?_append h closing
        · refine bind_append h (fun _ _ hhigh _ => member?_append hhigh)
            fun high left _ hrange => ?_
          cases low <;> cases high <;> simp_all
    · rw [rangeEnd?_of_ne hd] at h
      rw [List.cons_append, rangeEnd?_of_ne hd]
      exact single?_append h closing

lemma range?_append {flags : Flags} {t rest : Text} {s : CharSet}
    (h : range? flags t = some (s, rest)) (hne : rest ≠ []) :
    range? flags (t ++ closing) = some (s, rest ++ closing) := by
  rw [range?_eq] at h ⊢
  refine bind_append h (fun _ _ hlow _ => member?_append hlow) fun low left _ hrest => ?_
  have hskip : flags.skip left ≠ [] := by
    intro hnil
    simp only [hnil] at hrest
    obtain ⟨s', -, hrest⟩ := Option.bind_eq_some_iff.mp hrest
    cases hrest
    exact hne rfl
  simp only [Flags.skip_append hskip]
  exact rangeEnd?_append hrest hne

/-- Reads what follows a member of the bracket. -/
def afterRange? (flags : Flags) (fuel : Nat) (b : Bracket) (outer : List Bracket) (t : Text) :
    Option ((CharSet × Nat) × Text) :=
  (range? flags t).bind fun (s, rest) => read? flags fuel (b.add s 0) outer rest

lemma read?_nil (flags : Flags) (fuel : Nat) (b : Bracket) (outer : List Bracket) :
    read? flags fuel b outer [] = none := by
  cases fuel with
  | zero => rfl
  | succ fuel =>
    unfold read?
    rw [Flags.skip_nil]

lemma read?_eq_afterRange? {flags : Flags} {t : Text} {c : Char} {left : Text}
    (hskip : flags.skip t = c :: left) (hopen : c ≠ '[') (hclose : c ≠ ']')
    (hsign : left.head? = some c → c ∉ ['&', '-', '~']) (fuel : Nat) (b : Bracket)
    (outer : List Bracket) :
    read? flags (fuel + 1) b outer t = afterRange? flags fuel b outer (c :: left) := by
  unfold read? afterRange?
  rw [hskip]
  split <;> simp_all

section Step

variable {flags : Flags} {fuel fuel' : Nat} {s : CharSet × Nat} {rest : Text}
  (hmore : ∀ {b outer left}, read? flags fuel b outer left = some (s, rest) →
    read? flags fuel' b outer (left ++ closing) = some (s, rest ++ closing))
  {b : Bracket} {outer : List Bracket} {c : Char} {t left : Text}
  (h : read? flags (fuel + 1) b outer t = some (s, rest))

include hmore h

lemma read?_append_of_open (hskip : flags.skip t = '[' :: left)
    (hskip' : flags.skip (t ++ closing) = '[' :: (left ++ closing)) :
    read? flags (fuel' + 1) b outer (t ++ closing) = some (s, rest ++ closing) := by
  unfold read? at h ⊢
  simp only [hskip, hskip', named?_append] at h ⊢
  cases hnamed : named? left with
  | some named =>
    simp only [hnamed, Option.map_some] at h ⊢
    exact hmore h
  | none =>
    simp only [hnamed, Option.map_none] at h ⊢
    obtain ⟨⟨inner, left'⟩, hinner, h⟩ := Option.bind_eq_some_iff.mp h
    exact Option.bind_eq_some_iff.mpr ⟨_, open?_append hinner closing, hmore h⟩

lemma read?_append_of_close (hskip : flags.skip t = ']' :: left)
    (hskip' : flags.skip (t ++ closing) = ']' :: (left ++ closing)) :
    read? flags (fuel' + 1) b outer (t ++ closing) = some (s, rest ++ closing) := by
  unfold read? at h ⊢
  simp only [hskip, hskip'] at h ⊢
  obtain ⟨s', hs, h⟩ := Option.bind_eq_some_iff.mp h
  rw [hs]
  cases outer with
  | nil =>
    obtain ⟨rfl, rfl⟩ := Prod.mk.inj (Option.some.inj h)
    rfl
  | cons parent outer => exact hmore h

lemma read?_append_of_sign (hsign : c ∈ ['&', '-', '~']) (hskip : flags.skip t = c :: c :: left)
    (hskip' : flags.skip (t ++ closing) = c :: c :: (left ++ closing)) :
    read? flags (fuel' + 1) b outer (t ++ closing) = some (s, rest ++ closing) := by
  unfold read? at h ⊢
  rw [hskip] at h
  rw [hskip']
  simp only [List.mem_cons, List.not_mem_nil, or_false] at hsign
  rcases hsign with rfl | rfl | rfl <;> exact hmore h

lemma read?_append_of_member (hopen : c ≠ '[') (hclose : c ≠ ']')
    (hsign : left.head? = some c → c ∉ ['&', '-', '~']) (hskip : flags.skip t = c :: left)
    (hskip' : flags.skip (t ++ closing) = c :: (left ++ closing)) :
    read? flags (fuel' + 1) b outer (t ++ closing) = some (s, rest ++ closing) := by
  have hsign' : (left ++ closing).head? = some c → c ∉ ['&', '-', '~'] := by
    cases left with
    | nil =>
      rintro ⟨⟩
      decide
    | cons d left => exact hsign
  rw [read?_eq_afterRange? hskip hopen hclose hsign] at h
  rw [read?_eq_afterRange? hskip' hopen hclose hsign']
  unfold afterRange? at h ⊢
  refine bind_append h (fun s left hrange h => range?_append hrange ?_) fun _ _ _ h => hmore h
  -- a bracket is not closed at the end of the text
  rintro rfl
  simp [read?_nil] at h

end Step

lemma read?_append {flags : Flags} {fuel fuel' : Nat} {b : Bracket} {outer : List Bracket}
    {t rest : Text} {s : CharSet × Nat} (h : read? flags fuel b outer t = some (s, rest))
    (hfuel : fuel ≤ fuel') :
    read? flags fuel' b outer (t ++ closing) = some (s, rest ++ closing) := by
  induction fuel generalizing fuel' b outer t with
  | zero => simp [read?] at h
  | succ fuel ih =>
    obtain ⟨fuel', rfl⟩ := Nat.exists_eq_add_of_le' (Nat.one_le_of_lt hfuel)
    have hmore {b : Bracket} {outer : List Bracket} {left : Text}
        (h : read? flags fuel b outer left = some (s, rest)) :
        read? flags fuel' b outer (left ++ closing) = some (s, rest ++ closing) :=
      ih h (Nat.le_of_succ_le_succ hfuel)
    cases hskip : flags.skip t with
    | nil =>
      unfold read? at h
      simp [hskip] at h
    | cons c left =>
      have hskip' := Flags.skip_append (hskip ▸ List.cons_ne_nil c left) closing
      rw [hskip, List.cons_append] at hskip'
      by_cases hopen : c = '['
      · subst hopen
        exact read?_append_of_open hmore h hskip hskip'
      by_cases hclose : c = ']'
      · subst hclose
        exact read?_append_of_close hmore h hskip hskip'
      by_cases hsign : left.head? = some c ∧ c ∈ ['&', '-', '~']
      · obtain ⟨left, rfl⟩ : ∃ left', left = c :: left' := by
          cases left <;> simp_all
        exact read?_append_of_sign hmore h hsign.2 hskip hskip'
      · exact read?_append_of_member hmore h hopen hclose (not_and.mp hsign) hskip hskip'

end Bracket

lemma bracket?_append {flags : Flags} {t rest : Text} {s : CharSet × Nat}
    (h : bracket? flags t = some (s, rest)) :
    bracket? flags (t ++ closing) = some (s, rest ++ closing) := by
  unfold bracket? at h ⊢
  refine bind_append h (fun _ _ hread _ => Bracket.open?_append hread closing) fun _ _ _ h => ?_
  exact Bracket.read?_append h (by simp)

end Pseudocode.Pattern
