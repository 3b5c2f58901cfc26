import Pseudocode.Proofs.BracketText

/-!
# Patterns in a group

A pattern is read inside a group as it is read alone: the group around it lies at the bottom of the
stack, where only the parenthesis that closes it can reach. A text that leaves the stack below its
own groups is no pattern when it is read alone.
-/

namespace Pseudocode.Pattern
namespace Reading

/-- The reading inside one more group around everything. -/
def within (r : Reading) (g : Group) : Reading := { r with outer := r.outer ++ [g] }

/-- The number of each open group and the flags outside it, the innermost first. -/
def shape (r : Reading) : List (Option Nat × Flags) :=
  (r.group :: r.outer).map fun g => (g.index, g.outer)

lemma shape_ne_nil (r : Reading) : r.shape ≠ [] := List.cons_ne_nil _ _

variable {r r' : Reading} {rest rest' : Text}

lemma repeat?_within {least : Nat} {most : Option Nat} {greedy : Bool}
    (h : r.repeat? least most greedy = some r') (g : Group) :
    (r.within g).repeat? least most greedy = some (r'.within g) := by
  unfold repeat? at h ⊢
  split at h
  · rename_i hitems
    cases h
    simp only [within, hitems]
  · cases h

lemma shape_of_repeat? {least : Nat} {most : Option Nat} {greedy : Bool}
    (h : r.repeat? least most greedy = some r') : r'.shape = r.shape := by
  unfold repeat? at h
  split at h
  · cases h
    rfl
  · cases h

lemma repeatWith?_of_head?_ne {t : Text} (ht : t.head? ≠ some '?') (r : Reading) (least : Nat)
    (most : Option Nat) :
    r.repeatWith? least most t = (r.repeat? least most true).map (·, t) := by
  unfold repeatWith?
  split
  · exact absurd rfl ht
  · rfl

lemma repeatWith?_within {least : Nat} {most : Option Nat} {t : Text}
    (h : r.repeatWith? least most t = some (r', rest')) (g : Group) :
    (r.within g).repeatWith? least most (t ++ closing) = some (r'.within g, rest' ++ closing) := by
  by_cases ht : t.head? = some '?'
  · obtain ⟨t, rfl⟩ : ∃ t', t = '?' :: t' := by
      cases t <;> simp_all
    obtain ⟨r'', hrepeat, h⟩ := Option.map_eq_some_iff.mp h
    cases h
    exact Option.map_eq_some_iff.mpr ⟨_, repeat?_within hrepeat g, rfl⟩
  · have ht' : (t ++ closing).head? ≠ some '?' := by
      cases t with
      | nil => decide
      | cons c t => exact ht
    rw [repeatWith?_of_head?_ne ht] at h
    rw [repeatWith?_of_head?_ne ht']
    obtain ⟨r'', hrepeat, h⟩ := Option.map_eq_some_iff.mp h
    cases h
    exact Option.map_eq_some_iff.mpr ⟨_, repeat?_within hrepeat g, rfl⟩

lemma shape_of_repeatWith? {least : Nat} {most : Option Nat} {t : Text}
    (h : r.repeatWith? least most t = some (r', rest')) : r'.shape = r.shape := by
  unfold repeatWith? at h
  split at h <;>
  · obtain ⟨r'', hrepeat, h⟩ := Option.map_eq_some_iff.mp h
    cases h
    exact shape_of_repeat? hrepeat

lemma leave?_within (h : r.leave? = some r') (g : Group) :
    (r.within g).leave? = some (r'.within g) := by
  unfold leave? at h ⊢
  split at h
  · cases h
  · rename_i houter
    cases h
    simp only [within, houter]
    rfl

lemma shape_of_leave? (h : r.leave? = some r') : ∃ closed, r.shape = closed :: r'.shape := by
  unfold leave? at h
  split at h
  · cases h
  · rename_i parent outer houter
    cases h
    exact ⟨_, by simp only [shape, houter]; rfl⟩

lemma escape?_within {t : Text} (h : r.escape? t = some (r', rest')) (g : Group) :
    (r.within g).escape? (t ++ closing) = some (r'.within g, rest' ++ closing) := by
  unfold escape? at h ⊢
  obtain ⟨⟨e, left⟩, hread, h⟩ := Option.bind_eq_some_iff.mp h
  refine Option.bind_eq_some_iff.mpr ⟨(e, left ++ closing), Escape.read?_append hread, ?_⟩
  cases e <;> cases h <;> rfl

lemma shape_of_escape? {t : Text} (h : r.escape? t = some (r', rest')) : r'.shape = r.shape := by
  unfold escape? at h
  obtain ⟨⟨e, left⟩, -, h⟩ := Option.bind_eq_some_iff.mp h
  cases e <;> cases h <;> rfl

/-- Reads the name of a capturing group and opens it. -/
def openNamed? (r : Reading) (t : Text) : Option (Reading × Text) :=
  (groupName? t).bind fun (name, rest) =>
    if r.names.contains name then none
    else some ({ r.enterCapture with names := name :: r.names }, rest)

/-- Reads flags, for a group or up to the end of the innermost one. -/
def openFlags? (r : Reading) (t : Text) : Option (Reading × Text) :=
  (r.flags.read? false false [] t).bind fun (flags, colon, any, rest) =>
    if colon then some (r.enter none flags, rest)
    else if any then some ({ r with flags }.push ⟨none, 0⟩, rest)
    else none

lemma open?_eq (r : Reading) (t : Text) :
    r.open? t =
      match t with
      | '?' :: 'P' :: '<' :: rest => r.openNamed? rest
      | '?' :: '<' :: rest => r.openNamed? rest
      | '?' :: rest => r.openFlags? rest
      | t => some (r.enterCapture, t) := rfl

lemma openNamed?_within {t : Text} (h : r.openNamed? t = some (r', rest')) (g : Group) :
    (r.within g).openNamed? (t ++ closing) = some (r'.within g, rest' ++ closing) := by
  obtain ⟨⟨name, left⟩, hname, h⟩ := Option.bind_eq_some_iff.mp h
  refine Option.bind_eq_some_iff.mpr ⟨_, groupName?_append hname closing, ?_⟩
  simp only at h
  split_ifs at h with hnew
  cases h
  exact if_neg hnew

lemma openFlags?_within {t : Text} (h : r.openFlags? t = some (r', rest')) (g : Group) :
    (r.within g).openFlags? (t ++ closing) = some (r'.within g, rest' ++ closing) := by
  obtain ⟨⟨flags, colon, any, left⟩, hflags, h⟩ := Option.bind_eq_some_iff.mp h
  refine Option.bind_eq_some_iff.mpr ⟨_, Flags.read?_append hflags closing, ?_⟩
  cases colon <;> cases any <;> cases h <;> rfl

/-- Text without a parenthesis that begins what goes on begins what was there. -/
lemma isPrefix_of_append_closing {p t : Text} (h : p <+: t ++ closing) (hp : ')' ∉ p) :
    p <+: t := by
  rcases Nat.le_total p.length t.length with hle | hle
  · exact List.prefix_of_prefix_length_le h (List.prefix_append t closing) hle
  · obtain ⟨q, rfl⟩ := List.prefix_of_prefix_length_le (List.prefix_append t closing) h hle
    rw [List.prefix_append_right_inj] at h
    cases q with
    | nil => simp
    | cons c q =>
      have hc : c = ')' := (List.cons_prefix_cons.mp h).1
      exact absurd (hc ▸ by simp) hp

lemma open?_eq_openFlags? {t : Text} (hnamed : ¬"P<".toList <+: t) (hnamed' : ¬"<".toList <+: t)
    (r : Reading) : r.open? ('?' :: t) = r.openFlags? t := by
  rw [open?_eq]
  split <;> simp_all

lemma open?_eq_enterCapture {t : Text} (h : ¬"?".toList <+: t) (r : Reading) :
    r.open? t = some (r.enterCapture, t) := by
  rw [open?_eq]
  split <;> simp_all

lemma open?_within {t : Text} (h : r.open? t = some (r', rest')) (g : Group) :
    (r.within g).open? (t ++ closing) = some (r'.within g, rest' ++ closing) := by
  have hmore {p t : Text} (hp : ¬p <+: t) (hplain : ')' ∉ p) : ¬p <+: t ++ closing :=
    fun h => hp (isPrefix_of_append_closing h hplain)
  by_cases hsign : "?".toList <+: t
  · obtain ⟨t, rfl⟩ := hsign
    by_cases hnamed : "P<".toList <+: t
    · obtain ⟨t, rfl⟩ := hnamed
      exact openNamed?_within h g
    · by_cases hnamed' : "<".toList <+: t
      · obtain ⟨t, rfl⟩ := hnamed'
        exact openNamed?_within h g
      · have h : r.openFlags? t = some (r', rest') := by
          rw [← open?_eq_openFlags? hnamed hnamed']
          exact h
        have hflags := openFlags?_within h g
        rw [← open?_eq_openFlags? (hmore hnamed (by decide)) (hmore hnamed' (by decide))] at hflags
        exact hflags
  · rw [open?_eq_enterCapture hsign] at h
    cases h
    exact open?_eq_enterCapture (hmore hsign (by decide)) (r.within g)

lemma shape_of_open? {t : Text} (h : r.open? t = some (r', rest')) :
    r'.shape = r.shape ∨ ∃ opened, r'.shape = opened :: r.shape := by
  have hnamed {t : Text} (h : r.openNamed? t = some (r', rest')) :
      ∃ opened, r'.shape = opened :: r.shape := by
    obtain ⟨⟨name, left⟩, -, h⟩ := Option.bind_eq_some_iff.mp h
    simp only at h
    split_ifs at h
    cases h
    exact ⟨_, rfl⟩
  rw [open?_eq] at h
  split at h
  · exact .inr (hnamed h)
  · exact .inr (hnamed h)
  · obtain ⟨⟨flags, colon, any, left⟩, -, h⟩ := Option.bind_eq_some_iff.mp h
    cases colon <;> cases any <;> cases h
    · exact .inl rfl
    · exact .inr ⟨_, rfl⟩
    · exact .inr ⟨_, rfl⟩
  · cases h
    exact .inr ⟨_, rfl⟩

theorem step?_within {c : Char} (h : r.step? c rest = some (r', rest'))
    (hend : rest' = [] → r'.outer = []) (g : Group) :
    (r.within g).step? c (rest ++ closing) = some (r'.within g, rest' ++ closing) := by
  unfold step? at h ⊢
  split at h
  · -- a parenthesis that opens nothing before the end of the text leaves a group open there
    have hskip : r.flags.skip rest ≠ [] := by
      intro hnil
      rw [hnil] at h
      cases h
      exact List.cons_ne_nil _ _ (hend rfl)
    have hopen := open?_within h g
    rw [← Flags.skip_append hskip] at hopen
    exact hopen
  · obtain ⟨r'', hleave, h⟩ := Option.map_eq_some_iff.mp h
    cases h
    exact Option.map_eq_some_iff.mpr ⟨_, leave?_within hleave g, rfl⟩
  · cases h
    rfl
  · obtain ⟨⟨s, left⟩, hbracket, h⟩ := Option.map_eq_some_iff.mp h
    cases h
    exact Option.map_eq_some_iff.mpr ⟨_, bracket?_append hbracket, rfl⟩
  · exact repeatWith?_within h g
  · exact repeatWith?_within h g
  · exact repeatWith?_within h g
  · obtain ⟨⟨least, most, left⟩, hcount, h⟩ := Option.bind_eq_some_iff.mp h
    exact Option.bind_eq_some_iff.mpr ⟨_, count?_append hcount closing, repeatWith?_within h g⟩
  · obtain ⟨s, hdot, h⟩ := Option.map_eq_some_iff.mp h
    cases h
    exact Option.map_eq_some_iff.mpr ⟨_, hdot, rfl⟩
  · cases h
    rfl
  · cases h
    rfl
  · exact escape?_within h g
  · cases h
    rfl

lemma shape_of_step? {c : Char} (h : r.step? c rest = some (r', rest')) :
    r'.shape = r.shape ∨ (∃ opened, r'.shape = opened :: r.shape) ∨
      ∃ closed, r.shape = closed :: r'.shape := by
  unfold step? at h
  split at h
  · exact (shape_of_open? h).imp_right .inl
  · obtain ⟨r'', hleave, h⟩ := Option.map_eq_some_iff.mp h
    cases h
    exact .inr (.inr (shape_of_leave? hleave))
  · cases h
    exact .inl rfl
  · obtain ⟨⟨s, left⟩, -, h⟩ := Option.map_eq_some_iff.mp h
    cases h
    exact .inl rfl
  · exact .inl (shape_of_repeatWith? h)
  · exact .inl (shape_of_repeatWith? h)
  · exact .inl (shape_of_repeatWith? h)
  · obtain ⟨⟨least, most, left⟩, -, h⟩ := Option.bind_eq_some_iff.mp h
    exact .inl (shape_of_repeatWith? h)
  · obtain ⟨s, -, h⟩ := Option.map_eq_some_iff.mp h
    cases h
    exact .inl rfl
  · cases h
    exact .inl rfl
  · cases h
    exact .inl rfl
  · exact .inl (shape_of_escape? h)
  · cases h
    exact .inl rfl

/-- The outermost group captures nothing and was opened under the standard flags. -/
def Rooted (r : Reading) : Prop := r.shape.getLast? = some (none, .standard)

lemma Rooted.step? {c : Char} (h : r.Rooted) (hstep : r.step? c rest = some (r', rest')) :
    r'.Rooted := by
  have hroot {entry : Option Nat × Flags} {shape : List (Option Nat × Flags)} (hne : shape ≠ []) :
      (entry :: shape).getLast? = shape.getLast? := by
    obtain ⟨entry', shape, rfl⟩ := List.exists_cons_of_ne_nil hne
    exact List.getLast?_cons_cons
  unfold Rooted at h ⊢
  rcases shape_of_step? hstep with hshape | ⟨opened, hshape⟩ | ⟨closed, hshape⟩
  · rw [hshape, h]
  · rw [hshape, hroot r.shape_ne_nil, h]
  · rwa [hshape, hroot r'.shape_ne_nil] at h

/-- The group with `content` in a group of its own and the end of the text after it. -/
def closeWith (g : Group) (content : Item) : Item :=
  let inner : Item := ⟨some (content.pattern.getD empty), content.depth + 1⟩
  Group.content { g with items := ⟨some (anchor .textEnd), 0⟩ :: inner :: g.items }

lemma readAll?_closing {t : Text} (hskip : r.flags.skip t = closing) (hr : r.Rooted)
    (houter : r.outer = []) (fuel : Nat) (g : Group) :
    readAll? (fuel + 3) (r.within g) t = some (closeWith g r.group.content) := by
  obtain ⟨flags, ⟨index, before, branches, items⟩, outer, count, names⟩ := r
  cases houter
  cases hr
  unfold readAll?
  simp only [within, hskip]
  rfl

lemma outer_eq_nil_of_readAll? {fuel : Nat} {t : Text} {content : Item}
    (h : readAll? fuel r t = some content) (hskip : r.flags.skip t = []) :
    r.outer = [] ∧ content = r.group.content := by
  cases fuel with
  | zero => cases h
  | succ fuel =>
    unfold readAll? at h
    simp only [hskip] at h
    split_ifs at h with houter
    exact ⟨List.isEmpty_iff.mp houter, (Option.some.inj h).symm⟩

/-- Inside a group what is read to the end alone is read up to the end of the group, unless a
comment takes that end in. -/
theorem readAll?_within {fuel fuel' : Nat} {t : Text} {content : Item}
    (h : readAll? fuel r t = some content) (hr : r.Rooted) (hfuel : fuel + 2 ≤ fuel') (g : Group) :
    readAll? fuel' (r.within g) (t ++ closing) = none ∨
      readAll? fuel' (r.within g) (t ++ closing) = some (closeWith g content) := by
  -- both readings take the same steps; the one inside has the group at the bottom of its stack
  induction fuel generalizing fuel' r t with
  | zero => cases h
  | succ fuel ih =>
    obtain ⟨fuel', rfl⟩ := Nat.exists_eq_add_of_le' (by omega : 3 ≤ fuel')
    cases hskip : r.flags.skip t with
    | nil =>
      -- alone this is the end of the text; inside, the signs that close the group are left
      obtain ⟨houter, rfl⟩ := outer_eq_nil_of_readAll? h hskip
      rcases Flags.skip_closing hskip with hclosing | hcomment
      · exact .inr (readAll?_closing hclosing hr houter fuel' g)
      · left
        unfold readAll?
        simp only [within, hcomment, houter]
        rfl
    | cons c rest =>
      have hskip' := Flags.skip_append (hskip ▸ List.cons_ne_nil c rest) closing
      rw [hskip, List.cons_append] at hskip'
      unfold readAll? at h ⊢
      rw [hskip] at h
      simp only [show (r.within g).flags = r.flags from rfl, hskip'] at h ⊢
      cases hstep : r.step? c rest with
      | none => simp [hstep] at h
      | some read =>
        obtain ⟨r', rest'⟩ := read
        simp only [hstep] at h
        have hend : rest' = [] → r'.outer = [] := by
          rintro rfl
          exact (outer_eq_nil_of_readAll? h r'.flags.skip_nil).1
        rw [step?_within hstep hend g]
        exact ih h (hr.step? hstep) (by omega)

end Reading

/-- The group outside the one that a pattern for whole lines is put in. -/
def lineStart : Group := ⟨none, .standard, [], [⟨some (anchor .textStart), 0⟩]⟩

lemma readAll?_wholeLine (written : Text) (fuel : Nat) :
    Reading.readAll? (fuel + 2) (.begin .standard) (Rule.wholeLine written) =
      Reading.readAll? fuel (Reading.within (.begin .standard) lineStart) (written ++ closing) := by
  simp only [Rule.wholeLine, List.append_assoc]
  rfl

/-- A text that is a pattern by itself keeps its meaning between the ends of the line. -/
theorem read?_wholeLine {written : Text} {p q : Pattern}
    (hp : read? (Rule.wholeLine written) = some p) (hq : read? written = some q) :
    p = .seq (.seq (.anchor .textStart) q) (.anchor .textEnd) := by
  obtain ⟨content, hcontent, hq⟩ := Option.bind_eq_some_iff.mp hq
  obtain ⟨q', hpattern, hq⟩ := Option.bind_eq_some_iff.mp hq
  obtain ⟨whole, hwhole, hp⟩ := Option.bind_eq_some_iff.mp hp
  obtain ⟨p', hpattern', hp⟩ := Option.bind_eq_some_iff.mp hp
  split_ifs at hq hp
  cases hq
  cases hp
  have hlength : (Rule.wholeLine written).length + 1 = written.length + 5 + 2 := by
    simp [Rule.wholeLine]
  rw [hlength, readAll?_wholeLine] at hwhole
  have hfuel : written.length + 1 + 2 ≤ written.length + 5 := by omega
  rcases Reading.readAll?_within hcontent rfl hfuel lineStart with hnone | hsome
  · rw [hnone] at hwhole
    cases hwhole
  · rw [hsome] at hwhole
    cases hwhole
    rw [Reading.closeWith, hpattern] at hpattern'
    exact (Option.some.inj hpattern').symm

end Pseudocode.Pattern
