import Pseudocode.Proofs.Fitting

/-!
# Templates cut at their slots

The leftmost slot of a template is found, an argument takes its place, and the same is done with
what follows, until there are no slots. This ends after as many turns as the template has slots.
The template is cut into parts between which the arguments stand as they are: a slot that an
argument brings, or one that it forms with the part next to it, is not filled.
-/

namespace Pseudocode.Template

/-! ### The leftmost slot -/

/-- The slot between `before` and `after` is the leftmost of the template. -/
def FirstSlot (t before after : Text) : Prop :=
  t = before ++ slot ++ after ∧
    ∀ before' after', t = before' ++ slot ++ after' → before.length ≤ before'.length

lemma FirstSlot.unique {t before after before' after' : Text} (h : FirstSlot t before after)
    (h' : FirstSlot t before' after') : before = before' ∧ after = after' := by
  have hlength : before.length = before'.length :=
    Nat.le_antisymm (h.2 _ _ h'.1) (h'.2 _ _ h.1)
  have hsplit := h.1.symm.trans h'.1
  rw [List.append_assoc, List.append_assoc] at hsplit
  obtain ⟨hbefore, hrest⟩ := List.append_inj hsplit hlength
  exact ⟨hbefore, List.append_cancel_left hrest⟩

lemma FirstSlot.isInfix {t before after : Text} (h : FirstSlot t before after) : slot <:+: t :=
  ⟨before, after, h.1.symm⟩

lemma FirstSlot.cons {c : Char} {rest before after : Text} (h : FirstSlot rest before after)
    (hc : ∀ rest', c = '%' → rest = 's' :: rest' → False) :
    FirstSlot (c :: rest) (c :: before) after := by
  refine ⟨congrArg (c :: ·) h.1, fun before' after' hsplit => ?_⟩
  cases before' with
  | nil =>
    cases hsplit
    exact absurd rfl (hc after' rfl)
  | cons d before' =>
    cases hsplit
    exact Nat.succ_le_succ (h.2 before' after' rfl)

/-- What a template is at its leftmost slot, if it has one, and what it is if it has none. -/
inductive Opening (t : Text) : Prop
  | none (hslot : ¬slot <:+: t) (hcount : slotCount t = 0) (hpieces : pieces t = [t])
  | slot (before after : Text) (hfirst : FirstSlot t before after)
      (hcount : slotCount t = slotCount after + 1) (hpieces : pieces t = before :: pieces after)

lemma opening (t : Text) : Opening t := by
  fun_induction slotCount t with
  | case1 => exact .none (by decide) rfl rfl
  | case2 rest ih =>
    exact .slot [] rest ⟨rfl, fun _ _ _ => Nat.zero_le _⟩ rfl rfl
  | case3 c rest h ih =>
    have hcount : slotCount (c :: rest) = slotCount rest := slotCount.eq_3 c rest h
    cases ih with
    | none hslot hzero hpieces =>
      refine .none ?_ (hcount.trans hzero) (by rw [pieces.eq_3 c rest h, hpieces])
      rw [List.infix_cons_iff]
      rintro (⟨rest', hrest'⟩ | hinfix)
      · cases hrest'
        exact h rest' rfl rfl
      · exact hslot hinfix
    | slot before after hfirst hafter hpieces =>
      exact .slot (c :: before) after (hfirst.cons h) (hcount.trans hafter)
        (by rw [pieces.eq_3 c rest h, hpieces])

variable {t before after : Text} {parts : List Text}

lemma slotCount_eq_zero_iff : slotCount t = 0 ↔ ¬slot <:+: t := by
  cases opening t with
  | none hslot hcount _ => exact iff_of_true hcount hslot
  | slot before after hfirst hcount _ =>
    exact iff_of_false (hcount ▸ Nat.succ_ne_zero _) fun h => h hfirst.isInfix

namespace FirstSlot

lemma slotCount_eq (h : FirstSlot t before after) : slotCount t = slotCount after + 1 := by
  cases opening t with
  | none hslot _ _ => exact absurd h.isInfix hslot
  | slot before' after' hfirst hcount _ => rw [hcount, (h.unique hfirst).2]

lemma pieces_eq (h : FirstSlot t before after) : pieces t = before :: pieces after := by
  cases opening t with
  | none hslot _ _ => exact absurd h.isInfix hslot
  | slot before' after' hfirst _ hpieces => rw [hpieces, (h.unique hfirst).1, (h.unique hfirst).2]

lemma fill_eq (h : FirstSlot t before after) (args : List Text) :
    fill t args = before ++ args.headD [] ++ fill after args.tail := by
  rw [fill_eq_interleave, h.pieces_eq, interleave_cons_cons before (pieces_ne_nil after),
    ← fill_eq_interleave]

end FirstSlot

/-! ### Cutting at every slot -/

/-- The parts of a template that is cut at its leftmost slot, and then at that of what follows. -/
inductive Cut : Text → List Text → Prop
  | whole {t : Text} (hslot : ¬slot <:+: t) : Cut t [t]
  | atSlot {t before after : Text} {parts : List Text} (hfirst : FirstSlot t before after)
      (hrest : Cut after parts) : Cut t (before :: parts)

lemma cut_pieces (t : Text) : Cut t (pieces t) := by
  induction hn : slotCount t generalizing t with
  | zero =>
    cases opening t with
    | none hslot _ hpieces => exact hpieces ▸ .whole hslot
    | slot before after _ hcount _ => omega
  | succ n ih =>
    cases opening t with
    | none _ hcount _ => omega
    | slot before after hfirst hcount hpieces =>
      exact hpieces ▸ .atSlot hfirst (ih after (by omega))

lemma cut_iff : Cut t parts ↔ parts = pieces t := by
  refine ⟨fun h => ?_, fun h => h ▸ cut_pieces t⟩
  induction h with
  | @whole t hslot =>
    cases opening t with
    | none _ _ hpieces => exact hpieces.symm
    | slot before after hfirst _ _ => exact absurd hfirst.isInfix hslot
  | atSlot hfirst _ ih => rw [ih, hfirst.pieces_eq]

lemma interleave_eq_flatMap (first : Text) (rest args : List Text) :
    interleave (first :: rest) args =
      first ++ rest.zipIdx.flatMap fun (part, i) => args.getD i [] ++ part := by
  have h (n : Nat) : interleave (first :: rest) (args.drop n) =
      first ++ (rest.zipIdx n).flatMap fun (part, i) => args.getD i [] ++ part := by
    induction rest generalizing first n with
    | nil => simp [interleave]
    | cons next rest ih =>
      have hhead : (args.drop n).headD [] = args.getD n [] := by
        rw [List.headD_eq_head?_getD, List.head?_drop, List.getD_eq_getElem?_getD]
      rw [interleave_cons_cons first (List.cons_ne_nil next rest), List.tail_drop, ih, hhead,
        List.zipIdx_cons, List.flatMap_cons]
      simp only [List.append_assoc]
  exact h 0

/-! ### Filling turn by turn -/

/-- A template on the way to being filled. -/
structure Progress where
  /-- What has been put out. -/
  output : Text
  /-- The arguments that are left. -/
  args : List Text
  /-- What is left of the template. -/
  rest : Text

namespace Progress

/-- What is left is put out up to its leftmost slot, and then the next argument, or nothing. -/
inductive Turn (s : Progress) : Progress → Prop
  | intro {before after : Text} (hfirst : FirstSlot s.rest before after) :
      s.Turn ⟨s.output ++ before ++ s.args.headD [], s.args.tail, after⟩

/-- So many turns one after the other. -/
inductive Turns : Nat → Progress → Progress → Prop
  | none (s : Progress) : Turns 0 s s
  | cons {n : Nat} {s v u : Progress} (first : s.Turn v) (rest : Turns n v u) : Turns (n + 1) s u

variable {s v u : Progress} {n : Nat}

/-- A turn takes one slot away and leaves what the filled template is going to be. -/
lemma Turn.keeps (h : s.Turn v) : slotCount s.rest = slotCount v.rest + 1 ∧
    s.output ++ fill s.rest s.args = v.output ++ fill v.rest v.args := by
  cases h with
  | intro hfirst =>
    refine ⟨hfirst.slotCount_eq, ?_⟩
    rw [hfirst.fill_eq]
    simp only [List.append_assoc]

lemma exists_turn (h : slotCount s.rest ≠ 0) : ∃ v, s.Turn v := by
  cases opening s.rest with
  | none _ hcount _ => exact absurd hcount h
  | slot before after hfirst _ _ => exact ⟨_, .intro hfirst⟩

lemma Turns.keeps (h : Turns n s u) : slotCount s.rest = slotCount u.rest + n ∧
    s.output ++ fill s.rest s.args = u.output ++ fill u.rest u.args := by
  induction h with
  | none s => exact ⟨rfl, rfl⟩
  | cons first _ ih =>
    obtain ⟨hcount, hfill⟩ := first.keeps
    exact ⟨by omega, hfill.trans ih.2⟩

lemma exists_turns (s : Progress) : ∃ u, Turns (slotCount s.rest) s u := by
  induction hn : slotCount s.rest generalizing s with
  | zero => exact ⟨s, .none s⟩
  | succ n ih =>
    obtain ⟨v, hv⟩ := exists_turn (s := s) (by omega)
    have hcount := hv.keeps.1
    obtain ⟨u, hu⟩ := ih v (by omega)
    exact ⟨u, .cons hv hu⟩

end Progress

/-! ### What filling does -/

lemma fill_of_notInfix (h : ¬slot <:+: t) (args : List Text) : fill t args = t := by
  cases opening t with
  | none _ _ hpieces => rw [fill_eq_interleave, hpieces, interleave]
  | slot before after hfirst _ _ => exact absurd hfirst.isInfix h

lemma fill_take (t : Text) (args : List Text) : fill t (args.take (slotCount t)) = fill t args := by
  have hcut := cut_pieces t
  generalize pieces t = parts at hcut
  induction hcut generalizing args with
  | whole hslot => rw [fill_of_notInfix hslot, fill_of_notInfix hslot]
  | atSlot hfirst _ ih =>
    rw [hfirst.fill_eq, hfirst.fill_eq, hfirst.slotCount_eq]
    cases args with
    | nil => rw [List.take_nil]
    | cons arg args => rw [List.take_succ_cons, List.tail_cons, List.tail_cons, ih]; rfl

lemma fill_replicate_slot (t : Text) : fill t (List.replicate (slotCount t) slot) = t := by
  have hcut := cut_pieces t
  generalize pieces t = parts at hcut
  induction hcut with
  | whole hslot => exact fill_of_notInfix hslot _
  | atSlot hfirst _ ih =>
    rw [hfirst.slotCount_eq, List.replicate_succ, hfirst.fill_eq, List.tail_cons, ih]
    exact hfirst.1.symm

/-- A template is cut at its leftmost slots in one way, into one part more than it has slots, none
of which has a slot. To fill it is to put each argument, or nothing if there is none, before the
part with its number; further arguments make no difference, and slots give the template back. Taking
the leftmost slot again and again ends after as many turns as there are slots, with the filled
template. -/
theorem fill_cut (t : Text) :
    (∃ first rest, (∀ parts, Cut t parts ↔ parts = first :: rest) ∧ rest.length = slotCount t ∧
        (∀ part ∈ first :: rest, ¬slot <:+: part) ∧
        ∀ args, fill t args = first ++ rest.zipIdx.flatMap fun (part, i) => args.getD i [] ++ part) ∧
      (∀ args, fill t args = fill t (args.take (slotCount t))) ∧
      fill t (List.replicate (slotCount t) slot) = t ∧
      ∀ args, (∃ u, Progress.Turns (slotCount t) ⟨[], args, t⟩ u ∧ (¬∃ v, u.Turn v) ∧
          u.output ++ u.rest = fill t args) ∧
        ∀ n u, Progress.Turns n ⟨[], args, t⟩ u → n ≤ slotCount t := by
  refine ⟨?_, fun args => (fill_take t args).symm, fill_replicate_slot t, fun args => ⟨?_, ?_⟩⟩
  · obtain ⟨first, rest, hpieces⟩ := List.exists_cons_of_ne_nil (pieces_ne_nil t)
    have hlength := length_pieces t
    rw [hpieces, List.length_cons] at hlength
    refine ⟨first, rest, fun parts => hpieces ▸ cut_iff, Nat.succ.inj hlength,
      hpieces ▸ slot_notInfix_pieces t, fun args => ?_⟩
    rw [fill_eq_interleave, hpieces, interleave_eq_flatMap]
  · obtain ⟨u, hu⟩ := Progress.exists_turns ⟨[], args, t⟩
    obtain ⟨hcount, hfill⟩ := hu.keeps
    have hrest : slotCount u.rest = 0 := by omega
    refine ⟨u, hu, ?_, ?_⟩
    · rintro ⟨v, hv⟩
      have hmore := hv.keeps.1
      omega
    · rw [fill_of_notInfix (slotCount_eq_zero_iff.mp hrest)] at hfill
      exact hfill.symm
  · intro n u hu
    have hcount : slotCount t = slotCount u.rest + n := hu.keeps.1
    omega

/-- Slots next to each other and after a percent sign, with arguments that bring a slot and make
one together with the part before them. -/
example : fill "%%s%s|%s".toList ["s".toList, "%s".toList] = "%s%s|".toList := by decide

end Pseudocode.Template
