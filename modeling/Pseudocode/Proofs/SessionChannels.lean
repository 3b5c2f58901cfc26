import Mathlib.Data.List.Infix
import Pseudocode.Shell.Session

/-!
# Channels of a session

While scripts run, a source is read from its start and a stream is written at its end. A session
that has gone on from another one has at most the ends of the sources of that one left to read, and
it still has all that was written to the streams.
-/

namespace Pseudocode.Shell.Session

variable {s t after : Session}

/-- What is left to read of a source. -/
def left (s : Session) (id : Nat) : Text := (s.sources.lookup id).getD []

/-- Sources and streams that are open in the first session have gone on in the second one. Those
that were opened in between are not restricted. -/
def Onward (s after : Session) : Prop :=
  s.fresh ≤ after.fresh ∧
    ∀ id < s.fresh, after.left id <:+ s.left id ∧ s.written id <+: after.written id

@[simp] lemma Onward.refl (s : Session) : s.Onward s :=
  ⟨Nat.le_refl _, fun _ _ => ⟨List.suffix_rfl, List.prefix_rfl⟩⟩

lemma Onward.trans (hst : s.Onward t) (hafter : t.Onward after) : s.Onward after := by
  refine ⟨Nat.le_trans hst.1 hafter.1, fun id hid => ?_⟩
  obtain ⟨hread, hwritten⟩ := hst.2 id hid
  obtain ⟨hread', hwritten'⟩ := hafter.2 id (Nat.lt_of_lt_of_le hid hst.1)
  exact ⟨hread'.trans hread, hwritten.trans hwritten'⟩

/-! ### Changes that leave sources and streams as they are -/

@[simp] lemma onward_mk {host : Host} {name : Text} {arguments : List Text}
    {bindings : List (Text × Text)} {functions : List (Text × Command)}
    {channels : List (Nat × Channel)} {status : Nat} {flow : Flow} {line : Nat} {strict : Bool}
    {locals : List (Text × Option Text)} :
    s.Onward ⟨host, name, arguments, bindings, functions, channels, t.sources, t.streams, status,
      flow, line, strict, locals⟩ ↔ s.Onward t :=
  Iff.rfl

@[simp] lemma onward_set (name value : Text) : s.Onward (t.set name value) ↔ s.Onward t := Iff.rfl

@[simp] lemma onward_unset (name : Text) : s.Onward (t.unset name) ↔ s.Onward t := Iff.rfl

@[simp] lemma onward_withStatus (status : Nat) : s.Onward (t.withStatus status) ↔ s.Onward t :=
  Iff.rfl

/-! ### Changes of one source or stream -/

lemma lookup_cons_ite {β : Type} (key k : Nat) (value : β) (table : List (Nat × β)) :
    ((key, value) :: table).lookup k = if k = key then some value else table.lookup k := by
  by_cases h : k = key
  · simp [h]
  · simp [List.lookup_cons, beq_eq_false_iff_ne.mpr h, h]

lemma lookup_assoc {β : Type} (key k : Nat) (value : β) (table : List (Nat × β)) :
    (assoc key value table).lookup k = if k = key then some value else table.lookup k := by
  induction table with
  | nil => exact lookup_cons_ite ..
  | cons entry table ih =>
    obtain ⟨first, v⟩ := entry
    by_cases hfirst : first = key
    · by_cases h : k = key <;> simp [assoc, lookup_cons_ite, hfirst, h]
    · by_cases h : k = first
      · simp [assoc, hfirst, h]
      · simp [assoc, lookup_cons_ite, hfirst, h, ih]

lemma length_le_length_assoc {β : Type} (key : Nat) (value : β) (table : List (Nat × β)) :
    table.length ≤ (assoc key value table).length := by
  induction table with
  | nil => exact Nat.zero_le _
  | cons entry table ih =>
    by_cases hfirst : entry.1 = key
    · simp [assoc, hfirst]
    · simpa [assoc, hfirst] using ih

lemma left_openSource (channel id : Nat) (t : Text) :
    (s.openSource channel t).left id = if id = s.fresh then t else s.left id := by
  by_cases h : id = s.fresh <;> simp [left, openSource, lookup_cons_ite, h]

/-- The number of a new source is not that of an open one. -/
lemma onward_openSource (s : Session) (channel : Nat) (t : Text) :
    s.Onward (s.openSource channel t) := by
  refine ⟨by simp [fresh, openSource, Nat.add_right_comm], fun id hid => ?_⟩
  rw [left_openSource, if_neg (Nat.ne_of_lt hid)]
  exact ⟨List.suffix_rfl, List.prefix_rfl⟩

lemma onward_openStream (s : Session) (channel : Nat) : s.Onward (s.openStream channel).1 := by
  refine ⟨by simp [fresh, openStream, ← Nat.add_assoc], fun id hid => ⟨List.suffix_rfl, ?_⟩⟩
  have hlookup : ((s.openStream channel).1.streams.lookup id) = s.streams.lookup id := by
    simp [openStream, lookup_cons_ite, Nat.ne_of_lt hid]
  rw [written, written, hlookup]

lemma written_print (s : Session) (channel : Nat) (t : Text) (id : Nat) :
    s.written id <+: (s.print channel t).written id := by
  rw [print]
  split
  · next stream hstream =>
    by_cases h : id = stream
    · subst h
      simp [written, lookup_assoc]
    · simp [written, lookup_assoc, h]
  · split <;> exact List.prefix_rfl
  · exact List.prefix_rfl

lemma onward_print (s : Session) (channel : Nat) (t : Text) : s.Onward (s.print channel t) := by
  have hsources : (s.print channel t).sources = s.sources := by
    rw [print]
    split
    · rfl
    · split <;> rfl
    · rfl
  have hstreams : s.streams.length ≤ (s.print channel t).streams.length := by
    rw [print]
    split
    · exact length_le_length_assoc ..
    · split <;> exact Nat.le_refl _
    · exact Nat.le_refl _
  refine ⟨?_, fun id hid => ⟨?_, s.written_print channel t id⟩⟩
  · rw [fresh, fresh, hsources]
    exact Nat.add_le_add_left hstreams _
  · rw [left, left, hsources]

lemma onward_leave {rest : Text} (hrest : rest <:+ s.input) : s.Onward (s.leave rest) := by
  rw [input] at hrest
  rw [leave]
  split
  · next source hsource =>
    rw [hsource] at hrest
    refine ⟨Nat.add_le_add_right (length_le_length_assoc ..) _, fun id hid => ⟨?_, List.prefix_rfl⟩⟩
    by_cases h : id = source
    · subst h
      simpa [left, lookup_assoc] using hrest
    · simp [left, lookup_assoc, h]
  · exact .refl s

/-! ### What builds on these -/

lemma Onward.ite {p : Prop} [Decidable p] (ht : s.Onward t) (hafter : s.Onward after) :
    s.Onward (if p then t else after) := by
  split
  · exact ht
  · exact hafter

lemma Onward.fst_ite {α : Type} {p : Prop} [Decidable p] {found other : Session × α}
    (hfound : s.Onward found.1) (hother : s.Onward other.1) :
    s.Onward (if p then found else other).1 := by
  split
  · exact hfound
  · exact hother

@[simp] lemma Onward.openSource (h : s.Onward t) (channel : Nat) (text : Text) :
    s.Onward (t.openSource channel text) :=
  h.trans (t.onward_openSource channel text)

@[simp] lemma Onward.openStream (h : s.Onward t) (channel : Nat) :
    s.Onward (t.openStream channel).1 :=
  h.trans (t.onward_openStream channel)

@[simp] lemma Onward.print (h : s.Onward t) (channel : Nat) (text : Text) :
    s.Onward (t.print channel text) :=
  h.trans (t.onward_print channel text)

@[simp] lemma Onward.say (h : s.Onward t) (text : Text) : s.Onward (t.say text) := h.print 1 text

@[simp] lemma Onward.warn (h : s.Onward t) (text : Text) : s.Onward (t.warn text) := h.print 2 _

@[simp] lemma Onward.complain (h : s.Onward t) (text : Text) : s.Onward (t.complain text) :=
  h.warn _

@[simp] lemma Onward.leave_nil (h : s.Onward t) : s.Onward (t.leave []) :=
  h.trans (onward_leave List.nil_suffix)

lemma Onward.foldl {α : Type} {f : Session → α → Session} (hstep : ∀ (t : Session) x, t.Onward (f t x))
    (h : s.Onward t) (xs : List α) : s.Onward (xs.foldl f t) := by
  induction xs generalizing t with
  | nil => exact h
  | cons x xs ih => exact ih (h.trans (hstep t x))

lemma Onward.foldr {α : Type} {f : α → Session → Session}
    (hstep : ∀ x (t : Session), t.Onward (f x t)) (h : s.Onward t) (xs : List α) : s.Onward (xs.foldr f t) := by
  induction xs with
  | nil => exact h
  | cons x xs ih => exact ih.trans (hstep x _)

lemma Onward.fst_foldl {α β : Type} {f : Session × β → α → Session × β}
    (hstep : ∀ (r : Session × β) x, r.1.Onward (f r x).1) {r : Session × β} (h : s.Onward r.1) (xs : List α) :
    s.Onward (xs.foldl f r).1 := by
  induction xs generalizing r with
  | nil => exact h
  | cons x xs ih => exact ih (h.trans (hstep r x))

@[simp] lemma Onward.restore (h : s.Onward t) (before : List (Text × Option Text)) :
    s.Onward (t.restore before) := by
  refine h.foldl (fun t entry => ?_) before
  obtain ⟨name, _ | value⟩ := entry <;> simp

end Pseudocode.Shell.Session
