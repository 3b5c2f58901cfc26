import Mathlib.Data.List.Forall2
import Mathlib.Tactic.Lemma

/-!
# Results of steps

Steps that can fail, one after the other and along a list, and the last entry of a list that has
something to say.
-/

namespace Pseudocode

section Except

variable {α β γ ε : Type} {f : α → Except ε β} {xs : List α}

lemma exists_of_bind_eq_ok {x : Except ε α} {b : β} (h : x >>= f = .ok b) :
    ∃ a, x = .ok a ∧ f a = .ok b := by
  cases x with
  | error => cases h
  | ok a => exact ⟨a, rfl, h⟩

lemma mapM_eq_ok_iff {ys : List β} :
    xs.mapM f = .ok ys ↔ List.Forall₂ (fun x y => f x = .ok y) xs ys := by
  induction xs generalizing ys with
  | nil =>
    rw [List.mapM_nil, List.forall₂_nil_left_iff]
    simp [pure, Except.pure, eq_comm]
  | cons x xs ih =>
    rw [List.mapM_cons, List.forall₂_cons_left_iff]
    cases hx : f x with
    | error e => simp [bind, Except.bind]
    | ok y =>
      cases hxs : xs.mapM f with
      | error e => simp [bind, Except.bind, ← ih, hxs]
      | ok ys' => simp [bind, Except.bind, pure, Except.pure, ← ih, hxs, eq_comm]

lemma mapM_map_eq_ok {g : γ → α} {r : γ → β} {l : List γ}
    (h : ∀ c ∈ l, f (g c) = .ok (r c)) : (l.map g).mapM f = .ok (l.map r) := by
  rw [mapM_eq_ok_iff, List.forall₂_map_left_iff, List.forall₂_map_right_iff, List.forall₂_same]
  exact h

lemma mapM_eq_error_iff {e : ε} :
    xs.mapM f = .error e ↔ ∃ before x after, xs = before ++ x :: after ∧
      (∀ y ∈ before, ∃ b, f y = .ok b) ∧ f x = .error e := by
  induction xs with
  | nil => simp [pure, Except.pure]
  | cons x xs ih =>
    rw [List.mapM_cons]
    simp only [List.cons_eq_append_iff]
    cases hx : f x with
    | error e' =>
      constructor
      · intro h
        cases h
        exact ⟨[], x, xs, .inl ⟨rfl, rfl⟩, List.forall_mem_nil _, hx⟩
      · rintro ⟨before, y, after, ⟨rfl, h⟩ | ⟨before, rfl, rfl⟩, hbefore, hy⟩
        · cases h
          rw [hx] at hy
          cases hy
          rfl
        · obtain ⟨b, hb⟩ := hbefore x List.mem_cons_self
          cases hx.symm.trans hb
    | ok y =>
      have hlater : (Except.ok y >>= fun y => xs.mapM f >>= fun ys => pure (y :: ys)) = .error e ↔
          xs.mapM f = .error e := by
        cases xs.mapM f <;> simp [bind, Except.bind, pure, Except.pure]
      rw [hlater, ih]
      constructor
      · rintro ⟨before, z, after, rfl, hbefore, hz⟩
        exact ⟨x :: before, z, after, .inr ⟨before, rfl, rfl⟩,
          List.forall_mem_cons.mpr ⟨⟨y, hx⟩, hbefore⟩, hz⟩
      · rintro ⟨before, z, after, ⟨rfl, h⟩ | ⟨before, rfl, rfl⟩, hbefore, hz⟩
        · cases h
          cases hx.symm.trans hz
        · exact ⟨before, z, after, rfl, (List.forall_mem_cons.mp hbefore).2, hz⟩

end Except

section LastSome

variable {α β : Type}

/-- What `f` makes of the last entry of a list of which it makes something. -/
def lastSome (f : α → Option β) (l : List α) : Option β := l.reverse.findSome? f

variable {f : α → Option β} {a : α} {b : β} {l before after : List α}

lemma lastSome_cons (f : α → Option β) (a : α) (l : List α) :
    lastSome f (a :: l) = (lastSome f l).or (f a) := by
  rw [lastSome, List.reverse_cons, List.findSome?_append, List.findSome?_singleton, lastSome]

lemma lastSome_eq_none_iff : lastSome f l = none ↔ ∀ a ∈ l, f a = none := by
  simp [lastSome]

lemma lastSome_append_cons (h : f a = some b) (hafter : ∀ x ∈ after, f x = none) :
    lastSome f (before ++ a :: after) = some b := by
  rw [lastSome, List.reverse_append, List.reverse_cons, List.append_assoc, List.findSome?_append,
    ← lastSome, lastSome_eq_none_iff.mpr hafter, List.singleton_append, List.findSome?_cons, h]
  rfl

lemma exists_of_lastSome_eq_some (h : lastSome f l = some b) : ∃ a ∈ l, f a = some b := by
  obtain ⟨a, ha, hb⟩ := List.exists_of_findSome?_eq_some h
  exact ⟨a, List.mem_reverse.mp ha, hb⟩

end LastSome

end Pseudocode
