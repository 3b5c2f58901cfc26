import Pseudocode.Json.Reader
import Pseudocode.Json.Value
import Mathlib.Data.List.Basic
import Mathlib.Tactic.SplitIfs

/-!
# Reading JSON values back

The written form of a JSON value says where it ends, so that a value and the text after it are both
determined by the two together.
-/

namespace Pseudocode
namespace Json

/-! ### Quoted texts -/

lemma hexDigit?_hexDigit : ∀ n < 16, Text.hexDigit? (hexDigit n) = some n := by decide

lemma codes?_escape {t rest : Text} {n : Nat} (h : escape? t = some (n, rest)) (fuel : Nat) :
    codes? (fuel + 1) ('\\' :: t) =
      (codes? fuel rest).map fun (codes, rest) => (n :: codes, rest) := by
  simp only [codes?, h, Option.bind_eq_bind, Option.bind_some]
  cases codes? fuel rest <;> rfl

lemma codes?_plain {c : Char} (hquote : c ≠ '"') (hslash : c ≠ '\\') (hcontrol : ¬ c.toNat < 32)
    (fuel : Nat) (t : Text) :
    codes? (fuel + 1) (c :: t) =
      (codes? fuel t).map fun (codes, rest) => (c.toNat :: codes, rest) := by
  simp only [codes?, if_neg hcontrol]
  cases codes? fuel t <;> rfl

lemma escape?_unit {n : Nat} (h : n < 32) (t : Text) :
    escape? ('u' :: '0' :: '0' :: hexDigit (n / 16) :: hexDigit (n % 16) :: t) = some (n, t) := by
  have hhigh := hexDigit?_hexDigit (n / 16) (by omega)
  have hlow := hexDigit?_hexDigit (n % 16) (by omega)
  have hzero : Text.hexDigit? '0' = some 0 := by decide
  have hsum : ((0 * 16 + 0) * 16 + n / 16) * 16 + n % 16 = n := by omega
  have hunit : unit? ('0' :: '0' :: hexDigit (n / 16) :: hexDigit (n % 16) :: t) = some (n, t) := by
    simp only [unit?, hhigh, hlow, hzero, Option.bind_eq_bind, Option.bind_some, hsum]
    rfl
  have hsurrogate : ¬ (0xd800 ≤ n ∧ n < 0xdc00) := by omega
  simp only [escape?, hunit, Option.bind_eq_bind, Option.bind_some, if_neg hsurrogate]
  rfl

lemma codes?_quoteChar (fuel : Nat) (c : Char) (t : Text) :
    codes? (fuel + 1) (quoteChar c ++ t) =
      (codes? fuel t).map fun (codes, rest) => (c.toNat :: codes, rest) := by
  unfold quoteChar
  split_ifs with hquote hslash hb ht hn hf hr hcontrol
  · subst hquote; exact codes?_escape rfl fuel
  · subst hslash; exact codes?_escape rfl fuel
  · subst hb; exact codes?_escape rfl fuel
  · subst ht; exact codes?_escape rfl fuel
  · subst hn; exact codes?_escape rfl fuel
  · subst hf; exact codes?_escape rfl fuel
  · subst hr; exact codes?_escape rfl fuel
  · exact codes?_escape (escape?_unit hcontrol t) fuel
  · exact codes?_plain hquote hslash hcontrol fuel t

lemma codes?_flatMap_quoteChar (a : Text) (s : Text) (fuel : Nat) (h : a.length < fuel) :
    codes? fuel (a.flatMap quoteChar ++ '"' :: s) = some (a.map Char.toNat, s) := by
  induction a generalizing fuel with
  | nil =>
    obtain ⟨fuel, rfl⟩ := Nat.exists_eq_add_of_lt h
    rw [codes?.eq_def]
    rfl
  | cons c a ih =>
    obtain ⟨fuel, rfl⟩ : ∃ n, fuel = n + 1 := ⟨fuel - 1, by omega⟩
    rw [List.flatMap_cons, List.append_assoc, codes?_quoteChar, ih fuel (by simpa using h)]
    rfl

lemma length_le_flatMap_quoteChar (a : Text) : a.length ≤ (a.flatMap quoteChar).length := by
  induction a with
  | nil => exact Nat.le_refl 0
  | cons c a ih =>
    have hchar : 0 < (quoteChar c).length := by
      unfold quoteChar
      split_ifs <;> exact Nat.succ_pos _
    rw [List.flatMap_cons, List.length_append, List.length_cons]
    omega

lemma mapM_char?_toNat (a : Text) : (a.map Char.toNat).mapM Text.char? = some a := by
  induction a with
  | nil => rfl
  | cons c a ih =>
    have hvalid : c.toNat.isValidChar := c.valid
    have hc : Text.char? c.toNat = some c := by rw [Text.char?, if_pos hvalid, Char.ofNat_toNat]
    rw [List.map_cons, List.mapM_cons, hc, ih]
    rfl

/-- A text is read back from its quotes, whatever stands after them. -/
theorem string?_quote (a s : Text) : string? (quote a ++ s) = some (a, s) := by
  have hquote : quote a ++ s = '"' :: (a.flatMap quoteChar ++ '"' :: s) := by simp [quote]
  have hlength : a.length < (a.flatMap quoteChar ++ '"' :: s).length + 1 := by
    have hbody := length_le_flatMap_quoteChar a
    rw [List.length_append]
    omega
  have hcodes := codes?_flatMap_quoteChar a s _ hlength
  rw [hquote]
  unfold string?
  have hskip (t : Text) : skipGap ('"' :: t) = '"' :: t := rfl
  simp only [hskip, hcodes, mapM_char?_toNat, Option.bind_eq_bind, Option.bind_some]
  rfl

lemma quote_append_inj {a b s t : Text} (h : quote a ++ s = quote b ++ t) : a = b ∧ s = t := by
  have hread := congrArg string? h
  rw [string?_quote, string?_quote] at hread
  exact Prod.mk.inj (Option.some.inj hread)

/-! ### Values -/

/-- The character that the written form of a value starts with. -/
def opening : Json → Char
  | null => 'n'
  | string _ => '"'
  | array _ => '['
  | object _ => '\x7b'

lemma head?_write_append (d : Nat) (v : Json) (s : Text) :
    (write d v ++ s).head? = some v.opening := by
  match v with
  | null => simp [write, opening]
  | string _ => simp [write, quote, opening]
  | array [] => simp [write, opening]
  | array (_ :: _) => simp [write, opening]
  | object [] => simp [write, opening]
  | object (_ :: _) => simp [write, opening]

lemma opening_eq_of_write {d : Nat} {v w : Json} {s t : Text}
    (h : write d v ++ s = write d w ++ t) : v.opening = w.opening := by
  have hhead := congrArg List.head? h
  rw [head?_write_append, head?_write_append] at hhead
  exact Option.some.inj hhead

lemma write_array_cons_append (d : Nat) (item : Json) (items : List Json) (s : Text) :
    write d (array (item :: items)) ++ s =
      '[' :: (newLine (d + 1) ++ (write (d + 1) item ++ (writeItems (d + 1) items ++
        (newLine d ++ ']' :: s)))) := by
  simp [write]

lemma write_object_cons_append (d : Nat) (name : Text) (value : Json)
    (members : List (Text × Json)) (s : Text) :
    write d (object ((name, value) :: members)) ++ s =
      '\x7b' :: (newLine (d + 1) ++ (quote name ++ (": ".toList ++ (write (d + 1) value ++
        (writeMembers (d + 1) members ++ (newLine d ++ '\x7d' :: s)))))) := by
  simp [write]

lemma writeItems_cons_append (d : Nat) (item : Json) (items : List Json) (s : Text) :
    writeItems d (item :: items) ++ s =
      ',' :: (newLine d ++ (write d item ++ (writeItems d items ++ s))) := by
  simp [writeItems]

lemma writeMembers_cons_append (d : Nat) (name : Text) (value : Json)
    (members : List (Text × Json)) (s : Text) :
    writeMembers d ((name, value) :: members) ++ s =
      ',' :: (newLine d ++ (quote name ++ (": ".toList ++ (write d value ++
        (writeMembers d members ++ s))))) := by
  simp [writeMembers]

mutual

/-- The written form of a value ends where no text after it can be taken for a part of it. -/
lemma write_append_inj (d : Nat) (v w : Json) (s t : Text)
    (h : write d v ++ s = write d w ++ t) : v = w ∧ s = t := by
  -- values of two kinds open differently, and an empty list closes where another goes on
  have hopening := opening_eq_of_write h
  match v, w with
  | null, null => exact ⟨rfl, List.append_cancel_left h⟩
  | string a, string b =>
    obtain ⟨rfl, rfl⟩ := quote_append_inj h
    exact ⟨rfl, rfl⟩
  | array [], array [] => exact ⟨rfl, List.append_cancel_left h⟩
  | array (v :: vs), array (w :: ws) =>
    rw [write_array_cons_append, write_array_cons_append] at h
    obtain ⟨rfl, hrest⟩ := write_append_inj _ v w _ _ (List.append_cancel_left (List.cons.inj h).2)
    obtain ⟨rfl, hend⟩ := writeItems_append_inj _ vs ws _ _ hrest
    exact ⟨rfl, (List.cons.inj (List.append_cancel_left hend)).2⟩
  | object [], object [] => exact ⟨rfl, List.append_cancel_left h⟩
  | object ((m, v) :: vs), object ((n, w) :: ws) =>
    rw [write_object_cons_append, write_object_cons_append] at h
    obtain ⟨rfl, hvalue⟩ := quote_append_inj (List.append_cancel_left (List.cons.inj h).2)
    obtain ⟨rfl, hrest⟩ := write_append_inj _ v w _ _ (List.append_cancel_left hvalue)
    obtain ⟨rfl, hend⟩ := writeMembers_append_inj _ vs ws _ _ hrest
    exact ⟨rfl, (List.cons.inj (List.append_cancel_left hend)).2⟩

lemma writeItems_append_inj (d : Nat) (vs ws : List Json) (s t : Text)
    (h : writeItems d vs ++ '\n' :: s = writeItems d ws ++ '\n' :: t) : vs = ws ∧ s = t := by
  match vs, ws with
  | [], [] => exact ⟨rfl, (List.cons.inj h).2⟩
  | v :: vs, w :: ws =>
    rw [writeItems_cons_append, writeItems_cons_append] at h
    obtain ⟨rfl, hrest⟩ := write_append_inj _ v w _ _ (List.append_cancel_left (List.cons.inj h).2)
    obtain ⟨rfl, rfl⟩ := writeItems_append_inj _ vs ws _ _ hrest
    exact ⟨rfl, rfl⟩

lemma writeMembers_append_inj (d : Nat) (vs ws : List (Text × Json)) (s t : Text)
    (h : writeMembers d vs ++ '\n' :: s = writeMembers d ws ++ '\n' :: t) : vs = ws ∧ s = t := by
  match vs, ws with
  | [], [] => exact ⟨rfl, (List.cons.inj h).2⟩
  | (m, v) :: vs, (n, w) :: ws =>
    rw [writeMembers_cons_append, writeMembers_cons_append] at h
    obtain ⟨rfl, hvalue⟩ := quote_append_inj (List.append_cancel_left (List.cons.inj h).2)
    obtain ⟨rfl, hrest⟩ := write_append_inj _ v w _ _ (List.append_cancel_left hvalue)
    obtain ⟨rfl, rfl⟩ := writeMembers_append_inj _ vs ws _ _ hrest
    exact ⟨rfl, rfl⟩

end

lemma write_injective (d : Nat) : Function.Injective (write d) := by
  intro v w h
  exact (write_append_inj d v w [] [] (by rw [h])).1

end Json
end Pseudocode
