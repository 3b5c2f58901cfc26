import Pseudocode.Rule.Basic
import Mathlib.Data.List.TakeDrop
import Mathlib.Data.List.TakeWhile

/-!
# Signs whose text goes on

What stands for one sign of a pattern is read in the same way when the text goes on behind it, save
that signs at the very end can run on: a count of rounds, a comment, the name of a class. Here the
text goes on with what closes the group around a pattern for whole lines.
-/

namespace Pseudocode.Pattern

/-- What closes the group around a pattern that is to match a whole line. -/
def closing : Text := ")$".toList

lemma bind_append {α β : Type} {first first' : Option (α × Text)}
    {next next' : α × Text → Option (β × Text)} {b : β} {rest tail : Text}
    (h : first.bind next = some (b, rest))
    (hfirst : ∀ a left, first = some (a, left) → next (a, left) = some (b, rest) →
      first' = some (a, left ++ tail))
    (hnext : ∀ a left, first = some (a, left) → next (a, left) = some (b, rest) →
      next' (a, left ++ tail) = some (b, rest ++ tail)) :
    first'.bind next' = some (b, rest ++ tail) := by
  obtain ⟨⟨a, left⟩, ha, hb⟩ := Option.bind_eq_some_iff.mp h
  rw [hfirst a left ha hb, Option.bind_some]
  exact hnext a left ha hb

lemma span_append {p : Char → Bool} {t name left : Text} (h : t.span p = (name, left))
    (hne : left ≠ []) (tail : Text) : (t ++ tail).span p = (name, left ++ tail) := by
  rw [List.span_eq_takeWhile_dropWhile] at h ⊢
  obtain ⟨rfl, rfl⟩ := Prod.mk.inj h
  have hlength : ¬(t.takeWhile p).length = t.length := by
    intro hlength
    have hall := (List.takeWhile_prefix p).eq_of_length hlength
    exact hne (List.dropWhile_eq_nil_iff.mpr (List.takeWhile_eq_self_iff.mp hall))
  rw [List.takeWhile_append, if_neg hlength, List.dropWhile_append,
    if_neg (by simpa [List.isEmpty_iff] using hne)]

lemma dropWhile_append_of_ne_nil {p : Char → Bool} {t : Text} (h : t.dropWhile p ≠ [])
    (tail : Text) : (t ++ tail).dropWhile p = t.dropWhile p ++ tail := by
  rw [List.dropWhile_append, if_neg (by simpa [List.isEmpty_iff] using h)]

namespace Flags

lemma dropComments_append {inComment : Bool} {t : Text} (h : dropComments inComment t ≠ [])
    (tail : Text) : dropComments inComment (t ++ tail) = dropComments inComment t ++ tail := by
  induction t generalizing inComment with
  | nil => exact absurd rfl h
  | cons c rest ih =>
    rw [List.cons_append]
    unfold dropComments at h ⊢
    split_ifs at h ⊢
    · exact ih h
    · exact ih h
    · exact ih h
    · rfl

lemma skip_nil (flags : Flags) : flags.skip [] = [] := by
  unfold skip
  split <;> rfl

lemma skip_append {flags : Flags} {t : Text} (h : flags.skip t ≠ []) (tail : Text) :
    flags.skip (t ++ tail) = flags.skip t ++ tail := by
  unfold skip at h ⊢
  split_ifs at h ⊢
  · exact dropComments_append h tail
  · rfl

lemma dropComments_closing {inComment : Bool} {t : Text} (h : dropComments inComment t = []) :
    dropComments inComment (t ++ closing) = closing ∨
      dropComments inComment (t ++ closing) = [] := by
  induction t generalizing inComment with
  | nil => cases inComment <;> decide
  | cons c rest ih =>
    rw [List.cons_append]
    unfold dropComments at h ⊢
    split_ifs at h ⊢
    · exact ih h
    · exact ih h
    · exact ih h

/-- After a text of nothing but comments either the closing is next or a comment takes it in. -/
lemma skip_closing {flags : Flags} {t : Text} (h : flags.skip t = []) :
    flags.skip (t ++ closing) = closing ∨ flags.skip (t ++ closing) = [] := by
  unfold skip at h ⊢
  split_ifs at h ⊢
  · exact dropComments_closing h
  · exact .inl (h ▸ rfl)

lemma read?_append {flags : Flags} {minus last : Bool} {seen : List Char} {t : Text}
    {found : Flags} {colon any : Bool} {rest : Text}
    (h : flags.read? minus last seen t = some (found, colon, any, rest)) (tail : Text) :
    flags.read? minus last seen (t ++ tail) = some (found, colon, any, rest ++ tail) := by
  fun_induction read? flags minus last seen t with
  | case1 | case2 | case4 | case6 | case8 | case9 => simp at h
  | case3 | case5 | case7 | case10 => simp_all [read?]

end Flags

namespace Property

lemma name?_append {flags : Flags} {inComment : Bool} {t name rest : Text}
    (h : name? flags inComment t = some (name, rest)) (tail : Text) :
    name? flags inComment (t ++ tail) = some (name, rest ++ tail) := by
  induction t generalizing inComment name with
  | nil => cases h
  | cons c t ih =>
    rw [List.cons_append]
    unfold name? at h ⊢
    cases hskips : flags.skips? inComment c with
    | some inComment =>
      simp only [hskips] at h ⊢
      exact ih h
    | none =>
      simp only [hskips] at h ⊢
      split_ifs at h ⊢ with hclose
      · cases h
        rfl
      · obtain ⟨⟨name', left⟩, hname, h⟩ := Option.map_eq_some_iff.mp h
        cases h
        exact Option.map_eq_some_iff.mpr ⟨_, ih hname, rfl⟩

/-- The class that a name stands for, where there is one. -/
def classOf? (flags : Flags) (s : Option CharSet) (rest : Text) : Option (CharSet × Text) :=
  s.bind fun s => some (flags.caseOf s, rest)

lemma classOf?_append {flags : Flags} {s : Option CharSet} {left rest : Text} {found : CharSet}
    (h : classOf? flags s left = some (found, rest)) (tail : Text) :
    classOf? flags s (left ++ tail) = some (found, rest ++ tail) := by
  obtain ⟨s, rfl, h⟩ := Option.bind_eq_some_iff.mp h
  cases h
  rfl

def class? (flags : Flags) (t : Text) : Option (CharSet × Text) :=
  match t with
  | [] => none
  | '{' :: rest =>
    (name? flags false rest).bind fun (name, rest) => classOf? flags (braced? name) rest
  | c :: rest => classOf? flags (byName? (loose [c])) rest

lemma read?_eq (flags : Flags) (t : Text) :
    read? flags t = if !flags.unicode then none else class? flags (flags.skip t) := rfl

lemma class?_of_ne {c : Char} (hc : c ≠ '{') (flags : Flags) (t : Text) :
    class? flags (c :: t) = classOf? flags (byName? (loose [c])) t := by
  unfold class?
  split <;> simp_all

lemma class?_append {flags : Flags} {t rest : Text} {s : CharSet}
    (h : class? flags t = some (s, rest)) (tail : Text) :
    class? flags (t ++ tail) = some (s, rest ++ tail) := by
  cases t with
  | nil => cases h
  | cons c t =>
    rw [List.cons_append]
    by_cases hc : c = '{'
    · subst hc
      exact bind_append h (fun _ _ hname _ => name?_append hname tail)
        fun _ _ _ hclass => classOf?_append hclass tail
    · rw [class?_of_ne hc] at h ⊢
      exact classOf?_append h tail

lemma read?_append {flags : Flags} {t rest : Text} {s : CharSet}
    (h : read? flags t = some (s, rest)) (tail : Text) :
    read? flags (t ++ tail) = some (s, rest ++ tail) := by
  rw [read?_eq] at h ⊢
  split_ifs at h ⊢ with hunicode
  have hskip : flags.skip t ≠ [] := by
    intro hnil
    rw [hnil] at h
    cases h
  rw [Flags.skip_append hskip]
  exact class?_append h tail

end Property

namespace Escape

lemma hexDigits?_append {count acc : Nat} {t rest : Text} {n : Nat}
    (h : hexDigits? count acc t = some (n, rest)) (tail : Text) :
    hexDigits? count acc (t ++ tail) = some (n, rest ++ tail) := by
  induction count generalizing acc t with
  | zero =>
    obtain ⟨rfl, rfl⟩ := Prod.mk.inj (Option.some.inj h)
    rfl
  | succ count ih =>
    cases t with
    | nil => simp [hexDigits?] at h
    | cons c t =>
      rw [List.cons_append]
      unfold hexDigits? at h ⊢
      cases hd : Text.hexDigit? c with
      | none => simp [hd] at h
      | some d =>
        rw [hd] at h
        exact ih h

lemma hexBraces?_append {acc : Nat} {any : Bool} {t rest : Text} {n : Nat}
    (h : hexBraces? acc any t = some (n, rest)) (tail : Text) :
    hexBraces? acc any (t ++ tail) = some (n, rest ++ tail) := by
  fun_induction hexBraces? acc any t with
  | case1 | case3 | case4 => simp at h
  | case2 | case5 => simp_all [hexBraces?]

/-- The character of a code that has been read. -/
def ofCode? (read : Nat × Text) : Option (Escape × Text) :=
  (Text.char? read.1).bind fun c => some (.char c, read.2)

lemma ofCode?_append {n : Nat} {left rest : Text} {e : Escape}
    (h : ofCode? (n, left) = some (e, rest)) (tail : Text) :
    ofCode? (n, left ++ tail) = some (e, rest ++ tail) := by
  obtain ⟨c, hc, h⟩ := Option.bind_eq_some_iff.mp h
  cases h
  exact Option.bind_eq_some_iff.mpr ⟨c, hc, rfl⟩

lemma hexChar?_of_ne {c : Char} (hc : c ≠ '{') (count : Nat) (t : Text) :
    hexChar? count (c :: t) = (hexDigits? count 0 (c :: t)).bind ofCode? := by
  unfold hexChar?
  split
  · rename_i hcons
    exact absurd (List.cons.inj hcons).1 hc
  · rfl

lemma hexChar?_brace (count : Nat) (t : Text) :
    hexChar? count ('{' :: t) = (hexBraces? 0 false t).bind ofCode? := rfl

lemma hexChar?_append {count : Nat} (hcount : count ≠ 0) {t rest : Text} {e : Escape}
    (h : hexChar? count t = some (e, rest)) (tail : Text) :
    hexChar? count (t ++ tail) = some (e, rest ++ tail) := by
  cases t with
  | nil =>
    obtain ⟨count, rfl⟩ := Nat.exists_eq_succ_of_ne_zero hcount
    simp [hexChar?, hexDigits?] at h
  | cons c t =>
    by_cases hc : c = '{'
    · subst hc
      rw [hexChar?_brace] at h
      rw [List.cons_append, hexChar?_brace]
      exact bind_append h (fun _ _ hread _ => hexBraces?_append hread tail)
        fun _ _ _ hcode => ofCode?_append hcode tail
    · rw [hexChar?_of_ne hc] at h
      rw [List.cons_append, hexChar?_of_ne hc]
      exact bind_append h (fun _ _ hread _ => hexDigits?_append hread tail)
        fun _ _ _ hcode => ofCode?_append hcode tail

lemma wordEdge?_of_ne {c : Char} (hc : c ≠ '{') (t : Text) :
    wordEdge? (c :: t) = some (.boundary, c :: t) := by
  unfold wordEdge?
  split
  · rename_i hcons
    exact absurd (List.cons.inj hcons).1 hc
  · rfl

lemma wordEdge?_append {t rest : Text} {edge : WordEdge} (h : wordEdge? t = some (edge, rest)) :
    wordEdge? (t ++ closing) = some (edge, rest ++ closing) := by
  cases t with
  | nil =>
    obtain ⟨rfl, rfl⟩ := Prod.mk.inj (Option.some.inj h)
    rfl
  | cons c t =>
    rw [List.cons_append]
    by_cases hc : c = '{'
    · subst hc
      unfold wordEdge? at h ⊢
      simp only at h ⊢
      cases hspan : t.span isEdgeSign with
      | mk name left =>
        rw [hspan] at h
        have hne : left ≠ [] := by
          rintro rfl
          cases name <;> simp at h
        rw [span_append hspan hne closing]
        obtain ⟨d, left, rfl⟩ := List.exists_cons_of_ne_nil hne
        rw [List.cons_append]
        cases name with
        | nil =>
          obtain ⟨rfl, rfl⟩ := Prod.mk.inj (Option.some.inj h)
          rfl
        | cons a name =>
          by_cases hd : d = '}'
          · subst hd
            simp only at h ⊢
            split at h <;> simp_all
          · simp [hd] at h
    · rw [wordEdge?_of_ne hc] at h ⊢
      obtain ⟨rfl, rfl⟩ := Prod.mk.inj (Option.some.inj h)
      rfl

lemma read?_append {flags : Flags} {t rest : Text} {e : Escape}
    (h : read? flags t = some (e, rest)) :
    read? flags (t ++ closing) = some (e, rest ++ closing) := by
  cases t with
  | nil => simp [read?] at h
  | cons c t =>
    rw [List.cons_append]
    unfold read? at h ⊢
    simp only at h ⊢
    split at h
    case h_7 | h_8 =>
      obtain ⟨⟨s, left⟩, hread, h⟩ := Option.map_eq_some_iff.mp h
      obtain ⟨rfl, rfl⟩ := Prod.mk.inj h
      exact Option.map_eq_some_iff.mpr ⟨_, Property.read?_append hread closing, rfl⟩
    case h_9 | h_10 | h_11 => exact hexChar?_append (by decide) h closing
    case h_20 =>
      obtain ⟨⟨edge, left⟩, hedge, h⟩ := Option.map_eq_some_iff.mp h
      obtain ⟨rfl, rfl⟩ := Prod.mk.inj h
      exact Option.map_eq_some_iff.mpr ⟨_, wordEdge?_append hedge, rfl⟩
    all_goals simp_all

end Escape

lemma decimal?_append {t rest : Text} {n : Nat} (h : decimal? t = some (n, rest))
    (hne : rest ≠ []) (tail : Text) : decimal? (t ++ tail) = some (n, rest ++ tail) := by
  unfold decimal? Text.trimStart at h ⊢
  cases hspan : (t.dropWhile Text.isWhite).span Text.isAsciiDigit with
  | mk digits left =>
    simp only [hspan] at h
    cases digits with
    | nil => simp at h
    | cons d digits =>
      simp only at h
      split_ifs at h with hsmall
      obtain ⟨rfl, rfl⟩ := Prod.mk.inj (Option.some.inj h)
      have hleft : left ≠ [] := by
        rintro rfl
        exact hne rfl
      have hdrop : t.dropWhile Text.isWhite ≠ [] := by
        intro hnil
        rw [hnil] at hspan
        cases hspan
      rw [dropWhile_append_of_ne_nil hdrop, span_append hspan hleft]
      simp only [if_pos hsmall, dropWhile_append_of_ne_nil hne]

def most? (least : Nat) (t : Text) : Option (Nat × Option Nat × Text) :=
  match t with
  | '}' :: rest => some (least, none, rest)
  | t =>
    (decimal? t).bind fun (most, rest) =>
      match rest with
      | '}' :: rest => if least ≤ most then some (least, some most, rest) else none
      | _ => none

lemma most?_of_ne {c : Char} (hc : c ≠ '}') (least : Nat) (t : Text) :
    most? least (c :: t) =
      (decimal? (c :: t)).bind fun (most, rest) =>
        match rest with
        | '}' :: rest => if least ≤ most then some (least, some most, rest) else none
        | _ => none := by
  unfold most?
  split
  · rename_i hcons
    exact absurd (List.cons.inj hcons).1 hc
  · rfl

lemma most?_append {least n : Nat} {most : Option Nat} {t rest : Text}
    (h : most? least t = some (n, most, rest)) (tail : Text) :
    most? least (t ++ tail) = some (n, most, rest ++ tail) := by
  cases t with
  | nil => cases h
  | cons c t =>
    by_cases hc : c = '}'
    · subst hc
      cases h
      rfl
    · rw [most?_of_ne hc] at h
      rw [List.cons_append, most?_of_ne hc]
      obtain ⟨⟨m, left⟩, hdecimal, h⟩ := Option.bind_eq_some_iff.mp h
      have hleft : left ≠ [] := by
        rintro rfl
        cases h
      rw [← List.cons_append, decimal?_append hdecimal hleft, Option.bind_some]
      simp only at h ⊢
      split at h
      · split_ifs at h with hmost
        cases h
        exact if_pos hmost
      · cases h

lemma count?_eq (flags : Flags) (t : Text) :
    count? flags t = (decimal? (flags.skip t)).bind fun (least, left) =>
      match left with
      | '}' :: rest => some (least, some least, rest)
      | ',' :: rest => most? least (flags.skip rest)
      | _ => none := rfl

lemma count?_append {flags : Flags} {t rest : Text} {least : Nat} {most : Option Nat}
    (h : count? flags t = some (least, most, rest)) (tail : Text) :
    count? flags (t ++ tail) = some (least, most, rest ++ tail) := by
  rw [count?_eq] at h ⊢
  obtain ⟨⟨n, left⟩, hdecimal, h⟩ := Option.bind_eq_some_iff.mp h
  have hskip : flags.skip t ≠ [] := by
    intro hnil
    rw [hnil] at hdecimal
    cases hdecimal
  have hleft : left ≠ [] := by
    rintro rfl
    cases h
  rw [Flags.skip_append hskip, decimal?_append hdecimal hleft, Option.bind_some]
  simp only at h ⊢
  split at h
  · cases h
    rfl
  · rename_i left
    have hskip : flags.skip left ≠ [] := by
      intro hnil
      rw [hnil] at h
      cases h
    simp only [List.cons_append, Flags.skip_append hskip]
    exact most?_append h tail
  · cases h

lemma groupName?_append {t name rest : Text} (h : groupName? t = some (name, rest))
    (tail : Text) : groupName? (t ++ tail) = some (name, rest ++ tail) := by
  unfold groupName? at h ⊢
  cases hspan : t.span (· != '>') with
  | mk name' left =>
    rw [hspan] at h
    have hleft : left ≠ [] := by
      rintro rfl
      cases name' <;> simp at h
    rw [span_append hspan hleft]
    simp only at h ⊢
    split at h
    · rename_i hpair
      obtain ⟨rfl, rfl⟩ := Prod.mk.inj hpair
      split_ifs at h with hname
      cases h
      exact if_pos hname
    · cases h

end Pseudocode.Pattern
