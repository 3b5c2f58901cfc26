import Pseudocode.Proofs.Acceptance
import Pseudocode.Proofs.Precedence
import Pseudocode.Rule.Standard

/-!
# How statements end

A statement ends in a semicolon or a brace, unless it is a comment. Whatever fills the slots of a
template, how the template begins before the first slot and how it ends after the last one is kept.
A statement of a rule therefore ends as the template says, and every statement that is made without
rules brings an end of its own.
-/

namespace Pseudocode

namespace Template

/-- A character at the end of a template stays at the end of what is filled. Only an `s` there could
complete a slot. -/
lemma fill_concat {c : Char} (hc : c ≠ 's') (t : Text) (args : List Text) :
    fill (t ++ [c]) args = fill t args ++ [c] := by
  fun_induction slotCount t generalizing args with
  | case1 =>
    have hslot : ∀ rest, c = '%' → ([] : Text) = 's' :: rest → False :=
      fun rest _ hrest => List.cons_ne_nil _ _ hrest.symm
    exact fill.eq_3 args c [] hslot
  | case2 rest ih =>
    change args.headD [] ++ fill (rest ++ [c]) args.tail =
      args.headD [] ++ fill rest args.tail ++ [c]
    rw [ih, List.append_assoc]
  | case3 d rest h ih =>
    -- no slot begins at `d`, not even one that the last character ends
    have hslot : ∀ rest', d = '%' → rest ++ [c] = 's' :: rest' → False := by
      intro rest' hd hrest
      cases rest with
      | nil => exact hc (List.cons_eq_cons.mp hrest).1
      | cons e rest => exact h rest hd (by rw [(List.cons_eq_cons.mp hrest).1])
    rw [List.cons_append, fill.eq_3 args d _ hslot, fill.eq_3 args d rest h, ih]
    rfl

end Template

namespace Statement

/-- The text ends in a semicolon or a brace, or begins as a comment. -/
def IsTerminated (t : Text) : Prop :=
  (∃ c ∈ [';', '\x7b', '\x7d'], [c] <:+ t) ∨ "//".toList <+: t

instance (t : Text) : Decidable (IsTerminated t) :=
  have : Decidable (∃ c ∈ [';', '\x7b', '\x7d'], [c] <:+ t) := List.decidableBEx _ _
  inferInstanceAs (Decidable (_ ∨ _))

lemma isTerminator_iff {c : Char} : isTerminator c = true ↔ c ∈ [';', '\x7b', '\x7d'] := by
  simp [isTerminator, or_assoc]

lemma isTerminated_of_semicolon (head : Text) {tail : Text} (h : [';'] <:+ tail) :
    IsTerminated (head ++ tail) :=
  .inl ⟨';', List.mem_cons_self, h.trans (List.suffix_append head tail)⟩

lemma isTerminated_of_comment {head : Text} (h : "//".toList <+: head) (tail : Text) :
    IsTerminated (head ++ tail) :=
  .inr (h.trans (List.prefix_append head tail))

/-! ### Rules -/

lemma IsTerminated.fill {template : Text} (h : IsTerminated template) (args : List Text) :
    IsTerminated (Template.fill template args) := by
  rcases h with ⟨c, hc, body, rfl⟩ | ⟨rest, rfl⟩
  · have hne : c ≠ 's' := by
      rintro rfl
      exact absurd hc (by decide)
    rw [Template.fill_concat hne]
    exact .inl ⟨c, hc, List.suffix_append _ _⟩
  · exact .inr (List.prefix_append "//".toList (Template.fill rest args))

/-! ### Statements without rules -/

variable {line statement : Text}

lemma isTerminated_of_input? (h : input? line = some statement) : IsTerminated statement := by
  obtain ⟨rest, -, rfl⟩ := Option.map_eq_some_iff.mp h
  split
  · split
    · exact isTerminated_of_semicolon _ (by decide)
    · exact isTerminated_of_comment (by decide) _
  · exact isTerminated_of_comment (by decide) _

lemma isTerminated_of_print? (h : print? line = some statement) : IsTerminated statement := by
  obtain ⟨rest, -, rfl⟩ := Option.map_eq_some_iff.mp h
  split
  · exact isTerminated_of_semicolon _ (by decide)
  · exact isTerminated_of_semicolon _ (by decide)

lemma isTerminated_terminate (hne : line ≠ []) : IsTerminated (terminate line) := by
  obtain ⟨body, c, rfl⟩ := (List.eq_nil_or_concat' line).resolve_left hne
  rw [terminate, List.getLast?_concat]
  dsimp only
  split_ifs with hc
  · exact .inl ⟨c, isTerminator_iff.mp hc, List.suffix_append body [c]⟩
  · exact isTerminated_of_semicolon _ (by decide)

end Statement

namespace Rulebook

open Statement

variable {book : Rulebook} {line : Text}

/-- A statement is terminated if the template of the rule that makes it is, or if no rule does. -/
lemma isTerminated_convert (hne : line ≠ [])
    (h : ∀ rule ∈ book.rules, ¬rule.Leaves line → IsTerminated rule.written.template) :
    IsTerminated (book.convert line) := by
  unfold convert
  split
  · rename_i statement hstatement
    obtain ⟨before, rule, after, hrules, -, hmakes⟩ := statement?_eq_some_iff.mp hstatement
    have hsome := Rule.statement?_eq_some_iff.mpr hmakes
    have hmatches : ¬rule.Leaves line := by
      rw [← Rule.statement?_eq_none_iff, hsome]
      exact Option.some_ne_none statement
    have htemplate := h rule (by simp [hrules]) hmatches
    obtain ⟨-, -, -, groups, -, -, -, rfl⟩ := hmakes
    exact htemplate.fill _
  · split
    · rename_i statement hinput
      exact isTerminated_of_input? hinput
    · cases hprint : print? line with
      | none => exact isTerminated_terminate hne
      | some statement => exact isTerminated_of_print? hprint

lemma map_written {written : List WrittenRule} (h : ofWritten written = .ok book) :
    book.rules.map Rule.written = written := by
  obtain ⟨-, hall⟩ := ofWrittenWith_eq_ok_iff.mp h
  have heq : List.Forall₂ (fun w rule => w = Rule.written rule) written book.rules :=
    hall.imp fun _ _ hof => hof.written.symm
  rw [← List.forall₂_map_right_iff, List.forall₂_eq_eq_eq] at heq
  exact heq.symm

/-- If every template of an accepted rulebook ends in a semicolon or a brace or begins as a comment,
as all the standard ones do, so does the statement of every line that is not empty, whatever makes
it and whatever the line is made of. -/
theorem convert_isTerminated :
    (∀ w ∈ standardRules, IsTerminated w.template) ∧
      ∀ {written : List WrittenRule} {book : Rulebook}, ofWritten written = .ok book →
        (∀ w ∈ written, IsTerminated w.template) →
          ∀ line : Text, line ≠ [] → IsTerminated (book.convert line) := by
  refine ⟨by decide, fun {written book} hbook htemplates line hne => ?_⟩
  rw [← map_written hbook, List.forall_mem_map] at htemplates
  exact isTerminated_convert hne fun rule hrule _ => htemplates rule hrule

theorem convert_isTerminated_say :
    let written : List WrittenRule := [rule "note" ["#(.)"] "// %s", rule "say" ["say(.)"] "%s;"]
    ∃ book, ofWritten written = .ok book ∧ (∀ w ∈ written, IsTerminated w.template) ∧
      (book.convert "#\x7b".toList = "// \x7b".toList ∧ IsTerminated "// \x7b".toList) ∧
      (book.convert "say\x7b".toList = "\x7b;".toList ∧ IsTerminated "\x7b;".toList) ∧
      IsTerminated (book.convert "input x".toList) ∧
      IsTerminated (book.convert "print (".toList) ∧ IsTerminated (book.convert ['\x7d']) := by
  intro written
  let any : Pattern := .group 1 (.one (.compl (.single '\n')))
  let sign (c : Char) : Pattern := .one (.anyCase (.single c))
  let note : Pattern := .enclosed (.seq (sign '#') any)
  let say : Pattern := .enclosed (.seq (.seq (.seq (sign 's') (sign 'a')) (sign 'y')) any)
  let book : Rulebook := ⟨[⟨rule "note" ["#(.)"] "// %s", [note], .inOrder⟩,
    ⟨rule "say" ["say(.)"] "%s;", [say], .inOrder⟩]⟩
  have hbook : ofWritten written = .ok book := by rfl
  have htemplates : ∀ w ∈ written, IsTerminated w.template := by decide
  have hends := convert_isTerminated.2 hbook htemplates
  have hnote : book.convert "#\x7b".toList = "// \x7b".toList := by decide +kernel
  have hsay : book.convert "say\x7b".toList = "\x7b;".toList := by decide +kernel
  exact ⟨book, hbook, htemplates, ⟨hnote, hnote ▸ hends "#\x7b".toList (by decide)⟩,
    ⟨hsay, hsay ▸ hends "say\x7b".toList (by decide)⟩, hends _ (by decide), hends _ (by decide),
    hends _ (by decide)⟩

end Rulebook
end Pseudocode
