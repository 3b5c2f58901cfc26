import Pseudocode.Proofs.BuiltinWords
import Pseudocode.Proofs.Parentheses

/-!
# Semicolons at the end of a line

A semicolon that ends a line is not doubled, so that as a rule it makes no difference whether one is
written. It makes a difference where the end of the line goes into the statement: as the end of what
is printed, as the name of a value that is read, and in the remark that an input is too short.
-/

namespace Pseudocode

namespace Text

variable {c d : Char} {t : Text}

lemma exists_words_append {s : Text} (hd : isWhite d = false) (hs : ∀ c ∈ s, isWhite c = false)
    (t : Text) :
    ∃ ws w, words (t ++ [d]) = ws ++ [w] ∧ words (t ++ d :: s) = ws ++ [w ++ s] := by
  obtain ⟨pieces, last, ht, hshort⟩ := exists_splitAt_append (s := [d]) (by simpa using hd) t
  obtain ⟨pieces', last', ht', hlong⟩ :=
    exists_splitAt_append (s := d :: s) (List.forall_mem_cons.mpr ⟨hd, hs⟩) t
  obtain ⟨rfl, hlast⟩ := List.append_inj' (ht.symm.trans ht') rfl
  obtain rfl := List.singleton_inj.mp hlast
  refine ⟨pieces.filter (!·.isEmpty), last ++ [d], ?_, ?_⟩
  · rw [words, hshort, List.filter_append]
    exact congrArg _ (List.filter_cons_of_pos (by simp))
  · rw [words, hlong, List.filter_append, List.append_assoc]
    exact congrArg _ (List.filter_cons_of_pos (by simp))

lemma trim_concat (hc : isWhite c = false) (ht : ∀ d ∈ t.getLast?, isWhite d = false) :
    trim (t ++ [c]) = trim t ++ [c] := by
  have hstart : trimStart (t ++ [c]) = trimStart t ++ [c] := by
    unfold trimStart
    rw [List.dropWhile_append]
    split
    · rename_i hblank
      rw [List.isEmpty_iff.mp hblank, List.dropWhile_cons_of_neg (Bool.eq_false_iff.mp hc)]
      rfl
    · rfl
  have hend : trimEnd (trimStart t) = trimStart t := by
    refine List.rdropWhile_eq_self_iff.mpr fun hne => Bool.eq_false_iff.mp (ht _ ?_)
    have hlast : (trimStart t).getLast hne = t.getLast _ :=
      (List.dropWhile_suffix isWhite).getLast hne
    rw [hlast]
    exact List.getLast?_eq_some_getLast _
  rw [trim, trim, hstart, hend]
  exact List.rdropWhile_concat_neg _ _ _ (Bool.eq_false_iff.mp hc)

end Text

namespace Keyword

variable {keyword line : Text} {c : Char}

lemma after?_concat (hc : ∀ d ∈ keyword, Text.sameLetter c d = false) (line : Text) :
    after? keyword (line ++ [c]) = (after? keyword line).map (· ++ [c]) := by
  cases h : after? keyword line with
  | some rest =>
    obtain ⟨head, rfl, hword⟩ := append_of_after? h
    rw [List.append_assoc, after?_append hword, Option.map_some]
  | none =>
    rw [Option.map_none, Option.eq_none_iff_forall_ne_some]
    intro rest hrest
    obtain ⟨head, hline, hword⟩ := append_of_after? hrest
    rcases List.eq_nil_or_concat' rest with rfl | ⟨rest, d, rfl⟩
    · have hmem : c ∈ head := by
        rw [← List.append_nil head, ← hline]
        exact List.mem_append_right line (List.mem_singleton_self c)
      obtain ⟨d, hd, hletter⟩ := Text.exists_sameLetter_of_mem hword hmem
      exact Bool.noConfusion ((hc d hd).symm.trans hletter)
    · rw [← List.append_assoc] at hline
      rw [(List.append_inj' hline rfl).1, after?_append hword] at h
      exact Option.some_ne_none _ h

end Keyword

namespace Statement

/-- The end of the line goes into its statement. -/
inductive TakesEnd (line : Text) : Prop
  | printed (h : (Keyword.after? "print".toList line).isSome)
  | tooShort (h : (Keyword.after? "input".toList line).isSome)
      (hwords : (Text.words line).length < 3)
  | read {first ty name : Text} (h : (Keyword.after? "input".toList line).isSome)
      (hwords : Text.words line = [first, ty, name])
      (hread : (scannerRead? (Text.lower ty)).isSome)

variable {line : Text}

lemma TakesEnd.isSome (h : TakesEnd line) : (input? line).isSome ∨ (print? line).isSome := by
  rw [isSome_input?, isSome_print?]
  cases h with
  | printed h => exact .inr h
  | tooShort h _ | read h _ _ => exact .inl h

lemma isSome_after?_semicolon {w : Text} (hw : w ∈ builtinWords) (line : Text) :
    (Keyword.after? w (line ++ [';'])).isSome = (Keyword.after? w line).isSome := by
  have hletters : ∀ w ∈ builtinWords, ∀ d ∈ w, Text.sameLetter ';' d = false := by decide
  rw [Keyword.after?_concat (hletters w hw), Option.isSome_map]

lemma isTerminator_getLast? {c : Char} (h : line.getLast? = some c) (hc : isTerminator c = false) :
    ∀ d ∈ line.getLast?, isTerminator d = false := by
  intro d hd
  obtain rfl : c = d := Option.some.inj (h.symm.trans hd)
  exact hc

lemma terminate_semicolon (hne : line ≠ []) (hend : ∀ c ∈ line.getLast?, isTerminator c = false) :
    terminate (line ++ [';']) = terminate line := by
  have hlast := List.getLast?_eq_some_getLast hne
  have hopen : ¬isTerminator (line.getLast hne) = true := Bool.eq_false_iff.mp (hend _ hlast)
  rw [terminate, terminate, hlast, List.getLast?_concat]
  exact (if_pos (by decide)).trans (if_neg hopen).symm

/-! ### Lines that print -/

lemma exists_print?_semicolon (hline : Text.trim line = line)
    (h : (Keyword.after? "print".toList line).isSome) :
    ∃ s s', print? line = some s ∧ print? (line ++ [';']) = some s' ∧
      s'.length = s.length + 1 := by
  obtain ⟨rest, hrest⟩ := Option.isSome_iff_exists.mp h
  have hrest' : Keyword.after? "print".toList (line ++ [';']) = some (rest ++ [';']) := by
    rw [Keyword.after?_concat (by decide), hrest, Option.map_some]
  have hend : ∀ d ∈ rest.getLast?, Text.isWhite d = false := by
    intro d hd
    obtain ⟨head, hcut, -⟩ := Keyword.append_of_after? hrest
    refine Text.isWhite_of_mem_getLast?_trim (t := line) ?_
    rw [hline, hcut, List.getLast?_append, hd]
    rfl
  have htrim : Text.trim (rest ++ [';']) = Text.trim rest ++ [';'] :=
    Text.trim_concat (by decide) hend
  by_cases hopen : (Text.trim rest).head? = some '('
  · obtain ⟨content, hcontent⟩ := List.head?_eq_some_iff.mp hopen
    rw [hcontent, List.cons_append] at htrim
    refine ⟨_, _, print?_of_open hrest hcontent, print?_of_open hrest' htrim, ?_⟩
    simp only [List.length_append, List.length_cons, List.length_nil]
    omega
  · have hopen' : (Text.trim (rest ++ [';'])).head? ≠ some '(' := by
      rw [htrim]
      cases hcontent : Text.trim rest with
      | nil => decide
      | cons c content => rwa [hcontent] at hopen
    refine ⟨_, _, print?_of_not_open hrest hopen, print?_of_not_open hrest' hopen', ?_⟩
    rw [htrim]
    simp only [List.length_append, List.length_cons, List.length_nil]
    omega

/-! ### Lines that read -/

lemma input?_of_few (h : (Keyword.after? "input".toList line).isSome)
    (hwords : (Text.words line).length < 3) :
    input? line = some ("// ERROR: Invalid input statement: ".toList ++ line) := by
  obtain ⟨rest, hrest⟩ := Option.isSome_iff_exists.mp h
  rw [input?, hrest, Option.map_some]
  split
  · rename_i hmore
    rw [hmore] at hwords
    simp at hwords
    omega
  · rfl

/-- The value that is read decides on the statement by its type and its name. -/
def reading (ty name : Text) : Text :=
  match scannerRead? (Text.lower ty) with
  | some (ty, method) =>
    ty ++ ' ' :: name ++ " = ".toList ++ scannerName ++ '.' :: method ++ "();".toList
  | none => "// ERROR: Unsupported input type: ".toList ++ Text.lower ty

lemma input?_of_words {first ty name : Text} {more : List Text}
    (h : (Keyword.after? "input".toList line).isSome)
    (hwords : Text.words line = first :: ty :: name :: more) :
    input? line = some (reading ty name) := by
  obtain ⟨rest, hrest⟩ := Option.isSome_iff_exists.mp h
  rw [input?, hrest, Option.map_some, hwords]
  rfl

lemma reading_eq_iff {ty name name' : Text} (hne : name ≠ name') :
    reading ty name = reading ty name' ↔ scannerRead? (Text.lower ty) = none := by
  unfold reading
  cases scannerRead? (Text.lower ty) with
  | none => exact iff_of_true rfl rfl
  | some read => simpa using hne

lemma not_print_of_input (h : (Keyword.after? "input".toList line).isSome) :
    ¬(Keyword.after? "print".toList line).isSome := by
  intro h'
  rw [Keyword.isSome_after?_iff_beginsWith] at h h'
  exact absurd (Text.map_asciiLower_eq_of_beginsWith h h' rfl) (by decide)

lemma takesEnd_iff_of_input (h : (Keyword.after? "input".toList line).isSome) :
    TakesEnd line ↔ (Text.words line).length < 3 ∨ ∃ first ty name,
      Text.words line = [first, ty, name] ∧ (scannerRead? (Text.lower ty)).isSome := by
  constructor
  · intro htakes
    cases htakes with
    | printed hprint => exact absurd hprint (not_print_of_input h)
    | tooShort _ hwords => exact .inl hwords
    | read _ hwords hread => exact .inr ⟨_, _, _, hwords, hread⟩
  · rintro (hwords | ⟨first, ty, name, hwords, hread⟩)
    · exact .tooShort h hwords
    · exact .read h hwords hread

/-- A semicolon ends the last word, of which a statement that reads shows no more than the
third. -/
lemma input?_semicolon_iff (hline : Text.trim line = line)
    (h : (Keyword.after? "input".toList line).isSome) :
    input? (line ++ [';']) = input? line ↔ ¬TakesEnd line := by
  have h' : (Keyword.after? "input".toList (line ++ [';'])).isSome := by
    rwa [isSome_after?_semicolon (by decide)]
  obtain ⟨ws, w, hshort, hlong⟩ : ∃ ws w, Text.words line = ws ++ [w] ∧
      Text.words (line ++ [';']) = ws ++ [w ++ [';']] := by
    rcases List.eq_nil_or_concat' line with rfl | ⟨t, d, rfl⟩
    · exact absurd h (by decide)
    · have hd : Text.isWhite d = false := by
        refine Text.isWhite_of_mem_getLast?_trim (t := t ++ [d]) ?_
        rw [hline, List.getLast?_concat]
        rfl
      rw [List.append_assoc]
      exact Text.exists_words_append hd (by decide) t
  have htakes := takesEnd_iff_of_input h
  have hfew (hwords : ws.length < 2) :
      input? (line ++ [';']) = input? line ↔ ¬TakesEnd line := by
    have hlength : (Text.words line).length < 3 := by
      rw [hshort, List.length_append, List.length_singleton]
      omega
    have hlength' : (Text.words (line ++ [';'])).length < 3 := by
      rw [hlong, List.length_append, List.length_singleton]
      omega
    rw [input?_of_few h hlength, input?_of_few h' hlength', htakes]
    exact iff_of_false (by simp) (not_not_intro (.inl hlength))
  match ws with
  | [] => exact hfew Nat.zero_lt_two
  | [_] => exact hfew Nat.one_lt_two
  | [first, ty] =>
    rw [input?_of_words h hshort, input?_of_words h' hlong, htakes, hshort]
    simp [reading_eq_iff]
  | first :: ty :: name :: more =>
    rw [input?_of_words h hshort, input?_of_words h' hlong, htakes, hshort]
    simp

end Statement

namespace Rulebook

open Statement

variable {line : Text}

/-- Without rules, a semicolon after a line that needs one makes no difference if and only if the
end of the line does not go into the statement. -/
theorem convert_semicolon_iff (hne : line ≠ []) (htrim : Text.trim line = line)
    (hend : ∀ c ∈ line.getLast?, isTerminator c = false) :
    empty.convert (line ++ [';']) = empty.convert line ↔ ¬TakesEnd line := by
  rw [convert_empty, convert_empty]
  cases hinput : input? line with
  | some statement =>
    have h : (Keyword.after? "input".toList line).isSome := by
      rw [← isSome_input?, hinput, Option.isSome_some]
    obtain ⟨statement', hinput'⟩ : ∃ s, input? (line ++ [';']) = some s := by
      rwa [← Option.isSome_iff_exists, isSome_input?, isSome_after?_semicolon (by decide)]
    rw [← input?_semicolon_iff htrim h, hinput, hinput', Option.getD_some, Option.getD_some,
      Option.some_inj]
  | none =>
    have hinput' : input? (line ++ [';']) = none := by
      rw [← Option.not_isSome_iff_eq_none, isSome_input?, isSome_after?_semicolon (by decide),
        ← isSome_input?, hinput]
      exact Bool.false_ne_true
    rw [hinput', Option.getD_none, Option.getD_none]
    cases hprint : print? line with
    | some statement =>
      have h : (Keyword.after? "print".toList line).isSome := by
        rw [← isSome_print?, hprint, Option.isSome_some]
      obtain ⟨s, s', hs, hs', hlength⟩ := exists_print?_semicolon htrim h
      rw [← hprint, hs, hs', Option.getD_some, Option.getD_some]
      refine iff_of_false (fun heq => ?_) (not_not_intro (.printed h))
      rw [heq] at hlength
      omega
    | none =>
      have hprint' : print? (line ++ [';']) = none := by
        rw [← Option.not_isSome_iff_eq_none, isSome_print?, isSome_after?_semicolon (by decide),
          ← isSome_print?, hprint]
        exact Bool.false_ne_true
      rw [hprint', Option.getD_none, Option.getD_none]
      refine iff_of_true (terminate_semicolon hne hend) fun htakes => ?_
      have hbuiltin := htakes.isSome
      rw [hinput, hprint] at hbuiltin
      exact absurd hbuiltin (by decide)

theorem convert_semicolon_iff_input :
    let unknown := "Input  char c".toList
    let printed := "print(x".toList
    (unknown ≠ [] ∧ Text.trim unknown = unknown ∧
        ∀ c ∈ unknown.getLast?, isTerminator c = false) ∧
      ¬TakesEnd unknown ∧ empty.convert (unknown ++ [';']) = empty.convert unknown ∧
      (printed ≠ [] ∧ Text.trim printed = printed ∧
        ∀ c ∈ printed.getLast?, isTerminator c = false) ∧
      TakesEnd printed ∧ empty.convert (printed ++ [';']) ≠ empty.convert printed := by
  intro unknown printed
  have hunknown : unknown ≠ [] ∧ Text.trim unknown = unknown ∧
      ∀ c ∈ unknown.getLast?, isTerminator c = false :=
    ⟨by decide, by decide, isTerminator_getLast? rfl (by decide)⟩
  have hprinted : printed ≠ [] ∧ Text.trim printed = printed ∧
      ∀ c ∈ printed.getLast?, isTerminator c = false :=
    ⟨by decide, by decide, isTerminator_getLast? rfl (by decide)⟩
  have hkept : ¬TakesEnd unknown := by
    have hunknownWords : Text.words unknown = ["Input".toList, "char".toList, "c".toList] := by
      decide
    rw [takesEnd_iff_of_input (by decide), hunknownWords]
    rintro (hwords | ⟨first, ty, name, hwords, hread⟩)
    · exact absurd hwords (by decide)
    · cases hwords
      exact absurd hread (by decide)
  have htakes : TakesEnd printed := .printed (by decide)
  exact ⟨hunknown, hkept, (convert_semicolon_iff hunknown.1 hunknown.2.1 hunknown.2.2).mpr hkept,
    hprinted, htakes, fun heq =>
      (convert_semicolon_iff hprinted.1 hprinted.2.1 hprinted.2.2).mp heq htakes⟩

/-- A semicolon is printed with the expression, and read as a part of the name. -/
theorem convert_semicolon_takenIn :
    let printed := "print x".toList
    let read := "input int x".toList
    (Text.trim printed = printed ∧ ∀ c ∈ printed.getLast?, isTerminator c = false) ∧
      empty.convert printed = "System.out.println(x);".toList ∧
      empty.convert (printed ++ [';']) = "System.out.println(x;);".toList ∧
      (Text.trim read = read ∧ ∀ c ∈ read.getLast?, isTerminator c = false) ∧
      empty.convert read = "int x = sc.nextInt();".toList ∧
      empty.convert (read ++ [';']) = "int x; = sc.nextInt();".toList := by
  intro printed read
  have hend {line : Text} (hx : line.getLast? = some 'x') :
      ∀ c ∈ line.getLast?, isTerminator c = false := isTerminator_getLast? hx (by decide)
  exact ⟨⟨by decide, hend rfl⟩, by decide, by decide, ⟨by decide, hend rfl⟩, by decide, by decide⟩

end Rulebook
end Pseudocode
