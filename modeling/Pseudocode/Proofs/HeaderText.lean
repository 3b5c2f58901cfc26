import Pseudocode.Proofs.HeaderGrammar

/-!
# Headers read back from declarations

A declaration names the type and the method with one space between them and its parameters between
parentheses, which end it. Read as a header it falls into these parts again, and the parts into the
words and pieces from which they were written.
-/

namespace Pseudocode

namespace Text

lemma dropStart?_append (start t : Text) : dropStart? start (start ++ t) = some t := by
  induction start with
  | nil => cases t <;> rfl
  | cons c start ih => rw [List.cons_append, dropStart?, if_pos rfl, ih]

lemma IsWord.trim_append_concat {t : Text} (h : t.IsWord) (s : Text) {c : Char}
    (hc : isWhite c = false) : trim (t ++ (s ++ [c])) = t ++ (s ++ [c]) := by
  apply trim_eq_self
  · intro d hd
    rw [List.head?_append_of_ne_nil _ h.1] at hd
    exact h.isWhite_eq_false d (List.mem_of_mem_head? hd)
  · intro d hd
    rw [← List.append_assoc, List.getLast?_concat, Option.mem_some_iff] at hd
    exact hd ▸ hc

end Text

/-! ### Signatures -/

namespace Signature

variable {owner name ty : Text} {parameters : List Parameter}

lemma ofHeader?_constructor (howner : owner.IsWord)
    (hline : '\n' ∉ Parameter.written parameters) :
    ofHeader? owner (owner ++ parentheses parameters) =
      some ⟨owner, .constructor, owner, none,
        Parameter.listOfText (Parameter.written parameters), none⟩ := by
  have htrim : Text.trim (owner ++ parentheses parameters) = owner ++ parentheses parameters :=
    howner.trim_append_concat ('(' :: Parameter.written parameters) (by decide)
  have hread : HeaderParts.ofText? (owner ++ '(' :: (Parameter.written parameters ++ [')'])) =
      some ⟨none, owner, Parameter.written parameters⟩ :=
    (@HeaderParts.Writes.untyped _ [] _ howner (List.forall_mem_nil _) hline).ofText?_eq
  rw [ofHeader?, htrim, parentheses, List.cons_append, hread, Option.map_some, if_pos rfl]

lemma ofHeader?_method (hne : name ≠ owner) (hty : ty.IsWord) (hname : name.IsWord)
    (hline : '\n' ∉ Parameter.written parameters) :
    ofHeader? owner (ty ++ ' ' :: (name ++ parentheses parameters)) =
      some ⟨owner, .method, name, some (Statement.typeName ty),
        Parameter.listOfText (Parameter.written parameters), none⟩ := by
  have hconcat : ' ' :: (name ++ parentheses parameters) =
      (' ' :: (name ++ '(' :: Parameter.written parameters)) ++ [')'] := by
    rw [parentheses, List.cons_append, List.cons_append, List.append_assoc, List.cons_append]
  have htrim : Text.trim (ty ++ ' ' :: (name ++ parentheses parameters)) =
      ty ++ ' ' :: (name ++ parentheses parameters) := by
    rw [hconcat]
    exact hty.trim_append_concat _ (by decide)
  have hread : HeaderParts.ofText?
      (ty ++ ' ' :: (name ++ '(' :: (Parameter.written parameters ++ [')']))) =
        some ⟨some ty, name, Parameter.written parameters⟩ :=
    (@HeaderParts.Writes.typed _ [' '] _ [] _ hty (List.cons_ne_nil _ _) (by decide) hname
      (List.forall_mem_nil _) hline).ofText?_eq
  rw [ofHeader?, htrim, parentheses, List.cons_append, hread, Option.map_some, if_neg hne]
  rfl

/-- A header that can be read has a declaration, and the declaration after its first word is read as
the same header, whatever its form, its parameters and the white space in it. -/
theorem ofHeader?_declaration {owner header : Text} {s : Signature}
    (h : ofHeader? owner header = some s) :
    (Text.dropStart? "public ".toList s.declaration).bind (ofHeader? owner) = some s ∧
      s.diagnostic = none := by
  obtain ⟨parts, hparts, rfl⟩ := Option.map_eq_some_iff.mp h
  obtain ⟨hname, hreturn, -⟩ := HeaderParts.of_ofText? hparts
  have hline : '\n' ∉ Parameter.written (Parameter.listOfText parts.parameters) := by
    intro hmem
    rcases Parameter.mem_of_mem_written hmem with hmem | hmem | hmem
    · exact absurd hmem (by decide)
    · exact absurd hmem (by decide)
    · exact (HeaderParts.writes_of_ofText? hparts).lineFeed_notMem hmem
  by_cases howner : parts.name = owner
  · subst howner
    rw [if_pos rfl, declaration_constructor, Text.dropStart?_append, Option.bind_some,
      ofHeader?_constructor hname hline, Parameter.listOfText_written]
    exact ⟨rfl, rfl⟩
  · have hty : ((parts.returnType.map Statement.typeName).getD noValue).IsWord := by
      cases hcase : parts.returnType with
      | none => decide
      | some ty => exact Statement.isWord_typeName (hreturn ty hcase)
    have hcanonical : Statement.typeName ((parts.returnType.map Statement.typeName).getD noValue) =
        (parts.returnType.map Statement.typeName).getD noValue := by
      cases parts.returnType with
      | none => rfl
      | some ty => exact Statement.typeName_typeName ty
    rw [if_neg howner, declaration_method, Text.dropStart?_append, Option.bind_some,
      ofHeader?_method howner hty hname hline, Parameter.listOfText_written, hcanonical]
    exact ⟨rfl, rfl⟩

theorem ofHeader?_declaration_greet :
    let header := "\tSTRING  greet ( string who ,, int a b,f(x) )".toList
    let greet : Signature := ⟨"Dog".toList, .method, "greet".toList, some "String".toList,
      [.typed "String".toList "who".toList, .raw [], .raw "int a b".toList, .raw "f(x)".toList],
      none⟩
    let create : Signature := ⟨"Dog".toList, .constructor, "Dog".toList, none,
      [.typed "int".toList "age".toList], none⟩
    ofHeader? "Dog".toList header = some greet ∧
      greet.declaration = "public String greet(String who, , int a b, f(x))".toList ∧
      (Text.dropStart? "public ".toList greet.declaration).bind (ofHeader? "Dog".toList) =
        some greet ∧
      ofHeader? "Dog".toList "void Dog(int age)".toList = some create ∧
      (Text.dropStart? "public ".toList create.declaration).bind (ofHeader? "Dog".toList) =
        some create := by
  intro header greet create
  have hgreet : ofHeader? "Dog".toList header = some greet := by decide +kernel
  have hcreate : ofHeader? "Dog".toList "void Dog(int age)".toList = some create := by
    decide +kernel
  exact ⟨hgreet, by decide, (ofHeader?_declaration hgreet).1, hcreate,
    (ofHeader?_declaration hcreate).1⟩

end Signature
end Pseudocode
