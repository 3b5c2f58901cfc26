import Pseudocode.Proofs.KeywordLines

/-!
# The type of a field, by shape and by words

The shape of a field lets a visibility run into the type, while the words of a line take the two for
one word. The type is then another, and where the rest of the word leads statements the line has no
shape of a field though its words declare one. In every other line the shape goes by the type that
the words give.
-/

namespace Pseudocode
namespace Line

/-- A line of a type and a name, perhaps with a visibility before them, and white space between the
words. -/
inductive HasType : (line ty : Text) → Prop
  | bare {line ty name ending : Text} (h : TypeAndName line ty name ending) : HasType line ty
  | visible {v : Visibility} {head rest ty name ending : Text}
      (hword : Text.sameWord head v.word = true) (h : TypeAndName rest ty name ending)
      (hgap : rest.head?.any Text.isWhite = true) : HasType (head ++ rest) ty

/-- A visibility begins the line and runs into a word that leads statements. -/
def JoinsKeyword (line : Text) : Prop :=
  ∃ (v : Visibility) (head rest : Text), line = head ++ rest ∧
    Text.sameWord head v.word = true ∧ IsLed rest

variable {line rest ty : Text}

/-! ### The visibility at the start of a line -/

lemma visibility_unique {v v' : Visibility} (h : Text.beginsWith v.word line = true)
    (h' : Text.beginsWith v'.word line = true) : v = v' := by
  have hlength : (v.word.take 3).length = (v'.word.take 3).length := by
    cases v <;> cases v' <;> rfl
  have hletters := Text.map_asciiLower_eq_of_beginsWith (Text.beginsWith_take h 3)
    (Text.beginsWith_take h' 3) hlength
  cases v <;> cases v' <;> first | rfl | exact absurd hletters (by decide)

lemma afterVisibility?_append {v : Visibility} {head : Text}
    (h : Text.sameWord head v.word = true) (rest : Text) :
    afterVisibility? (head ++ rest) = some rest := by
  have hv : v ∈ Visibility.list := by cases v <;> decide
  have hrest : Keyword.after? v.word (head ++ rest) = some rest := Keyword.after?_append h rest
  obtain ⟨found, hfound⟩ : ∃ found, afterVisibility? (head ++ rest) = some found := by
    rw [← Option.isSome_iff_exists, afterVisibility?, List.findSome?_isSome_iff]
    exact ⟨v, hv, by rw [hrest]; rfl⟩
  obtain ⟨v', -, hv'⟩ := List.exists_of_findSome?_eq_some hfound
  have hsame : v = v' := visibility_unique
    (Keyword.isSome_after?_iff_beginsWith.mp (Option.isSome_of_eq_some hrest))
    (Keyword.isSome_after?_iff_beginsWith.mp (Option.isSome_of_eq_some hv'))
  rw [hfound, ← hv', ← hsame, hrest]

lemma joinsKeyword_iff (line : Text) :
    JoinsKeyword line ↔ (afterVisibility? line).any (fun rest =>
      Keyword.leadsStatement (rest.takeWhile Text.isWordChar)) = true := by
  rw [Option.any_eq_true]
  constructor
  · rintro ⟨v, head, rest, rfl, hword, hkeyword⟩
    exact ⟨rest, afterVisibility?_append hword rest, hkeyword⟩
  · rintro ⟨rest, hrest, hkeyword⟩
    obtain ⟨v, head, hline, hword⟩ := exists_of_afterVisibility? hrest
    exact ⟨v, head, rest, hline, hword, hkeyword⟩

instance (line : Text) : Decidable (JoinsKeyword line) :=
  decidable_of_iff' _ (joinsKeyword_iff line)

lemma isField_of_fieldType? (h : fieldType? line = some ty) :
    isField line = true ↔ Keyword.leadsStatement ty = false := by
  rw [isField, h, Option.any_some, Bool.not_eq_true']

/-! ### The two forms of a line -/

lemma isField_iff_of_visible {v : Visibility} {head name ending : Text}
    (hword : Text.sameWord head v.word = true) (h : TypeAndName rest ty name ending)
    (hgap : rest.head?.any Text.isWhite = true) :
    (isField (head ++ rest) = true ↔ Keyword.leadsStatement ty = false) ∧
      ¬JoinsKeyword (head ++ rest) := by
  have hafter := afterVisibility?_append hword rest
  have htype : fieldType? (head ++ rest) = some ty := by
    rw [fieldType?, hafter, Option.bind_some, h.typeOfField?_eq]
    rfl
  refine ⟨isField_of_fieldType? htype, ?_⟩
  obtain ⟨c, hc, hwhite⟩ := (Option.any_eq_true _ _).mp hgap
  obtain ⟨rest, rfl⟩ := List.head?_eq_some_iff.mp hc
  have hsign := Bool.eq_false_iff.mp (Text.isWordChar_eq_false_of_isWhite hwhite)
  rw [joinsKeyword_iff, hafter, Option.any_some, List.takeWhile_cons_of_neg hsign]
  decide

/-- A visibility at the start of a type is cut off it, which leaves a shorter type if anything. -/
lemma TypeAndName.exists_type_of_visibility {v : Visibility} {head name ending : Text}
    (hword : Text.sameWord head v.word = true) (h : TypeAndName (head ++ rest) ty name ending) :
    ∃ ty', ty = head ++ ty' ∧ rest.takeWhile Text.isWordChar = ty' ∧
      (ty' ≠ [] → TypeAndName rest ty' name ending) := by
  have hhead : head.IsWord := isWord_of_visibility hword
  have hrun : (head ++ rest).takeWhile Text.isWordChar =
      head ++ rest.takeWhile Text.isWordChar := List.takeWhile_append_of_pos hhead.2
  -- the first word of the line is the type, and the visibility is the start of it
  obtain ⟨hty, gap, hgap, hne, hline⟩ :=
    h.exists_of_takeWhile (hrun ▸ List.append_ne_nil_of_left_ne_nil hhead.1 _)
  rw [hrun] at hty
  refine ⟨_, hty.symm, rfl, fun hne' => ?_⟩
  rw [← hty, List.append_assoc, List.append_cancel_left_eq] at hline
  exact ⟨⟨hne', fun _ hc => List.mem_takeWhile_imp hc⟩, h.isWord_name, h.ending_eq, [], gap,
    fun _ hc => absurd hc List.not_mem_nil, hgap, hne, hline⟩

/-- In a line without a visibility of its own the shape goes by what is left of a type that begins
with one. -/
lemma isField_iff_of_bare {name ending : Text} (h : TypeAndName line ty name ending)
    (hno : Visibility.ofWord? ty = none) :
    (isField line = true ↔ Keyword.leadsStatement ty = false) ↔ ¬JoinsKeyword line := by
  rw [joinsKeyword_iff]
  cases hafter : afterVisibility? line with
  | none =>
    have htype : fieldType? line = some ty := by
      rw [fieldType?, hafter]
      exact h.typeOfField?_eq
    exact iff_of_true (isField_of_fieldType? htype) Bool.false_ne_true
  | some rest =>
    obtain ⟨v, head, rfl, hword⟩ := exists_of_afterVisibility? hafter
    obtain ⟨ty', rfl, hrun, hparts⟩ := h.exists_type_of_visibility hword
    have hne : ty' ≠ [] := by
      rintro rfl
      obtain ⟨w, hw⟩ := Visibility.exists_ofWord? hword
      rw [List.append_nil, hw] at hno
      exact Option.some_ne_none _ hno
    have htype : fieldType? (head ++ rest) = some ty' := by
      rw [fieldType?, hafter, Option.bind_some, (hparts hne).typeOfField?_eq]
      rfl
    rw [isField_of_fieldType? htype, leadsStatement_visibility_append hword, Option.any_some, hrun]
    simp

/-! ### The type by the words -/

/-- The shape of a line whose words declare a field goes by the type that they give if and only if
no visibility at the start of the line runs into a word that leads statements. -/
theorem isField_iff_of_hasType {f : Field} (h : HasType line ty)
    (hf : FieldEntry.ofLine line = .declared f) :
    f.ty = Statement.typeName ty ∧
      ((isField line = true ↔ Keyword.leadsStatement ty = false) ↔ ¬JoinsKeyword line) := by
  cases h with
  | bare h =>
    cases hv : Visibility.ofWord? ty with
    | some v =>
      rw [FieldEntry.ofLine_of_visibility h.words_eq hv] at hf
      cases hf
    | none =>
      rw [FieldEntry.ofLine_of_no_visibility h.words_eq hv] at hf
      cases hf
      exact ⟨rfl, isField_iff_of_bare h hv⟩
  | visible hword h hgap =>
    obtain ⟨v, hv⟩ := Visibility.exists_ofWord? hword
    rw [FieldEntry.ofLine_of_visibility (h.words_append (isWord_of_visibility hword) hgap) hv] at hf
    cases hf
    obtain ⟨hshape, hjoins⟩ := isField_iff_of_visible hword h hgap
    exact ⟨rfl, iff_of_true hshape hjoins⟩

theorem isField_iff_of_hasType_public :
    let visible := "PRIVATE publicPrint\tx;".toList
    let bare := "publicInt x".toList
    let ty := "publicPrint".toList
    let ty' := "publicInt".toList
    HasType visible ty ∧ FieldEntry.ofLine visible = .declared ⟨.owner, ty, ['x']⟩ ∧
      ¬JoinsKeyword visible ∧ (isField visible = true ↔ Keyword.leadsStatement ty = false) ∧
      HasType bare ty' ∧ FieldEntry.ofLine bare = .declared ⟨.owner, ty', ['x']⟩ ∧
      ¬JoinsKeyword bare ∧ (isField bare = true ↔ Keyword.leadsStatement ty' = false) := by
  intro visible bare ty ty'
  have hparts : TypeAndName " publicPrint\tx;".toList ty ['x'] [';'] :=
    ⟨by decide, by decide, .inr rfl, [' '], ['\t'], by decide, by decide, by decide, rfl⟩
  have hparts' : TypeAndName bare ty' ['x'] [] :=
    ⟨by decide, by decide, .inl rfl, [], [' '], by decide, by decide, by decide, rfl⟩
  have howner : Text.sameWord "PRIVATE".toList Visibility.owner.word = true := by decide
  have hvisible : HasType visible ty := .visible howner hparts rfl
  have hbare : HasType bare ty' := .bare hparts'
  have hline : FieldEntry.ofLine visible = .declared ⟨.owner, ty, ['x']⟩ := by decide
  have hline' : FieldEntry.ofLine bare = .declared ⟨.owner, ty', ['x']⟩ := by decide
  have hapart : ¬JoinsKeyword visible := by decide
  have hapart' : ¬JoinsKeyword bare := by decide
  exact ⟨hvisible, hline, hapart, (isField_iff_of_hasType hvisible hline).2.mpr hapart, hbare,
    hline', hapart', (isField_iff_of_hasType hbare hline').2.mpr hapart'⟩

/-- A type that is a visibility and a word of statements in one word is no type to the shape. -/
theorem isField_of_joined_type :
    let line := "publicprint x".toList
    let ty := "publicprint".toList
    HasType line ty ∧ FieldEntry.ofLine line = .declared ⟨.owner, ty, ['x']⟩ ∧
      Keyword.leadsStatement ty = false ∧ isField line = false := by
  intro line ty
  have hparts : TypeAndName line ty ['x'] [] :=
    ⟨by decide, by decide, .inl rfl, [], [' '], by decide, by decide, by decide, rfl⟩
  exact ⟨.bare hparts, by decide, by decide, by decide⟩

end Line
end Pseudocode
