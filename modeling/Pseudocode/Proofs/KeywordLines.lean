import Pseudocode.Proofs.BuiltinWords
import Pseudocode.Proofs.FieldBlock

/-!
# Lines led by a keyword

A line whose first word leads statements is a statement wherever a scan stands, even if it has the
form of a field or of a method header. Two different notions of a word see to that: the shape of a
field goes by word characters, and headers by letters and numerals. Where the second takes in a
numeral that is no word character, the line is no header for want of a parenthesis after its first
word.
-/

namespace Pseudocode

/-- The first word of the line leads statements. -/
def Line.IsLed (line : Text) : Prop :=
  Keyword.leadsStatement (line.takeWhile Text.isWordChar) = true

instance (line : Text) : Decidable (Line.IsLed line) := inferInstanceAs (Decidable (_ = true))

/-! ### No header with a keyword, and no closing line -/

namespace Line

variable {line : Text}

lemma key_of_classHeader {header : ClassHeader} (h : ClassHeader.ofLine? line = some header) :
    key line = "class".toList := by
  obtain ⟨hkeyword, c, rest, hdrop, hwhite, -⟩ := ClassHeader.ofLine?_eq_some_iff.mp h
  have hsign : ∀ d ∈ (c :: rest).head?, Text.isWordChar d = false :=
    isWordChar_head?_white (List.cons_ne_nil c []) (List.forall_mem_singleton.mpr hwhite)
  rw [← List.take_append_drop 5 line, hdrop,
    key_append (isWordChar_of_map_fold (by decide) hkeyword) hsign, hkeyword]

lemma key_of_methodHeader {header : Text} (h : methodHeader? line = some header) :
    key line = "function".toList := by
  obtain ⟨rest, hrest, -⟩ := Option.map_eq_some_iff.mp h
  obtain ⟨head, rfl, hword⟩ := Keyword.append_of_after? hrest
  have hfold : (head.take 8).map Text.fold = "function".toList :=
    Text.map_fold_eq_of_sameWord (by decide) (Text.sameWord_take hword 8)
  obtain ⟨c, cs, hdrop, hspace, -⟩ := Text.sameWord_cons (Text.sameWord_drop hword 8)
  obtain rfl : c = ' ' := Text.eq_space_of_sameLetter hspace
  have hsign : ∀ d ∈ (' ' :: (cs ++ rest)).head?, Text.isWordChar d = false :=
    isWordChar_head?_white (t := [' ']) (List.cons_ne_nil _ _) (by decide)
  rw [← List.take_append_drop 8 head, hdrop, List.append_assoc, List.cons_append,
    key_append (isWordChar_of_map_fold (by decide) hfold) hsign, hfold]

lemma key_of_closesMethod (h : closesMethod line = true) : key line = "endfunction".toList := by
  have hfold : line.map Text.fold = "endfunction".toList :=
    Text.map_fold_eq_of_sameWord (by decide) h
  have hkey := key_append (b := []) (isWordChar_of_map_fold (by decide) hfold) (by simp)
  rwa [List.append_nil, hfold] at hkey

namespace IsLed

lemma exists_sameWord (h : IsLed line) :
    ∃ w ∈ Keyword.statementWords, Text.sameWord (line.takeWhile Text.isWordChar) w = true := by
  obtain ⟨w, hw, hword⟩ := List.any_eq_true.mp h
  exact ⟨w, hw, Text.sameWord_iff.mpr (Text.sameWord_iff.mp hword).symm⟩

lemma word_ne_nil (h : IsLed line) : line.takeWhile Text.isWordChar ≠ [] := by
  intro hnil
  rw [IsLed, hnil] at h
  exact absurd h (by decide)

lemma ne_nil (h : IsLed line) : line ≠ [] := by
  rintro rfl
  exact h.word_ne_nil rfl

lemma key_mem (h : IsLed line) : key line ∈ Keyword.statementWords := by
  obtain ⟨w, hw, hword⟩ := h.exists_sameWord
  have hsmall : ∀ w ∈ Keyword.statementWords, (w.all fun d => (Text.asciiLower d).toNat < 128) ∧
      w.map Text.asciiLower = w := by decide
  obtain ⟨hascii, hlower⟩ := hsmall w hw
  rwa [key, Text.map_fold_eq_of_sameWord hascii hword, hlower]

/-- The keywords of headers and of closing lines lead no statement. -/
lemma isBody (h : IsLed line) : IsBody line := by
  have hkey {w : Text} (hkey : key line = w) : w ∈ Keyword.statementWords := hkey ▸ h.key_mem
  refine ⟨?_, ?_, ?_⟩
  · exact Option.eq_none_iff_forall_ne_some.mpr fun header hheader =>
      absurd (hkey (key_of_classHeader hheader)) (by decide)
  · exact Option.eq_none_iff_forall_ne_some.mpr fun header hheader =>
      absurd (hkey (key_of_methodHeader hheader)) (by decide)
  · exact Bool.eq_false_iff.mpr fun hclose => absurd (hkey (key_of_closesMethod hclose)) (by decide)

/-! ### No field -/

lemma afterVisibility?_eq_none (h : IsLed line) : afterVisibility? line = none := by
  refine Option.eq_none_iff_forall_ne_some.mpr fun rest hrest => ?_
  obtain ⟨v, head, rfl, hword⟩ := exists_of_afterVisibility? hrest
  have hhead : head.IsWord := isWord_of_visibility hword
  rw [IsLed, List.takeWhile_append_of_pos hhead.2, leadsStatement_visibility_append hword] at h
  exact Bool.noConfusion h

lemma isField_eq_false (h : IsLed line) : isField line = false := by
  rw [isField, fieldType?, h.afterVisibility?_eq_none]
  refine (Option.any_eq_false _ _).mpr fun ty hty => ?_
  obtain ⟨name, ending, hparts⟩ := exists_of_typeOfField? hty
  rw [← (hparts.exists_of_takeWhile h.word_ne_nil).1, h]
  rfl

end IsLed
end Line

/-! ### No header without a keyword -/

lemma Text.isWhite_eq_false_of_isStatementChar {c : Char} (h : Keyword.isStatementChar c = true) :
    isWhite c = false :=
  isWhite_eq_false_of_class (by decide +kernel) h

lemma HeaderParts.ofText?_word_append {word : Text} {c : Char} (hword : word.IsWord)
    (hsign : Text.isWordChar c = false) (hwhite : Text.isWhite c = false) (hparen : c ≠ '(')
    (rest : Text) : ofText? (word ++ c :: rest) = none := by
  have hspan : Text.spanWord (word ++ c :: rest) = (word, c :: rest) :=
    Text.spanWord_append hword.2 fun d hd => Option.some.inj hd ▸ hsign
  have hparameters : parameters? (c :: rest) = none := by
    rw [parameters?, Text.trimStart, List.dropWhile_cons_of_neg (Bool.eq_false_iff.mp hwhite)]
    split
    · rename_i hc
      exact absurd (List.cons.inj hc).1 hparen
    · rfl
  obtain ⟨a, word, rfl⟩ := List.exists_cons_of_ne_nil hword.1
  rw [ofText?, hspan]
  simp [hparameters, hwhite]

namespace Line.IsLed

variable {line : Text}

/-- The line begins a statement, or it goes on after its first word with a numeral that is no word
character. -/
lemma startsStatement_or (h : IsLed line) :
    Keyword.startsStatement line = true ∨ ∃ (word : Text) (c : Char) (rest : Text),
      line = word ++ c :: rest ∧ word.IsWord ∧ Text.isWordChar c = false ∧
        Keyword.isStatementChar c = true := by
  have hsplit : line.takeWhile Text.isWordChar ++ line.dropWhile Text.isWordChar = line :=
    List.takeWhile_append_dropWhile
  obtain ⟨w, hw, hword⟩ := h.exists_sameWord
  have hrun : ∀ c ∈ line.takeWhile Text.isWordChar, Keyword.isStatementChar c = true := by
    have hsmall : ∀ w ∈ Keyword.statementWords, ∀ d ∈ w, 'a' ≤ d ∧ d ≤ 'z' := by decide
    intro c hc
    obtain ⟨d, hd, hletter⟩ := Text.exists_sameLetter_of_mem hword hc
    exact Keyword.isStatementChar_of_sameLetter (hsmall w hw d hd) hletter
  have hfirst : firstWord line = line.takeWhile Text.isWordChar ++
      (line.dropWhile Text.isWordChar).takeWhile Keyword.isStatementChar := by
    rw [← List.takeWhile_append_of_pos hrun, hsplit, firstWord]
  have hstarts (hend : firstWord line = line.takeWhile Text.isWordChar) :
      Keyword.startsStatement line = true := (congrArg Keyword.leadsStatement hend).trans h
  cases hrest : line.dropWhile Text.isWordChar with
  | nil =>
    rw [hrest, List.takeWhile_nil, List.append_nil] at hfirst
    exact .inl (hstarts hfirst)
  | cons c rest =>
    cases hc : Keyword.isStatementChar c with
    | false =>
      rw [hrest, List.takeWhile_cons_of_neg (Bool.eq_false_iff.mp hc), List.append_nil] at hfirst
      exact .inl (hstarts hfirst)
    | true =>
      have hsign : Text.isWordChar c = false := by
        have hhead := List.head?_dropWhile_not Text.isWordChar line
        rw [hrest] at hhead
        simpa using hhead
      exact .inr ⟨_, c, rest, hrest ▸ hsplit.symm, ⟨h.word_ne_nil, fun _ hd =>
        List.mem_takeWhile_imp hd⟩, hsign, hc⟩

lemma signature_eq_none (h : IsLed line) (htrim : Text.trim line = line) (owner : Text) :
    Signature.ofLine? owner line = none := by
  unfold Signature.ofLine?
  split_ifs with hstarts
  · rfl
  · obtain ⟨word, c, rest, hline, hword, hsign, hc⟩ := h.startsStatement_or.resolve_left hstarts
    have hparen : c ≠ '(' := by
      rintro rfl
      exact absurd hc (by decide)
    rw [Signature.ofHeader?, htrim, hline, HeaderParts.ofText?_word_append hword hsign
      (Text.isWhite_eq_false_of_isStatementChar hc) hparen]
    rfl

end Line.IsLed

/-! ### The step of a scan -/

namespace Place

variable {book : Rulebook} {defaultClass : Text} {line : Text}

lemma move_isLed_inMethod (h : Line.IsLed line) (owner : Text) (signature : Signature)
    (body : List Text) :
    (inMethod owner signature body).move book defaultClass line =
      ([], .inMethod owner signature (body ++ [book.convert line])) :=
  (Moves.body owner signature body h.ne_nil h.isBody).move_eq

lemma move_isLed {place : Place} (h : Line.IsLed line) (htrim : Text.trim line = line)
    (hplace : place.isOpen = false) :
    place.move book defaultClass line =
      (place.entry defaultClass ++
        [⟨place.className defaultClass, .statement (book.convert line)⟩],
        .inClass (place.className defaultClass)) := by
  have hcontent : Line.content book line = .statement (book.convert line) :=
    if_neg (Bool.eq_false_iff.mp h.isField_eq_false)
  have hmove : Moves book defaultClass place line _ _ := .content hplace h.ne_nil
    h.isBody.no_class h.isBody.no_method (h.signature_eq_none htrim (place.className defaultClass))
  rw [hmove.move_eq, hcontent]

end Place

/-! ### The scan of a text -/

namespace Scan

variable (book : Rulebook) (defaultClass : Text)

lemma after_concat (lines : List Text) (line : Text) :
    after book defaultClass (lines ++ [line]) =
      (after book defaultClass lines).step book defaultClass (Text.trim line) :=
  List.foldl_append

lemma className_after (lines : List Text) :
    (after book defaultClass lines).place.className defaultClass = lastClass defaultClass lines := by
  rw [after_eq]
  exact Place.className_reach .outside lines

lemma after_blank {lines : List Text} (h : ∀ line ∈ lines, Text.isBlank line = true) :
    after book defaultClass lines = start := by
  have hnone : nonBlank lines = [] :=
    List.filter_eq_nil_iff.mpr fun line hline => by simp [h line hline]
  rw [← after_nonBlank, hnone]
  rfl

lemma lastClass_mem_names {lines : List Text} (h : ∃ line ∈ lines, Text.isBlank line = false) :
    lastClass defaultClass lines ∈ (after book defaultClass lines).outline.names := by
  obtain ⟨line, hline, hsign⟩ := h
  have hinv := invariant_after book defaultClass lines
  have hname := className_after book defaultClass lines
  cases hplace : (after book defaultClass lines).place with
  | outside => exact Bool.noConfusion (hsign.symm.trans (hinv.outside.mp hplace line hline))
  | inClass owner | inMethod owner =>
    rw [hplace] at hname
    exact hname ▸ hinv.active owner (by rw [hplace]; rfl)

/-- A line whose first word leads statements adds one statement, to the open method or else to the
class of the last class header, and changes nothing else. The class is known by then, but for blank
lines, after which it is the default class and comes first. -/
theorem after_isLed (lines : List Text) {line : Text} (h : Line.IsLed (Text.trim line)) :
    let scan := after book defaultClass lines
    let next := after book defaultClass (lines ++ [line])
    let statement := book.convert (Text.trim line)
    let name := lastClass defaultClass lines
    (∀ owner signature body, scan.place = .inMethod owner signature body →
      next = ⟨scan.outline, .inMethod owner signature (body ++ [statement])⟩) ∧
    (scan.place.isOpen = false →
      next = ⟨scan.outline.update name (·.addStatement statement), .inClass name⟩) ∧
    ((∃ line ∈ lines, Text.isBlank line = false) → name ∈ scan.outline.names) ∧
    ((∀ line ∈ lines, Text.isBlank line = true) → scan = start ∧ name = defaultClass) := by
  intro scan next statement name
  have hnext : next = scan.step book defaultClass (Text.trim line) :=
    after_concat book defaultClass lines line
  have hname : scan.place.className defaultClass = name := className_after book defaultClass lines
  refine ⟨fun owner signature body hplace => ?_, fun hplace => ?_,
    lastClass_mem_names book defaultClass, fun hblank => ?_⟩
  · rw [hnext, step_eq, hplace, Place.move_isLed_inMethod h]
    rfl
  · -- the class is declared first if the line is the first of the text
    have hedit : (scan.outline.replay (scan.place.entry defaultClass)).apply
        ⟨scan.place.className defaultClass, .statement (book.convert (Text.trim line))⟩ =
          scan.outline.apply ⟨_, .statement (book.convert (Text.trim line))⟩ :=
      (Place.replay_entry_apply _ _ _).trans (Outline.apply_declare _ _)
    rw [hnext, step_eq, Place.move_isLed h (Text.trim_trim line) hplace, Outline.replay_append,
      Outline.replay_cons, hedit, hname]
    rfl
  · have hstart : scan = start := after_blank book defaultClass hblank
    rw [hstart] at hname
    exact ⟨hstart, hname.symm⟩

theorem after_isLed_next :
    let inMethod := ["class Dog, Animal", "int age;", "function bark()", "print 1"].map String.toList
    let inClass := ["class Dog, Animal", "speak(int n)", "endfunction"].map String.toList
    let blank := ["", "\t "].map String.toList
    let bark : Signature := ⟨"Dog".toList, .method, "bark".toList, some "void".toList, [], none⟩
    let scan := after .empty "Main".toList
    Line.IsLed (Text.trim " PRINT greet(name)".toList) ∧ Line.IsLed (Text.trim "next i".toList) ∧
      Line.IsLed (Text.trim "if² (x)".toList) ∧
      (scan inMethod).place = .inMethod "Dog".toList bark ["System.out.println(1);".toList] ∧
      scan (inMethod ++ [" PRINT greet(name)".toList]) = ⟨(scan inMethod).outline,
        .inMethod "Dog".toList bark
          (["System.out.println(1);", "System.out.println(greet(name));"].map String.toList)⟩ ∧
      (scan inClass).place.isOpen = false ∧
      scan (inClass ++ ["next i".toList]) =
        ⟨(scan inClass).outline.update "Dog".toList (·.addStatement "next i;".toList),
          .inClass "Dog".toList⟩ ∧
      "Dog".toList ∈ (scan inClass).outline.names ∧ scan blank = start ∧
      scan (blank ++ ["if² (x)".toList]) =
        ⟨⟨[⟨"Main".toList, none, [], [], ["if² (x);".toList]⟩]⟩, .inClass "Main".toList⟩ := by
  intro inMethod inClass blank bark scan
  have hprint : Line.IsLed (Text.trim " PRINT greet(name)".toList) := by decide
  have hnext : Line.IsLed (Text.trim "next i".toList) := by decide
  have hif : Line.IsLed (Text.trim "if² (x)".toList) := by decide
  have hmethod : (scan inMethod).place =
      .inMethod "Dog".toList bark ["System.out.println(1);".toList] := by decide +kernel
  have hclass : (scan inClass).place.isOpen = false := by decide +kernel
  obtain ⟨hbody, -⟩ := after_isLed .empty "Main".toList inMethod hprint
  obtain ⟨-, hentry, hknown, -⟩ := after_isLed .empty "Main".toList inClass hnext
  obtain ⟨-, hfirst, -, hstart⟩ := after_isLed .empty "Main".toList blank hif
  have hblank : scan blank = start := (hstart (by decide)).1
  refine ⟨hprint, hnext, hif, hmethod, (hbody _ _ _ hmethod).trans ?_, hclass,
    (hentry hclass).trans ?_, hknown (by decide), hblank, (hfirst ?_).trans ?_⟩
  · decide +kernel
  · decide +kernel
  · exact congrArg (Place.isOpen ·.place) hblank
  · decide +kernel

end Scan
end Pseudocode
