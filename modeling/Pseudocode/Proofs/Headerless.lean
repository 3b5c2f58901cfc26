import Pseudocode.Proofs.Marker
import Pseudocode.Proofs.Merge
import Pseudocode.Proofs.OpenMethod
import Mathlib.Data.List.DropRight

/-!
# Texts without headers

A text without headers has its statements in the default class in either mode: in one for all
lines and in the other, after the header of that class, for those that are not blank. The rest
are blank statements, which a program leaves out.
-/

namespace Pseudocode
namespace Text

lemma exists_range_of_inRanges {n : Nat} {ranges : List (Nat × Nat)}
    (h : inRanges n ranges = true) : ∃ r ∈ ranges, r.1 ≤ n ∧ n ≤ r.2 := by
  induction ranges with
  | nil => simp [inRanges] at h
  | cons r rest ih =>
    rw [inRanges] at h
    split_ifs at h with hlo
    rw [Bool.or_eq_true, decide_eq_true_eq] at h
    rcases h with hhi | hrest
    · exact ⟨r, List.mem_cons_self, Nat.le_of_not_lt hlo, hhi⟩
    · obtain ⟨s, hs, hbounds⟩ := ih hrest
      exact ⟨s, List.mem_cons_of_mem r hs, hbounds⟩

lemma isWhite_eq_false_of_class {p : Char → Bool} {c : Char}
    (hp : ∀ r ∈ whiteSpace, ∀ k < r.2 - r.1 + 1, p (Char.ofNat (r.1 + k)) = false)
    (h : p c = true) : isWhite c = false := by
  refine Bool.eq_false_iff.mpr fun hwhite => ?_
  obtain ⟨r, hr, hlo, hhi⟩ := exists_range_of_inRanges hwhite
  have hclass := hp r hr (c.toNat - r.1) (by omega)
  rw [Nat.add_sub_cancel' hlo, Char.ofNat_toNat, h] at hclass
  exact Bool.noConfusion hclass

lemma isWhite_eq_false_of_isWordChar {c : Char} (h : isWordChar c = true) : isWhite c = false :=
  isWhite_eq_false_of_class (by decide +kernel) h

lemma isWordChar_eq_false_of_isWhite {c : Char} (h : isWhite c = true) : isWordChar c = false :=
  Bool.eq_false_iff.mpr fun hword =>
    Bool.noConfusion (h.symm.trans (isWhite_eq_false_of_isWordChar hword))

lemma trim_eq_self {t : Text} (hstart : ∀ c ∈ t.head?, isWhite c = false)
    (hend : ∀ c ∈ t.getLast?, isWhite c = false) : trim t = t := by
  have htrimStart : trimStart t = t := by
    cases t with
    | nil => rfl
    | cons c rest =>
      have hc : ¬isWhite c = true := Bool.eq_false_iff.mp (hstart c rfl)
      exact List.dropWhile_cons_of_neg hc
  rw [trim, htrimStart]
  exact List.rdropWhile_eq_self_iff.mpr fun hne =>
    Bool.eq_false_iff.mp (hend _ (List.getLast?_eq_some_getLast hne))

end Text

namespace ClassHeader

lemma name_of_ofNames? {t : Text} {header : ClassHeader} (h : ofNames? t = some header) :
    header.name = t.takeWhile Text.isWordChar ∧ header.name ≠ [] := by
  unfold ofNames? at h
  rw [Text.spanWord, List.span_eq_takeWhile_dropWhile] at h
  split at h
  · simp at h
  · rename_i name hne hspan
    rw [← Option.some.inj h]
    exact ⟨(congrArg Prod.fst hspan).symm, hne⟩
  · rename_i name rest hne _ hspan
    split at h
    · split at h
      · rw [← Option.some.inj h]
        exact ⟨(congrArg Prod.fst hspan).symm, hne⟩
      · simp at h
    · simp at h

variable {name : Text}

lemma word_of_ofLine? {line : Text} {header : ClassHeader} (h : ofLine? line = some header) :
    header.name ≠ [] ∧ ∀ c ∈ header.name, Text.isWordChar c = true := by
  obtain ⟨-, _, _, -, -, hnames⟩ := ofLine?_eq_some_iff.mp h
  obtain ⟨hname, hne⟩ := name_of_ofNames? hnames
  refine ⟨hne, fun c hc => ?_⟩
  rw [hname] at hc
  exact List.mem_takeWhile_imp hc

lemma trim_eq_self (h : ofLine? ("class ".toList ++ name) = some ⟨name, none⟩) :
    Text.trim ("class ".toList ++ name) = "class ".toList ++ name := by
  obtain ⟨hne, hword⟩ := word_of_ofLine? h
  apply Text.trim_eq_self
  · intro c hc
    obtain rfl : 'c' = c := Option.some.inj hc
    decide
  · intro c hc
    rw [List.getLast?_append_of_ne_nil _ hne] at hc
    exact Text.isWhite_eq_false_of_isWordChar (hword c (List.mem_of_mem_getLast? hc))

end ClassHeader

/-! ### Lines without headers -/

/-- A line that is no header and no field, in the class `owner`: a statement, if it is not
blank. -/
structure Line.IsPlain (owner line : Text) : Prop where
  no_marker : Line.isStructural line = false
  no_class : ClassHeader.ofLine? (Text.trim line) = none
  no_field : Line.isField (Text.trim line) = false
  no_signature : Signature.ofLine? owner (Text.trim line) = none

instance (owner line : Text) : Decidable (Line.IsPlain owner line) :=
  decidable_of_iff (Line.isStructural line = false ∧ ClassHeader.ofLine? (Text.trim line) = none ∧
      Line.isField (Text.trim line) = false ∧ Signature.ofLine? owner (Text.trim line) = none)
    ⟨fun h => ⟨h.1, h.2.1, h.2.2.1, h.2.2.2⟩,
      fun h => ⟨h.no_marker, h.no_class, h.no_field, h.no_signature⟩⟩

lemma Line.IsPlain.no_method {owner line : Text} (h : Line.IsPlain owner line) :
    Line.methodHeader? (Text.trim line) = none := by
  have hmarker : ¬Line.isStructural line = true := Bool.eq_false_iff.mp h.no_marker
  rw [Line.isStructural_iff, not_or] at hmarker
  exact Option.not_isSome_iff_eq_none.mp hmarker.2

variable {book : Rulebook} {defaultClass : Text}

lemma Place.log_plain {name : Text} {lines : List Text}
    (h : ∀ line ∈ lines, Line.IsPlain name line) :
    log book defaultClass (.inClass name) lines =
      ((bodyOf book lines).map .statement).map (Edit.mk name) := by
  induction lines with
  | nil => rfl
  | cons line rest ih =>
    obtain ⟨hline, hrest⟩ := List.forall_mem_cons.mp h
    by_cases hblank : Text.trim line = []
    · rw [log, hblank, (Moves.blank _).move_eq, bodyOf_cons, if_pos hblank]
      exact ih hrest
    · have hmove : Moves book defaultClass (.inClass name) (Text.trim line) _ _ :=
        .content rfl hblank hline.no_class hline.no_method hline.no_signature
      have hcontent : Line.content book (Text.trim line) =
          .statement (book.convert (Text.trim line)) := if_neg (Bool.eq_false_iff.mp hline.no_field)
      rw [log, hmove.move_eq, hcontent, bodyOf_cons, if_neg hblank]
      exact congrArg _ (ih hrest)

/-- A class with nothing but statements. -/
def ClassOutline.ofStatements (name : Text) (statements : List Text) : ClassOutline :=
  { ClassOutline.bare name none with statements }

lemma Outline.ofLines_plain {name : Text} {header : Text} {lines : List Text}
    (hheader : ClassHeader.ofLine? (Text.trim header) = some ⟨name, none⟩)
    (h : ∀ line ∈ lines, Line.IsPlain name line) :
    ofLines book defaultClass (header :: lines) =
      ⟨[.ofStatements name (bodyOf book lines)]⟩ := by
  have hlog : Place.log book defaultClass .outside (header :: lines) =
      (Change.parent none :: (bodyOf book lines).map .statement).map (Edit.mk name) := by
    rw [Place.log, (Place.Moves.classHeader .outside hheader).move_eq, Place.log_plain h]
    rfl
  have hclass : (ClassOutline.bare name none).applyAll
      (Change.parent none :: (bodyOf book lines).map .statement) =
        .ofStatements name (bodyOf book lines) := by
    rw [ClassOutline.applyAll_cons, ClassOutline.applyAll_statements]
    rfl
  rw [ofLines_eq_replay, hlog, replay_map_mk, update]
  exact congrArg (Outline.mk [·]) hclass

/-! ### Blank statements -/

/-- No pattern of the rulebook matches the empty line. -/
def Rulebook.IgnoresEmpty (book : Rulebook) : Prop :=
  ∀ rule ∈ book.rules, ∀ p ∈ rule.patterns, p.captures? [] = none

instance (book : Rulebook) : Decidable book.IgnoresEmpty :=
  inferInstanceAs (Decidable (∀ rule ∈ book.rules, ∀ p ∈ rule.patterns, p.captures? [] = none))

lemma Rulebook.ignoresEmpty_standard : Rulebook.standard.IgnoresEmpty := by
  decide +kernel

lemma Rulebook.convert_nil (h : book.IgnoresEmpty) : book.convert [] = [] := by
  have hnone : book.statement? [] = none := by
    rw [Rulebook.statement?, List.findSome?_eq_none_iff]
    intro rule hrule
    rw [Rule.statement?, List.findSome?_eq_none_iff]
    intro p hp
    rw [h rule hrule p hp, Option.map_none]
  rw [Rulebook.convert, hnone]
  rfl

lemma filter_bodyOf (h : book.IgnoresEmpty) (lines : List Text) :
    (bodyOf book lines).filter (!Text.isBlank ·) =
      (lines.map fun line => book.convert (Text.trim line)).filter (!Text.isBlank ·) := by
  induction lines with
  | nil => rfl
  | cons line rest ih =>
    rw [bodyOf_cons, List.map_cons]
    by_cases hblank : Text.trim line = []
    · rw [if_pos hblank, hblank, Rulebook.convert_nil h, ih]
      rfl
    · rw [if_neg hblank, List.filter_cons, List.filter_cons, ih]

/-! ### Programs of one class -/

namespace Java

variable (style : Style) (entry : EntryPoint)

lemma source_ofStatements (indent name : Text) {s t : List Text} {force force' : Bool}
    (hentry : (!s.isEmpty || force) = (!t.isEmpty || force'))
    (h : s.filter (!Text.isBlank ·) = t.filter (!Text.isBlank ·)) :
    source indent (.ofStatements name s) true force =
      source indent (.ofStatements name t) true force' := by
  have hpoint : entryPoint indent true s = entryPoint indent true t := by
    unfold entryPoint
    rw [h]
  simp only [source, blocks, head, ClassOutline.hasEntry, ClassOutline.ofStatements, hentry, hpoint]
  rfl

lemma Program.ofOutline_ofStatements (statements : List Text) :
    ofOutline style entry ⟨[.ofStatements style.preferredEntry statements]⟩ =
      ⟨style.preferredEntry, [⟨style.preferredEntry,
        source style.indent (.ofStatements style.preferredEntry statements) true
          (entry == .always)⟩]⟩ := by
  simp [ofOutline, Outline.entryClass?, Outline.names, ClassOutline.ofStatements,
    ClassOutline.bare]

end Java

namespace Converter

variable (c : Converter) {lines : List Text}

lemma convertLines_of_procedural {lines : List Text} (h : Mode.ofLines lines = .procedural) :
    let outline : Outline := ⟨[.ofStatements c.defaultClass
      (lines.map fun line => c.book.convert (Text.trim line))]⟩
    c.convertLines lines = ⟨.procedural, outline, .ofOutline c.style .always outline⟩ := by
  rw [convertLines, h]
  rfl

lemma convertLines_plain (h : ∀ line ∈ lines, Line.IsPlain c.defaultClass line) :
    let outline : Outline := ⟨[.ofStatements c.defaultClass
      (lines.map fun line => c.book.convert (Text.trim line))]⟩
    c.convertLines lines = ⟨.procedural, outline, .ofOutline c.style .always outline⟩ :=
  c.convertLines_of_procedural ((Mode.ofLines_eq_procedural_iff lines).mpr
    fun line hline => (h line hline).no_marker)

lemma convertLines_header_plain
    (hclass : ClassHeader.ofLine? ("class ".toList ++ c.defaultClass) = some ⟨c.defaultClass, none⟩)
    (h : ∀ line ∈ lines, Line.IsPlain c.defaultClass line) :
    let outline : Outline := ⟨[.ofStatements c.defaultClass (bodyOf c.book lines)]⟩
    c.convertLines (("class ".toList ++ c.defaultClass) :: lines) =
      ⟨.structural, outline, .ofOutline c.style .whenNeeded outline⟩ := by
  have htrim := ClassHeader.trim_eq_self hclass
  have hmode : Mode.ofLines (("class ".toList ++ c.defaultClass) :: lines) = .structural := by
    refine (Mode.ofLines_eq_structural_iff _).mpr ⟨_, List.mem_cons_self, ?_⟩
    rw [Line.isStructural_iff, htrim, Keyword.after?_append (by decide)]
    exact .inl rfl
  have houtline : Outline.ofLines c.book c.defaultClass
      (("class ".toList ++ c.defaultClass) :: lines) =
        ⟨[.ofStatements c.defaultClass (bodyOf c.book lines)]⟩ :=
    Outline.ofLines_plain (htrim.symm ▸ hclass) h
  rw [convertLines, hmode, houtline]

/-- A text without headers makes the same program as it does after a header of the default
class, though it is converted in the other mode. -/
theorem convertLines_classHeader (hbook : c.book.IgnoresEmpty)
    (hclass : ClassHeader.ofLine? ("class ".toList ++ c.defaultClass) = some ⟨c.defaultClass, none⟩)
    (hsome : ∃ line ∈ lines, Text.trim line ≠ [])
    (hlines : ∀ line ∈ lines, Line.IsPlain c.defaultClass line) :
    let withHeader := c.convertLines (("class ".toList ++ c.defaultClass) :: lines)
    let without := c.convertLines lines
    withHeader.mode = .structural ∧ without.mode = .procedural ∧
      withHeader.program = without.program ∧ without.program.entryClass = c.defaultClass ∧
      ∃ source, without.program.units = [⟨c.defaultClass, source⟩] := by
  have hbody : bodyOf c.book lines ≠ [] := by
    obtain ⟨line, hline, hne⟩ := hsome
    have hkept : Text.trim line ∈ (lines.map Text.trim).filter (!·.isEmpty) :=
      List.mem_filter.mpr ⟨List.mem_map_of_mem hline, by simpa using hne⟩
    exact List.ne_nil_of_mem (List.mem_map_of_mem hkept)
  have hentry : (!(bodyOf c.book lines).isEmpty || false) = true := by simpa using hbody
  have hsource := Java.source_ofStatements c.indent c.defaultClass
    (hentry.trans (Bool.or_true _).symm) (filter_bodyOf hbook lines)
  have hwith := c.convertLines_header_plain hclass hlines
  have hwithout := c.convertLines_plain hlines
  intro withHeader without
  have hleft : withHeader.program = _ := (congrArg Conversion.program hwith).trans
    (Java.Program.ofOutline_ofStatements c.style .whenNeeded (bodyOf c.book lines))
  have hright : without.program = _ := (congrArg Conversion.program hwithout).trans
    (Java.Program.ofOutline_ofStatements c.style .always
      (lines.map fun line => c.book.convert (Text.trim line)))
  refine ⟨congrArg Conversion.mode hwith, congrArg Conversion.mode hwithout, ?_, ?_, ?_⟩
  · rw [hleft, hright]
    exact congrArg (fun source => Java.Program.mk c.defaultClass [⟨c.defaultClass, source⟩]) hsource
  · rw [hright]
    rfl
  · rw [hright]
    exact ⟨_, rfl⟩

theorem convertLines_classHeader_app :
    let c : Converter := ⟨.standard, "App".toList, "\t".toList⟩
    let lines := ["print 1", "", "  set n to 5", "\t", "if n > 2 then", "endfunction",
      "call greet(n)"].map String.toList
    c.book.IgnoresEmpty ∧
      ClassHeader.ofLine? ("class ".toList ++ c.defaultClass) = some ⟨c.defaultClass, none⟩ ∧
      (∃ line ∈ lines, Text.trim line ≠ []) ∧
      (∀ line ∈ lines, Line.IsPlain c.defaultClass line) ∧
      (let withHeader := c.convertLines (("class ".toList ++ c.defaultClass) :: lines)
      let without := c.convertLines lines
      withHeader.mode = .structural ∧ without.mode = .procedural ∧
        withHeader.program = without.program ∧ without.program.entryClass = c.defaultClass ∧
        ∃ source, without.program.units = [⟨c.defaultClass, source⟩]) := by
  intro c lines
  have hbook : c.book.IgnoresEmpty := Rulebook.ignoresEmpty_standard
  have hclass : ClassHeader.ofLine? ("class ".toList ++ c.defaultClass) =
      some ⟨c.defaultClass, none⟩ := by decide
  have hsome : ∃ line ∈ lines, Text.trim line ≠ [] := by decide
  have hlines : ∀ line ∈ lines, Line.IsPlain c.defaultClass line := by decide
  exact ⟨hbook, hclass, hsome, hlines, c.convertLines_classHeader hbook hclass hsome hlines⟩

end Converter
end Pseudocode
