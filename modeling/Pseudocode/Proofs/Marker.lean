import Pseudocode.Conversion
import Pseudocode.Proofs.Keyword

/-!
# Headers and the mode

A text is scanned for classes and methods if some line begins with the keyword of a class or a
method and a space. A method header with its keyword is such a line. A class header need not be
one, since it is recognised under case folding, which lets a long s stand in its keyword, and
any white space may follow the keyword.
-/

namespace Pseudocode
namespace Text

lemma toNat_ofNat_or (n : Nat) : (Char.ofNat n).toNat = n ∨ Char.ofNat n = '\x00' := by
  by_cases h : n.isValidChar
  · left
    rw [Char.ofNat, dif_pos h]
    rfl
  · right
    rw [Char.ofNat, dif_neg h]
    rfl

lemma fold_runs : ∀ run ∈ Table.fold, run.hi < 128 ∨ 128 ≤ (run.lo : Int) + run.shift ∨
    run.hi ≤ run.lo ∧ (run.lo = '\u017f'.toNat ∨ run.lo = '\u212a'.toNat) := by
  decide +kernel

/-- Beyond ASCII only the long s and the Kelvin sign fold to an ASCII letter. -/
lemma asciiLower_eq_fold {c : Char} (hascii : (fold c).toNat < 128) (hnull : fold c ≠ '\x00')
    (hlong : c ≠ '\u017f') (hkelvin : c ≠ '\u212a') : asciiLower c = fold c := by
  by_cases hc : c.toNat < 128
  · rw [fold, if_pos hc]
  rw [fold, if_neg hc, shiftBy] at hascii hnull
  exfalso
  cases hrun : Table.fold.find? (·.covers c.toNat) with
  | none =>
    rw [hrun] at hascii
    exact hc hascii
  | some run =>
    rw [hrun] at hascii hnull
    have hcovers := List.find?_some hrun
    simp only [CaseRun.covers, Bool.and_eq_true, decide_eq_true_eq] at hcovers
    have hnat : (Char.ofNat (Int.toNat (c.toNat + run.shift))).toNat =
        Int.toNat (c.toNat + run.shift) := (toNat_ofNat_or _).resolve_right hnull
    rcases fold_runs run (List.mem_of_find?_eq_some hrun) with hlow | hhigh | ⟨hsingle, heq | heq⟩
    · omega
    · simp only [hnat] at hascii
      omega
    · exact hlong (Char.toNat_inj.mp (by omega))
    · exact hkelvin (Char.toNat_inj.mp (by omega))

lemma map_fold_eq_of_sameWord {a b : Text} (hb : b.all fun d => (asciiLower d).toNat < 128)
    (h : sameWord a b = true) : a.map fold = b.map asciiLower := by
  rw [List.all_eq_true] at hb
  induction b generalizing a with
  | nil =>
    rw [List.length_eq_zero_iff.mp (length_eq_of_sameWord h)]
    rfl
  | cons d ds ih =>
    obtain ⟨hd, hds⟩ := List.forall_mem_cons.mp hb
    obtain ⟨c, cs, rfl, hletter, hrest⟩ := sameWord_cons h
    rw [List.map_cons, List.map_cons, fold_eq_of_sameLetter (of_decide_eq_true hd) hletter,
      ih hds hrest]

lemma eq_space_of_sameLetter {c : Char} (h : sameLetter c ' ' = true) : c = ' ' := by
  have hlower : asciiLower c = ' ' := beq_iff_eq.mp h
  by_cases hcapital : 'A' ≤ c ∧ c ≤ 'Z'
  · have hcode := toNat_asciiLower hcapital
    have hle : 65 ≤ c.toNat := hcapital.1
    have hspace : (asciiLower c).toNat = 32 := congrArg Char.toNat hlower
    omega
  · rwa [asciiLower, if_neg hcapital] at hlower

/-- Where neither of the two stands, case folding to a word in lower case changes nothing but the
case of ASCII letters. -/
lemma sameWord_of_map_fold {t w : Text}
    (hw : ∀ d ∈ w, d.toNat < 128 ∧ asciiLower d = d ∧ d ≠ '\x00') (hlong : '\u017f' ∉ t)
    (hkelvin : '\u212a' ∉ t) (h : t.map fold = w) : sameWord t w = true := by
  have hlower : w.map asciiLower = w :=
    (List.map_congr_left fun d hd => (hw d hd).2.1).trans (List.map_id w)
  have hchars : ∀ c ∈ t, asciiLower c = fold c := by
    intro c hc
    obtain ⟨hascii, -, hnull⟩ := hw (fold c) (h ▸ List.mem_map_of_mem hc)
    exact asciiLower_eq_fold hascii hnull (fun heq => hlong (heq ▸ hc))
      fun heq => hkelvin (heq ▸ hc)
  rw [sameWord_iff, hlower, ← h]
  exact List.map_congr_left hchars

lemma sameWord_class_iff {t : Text} :
    sameWord t "class".toList = true ↔ t.map fold = "class".toList ∧ '\u017f' ∉ t := by
  have hlower : "class".toList.map asciiLower = "class".toList := by decide
  constructor
  · intro h
    have hlong : '\u017f' ∉ t := by
      intro hmem
      obtain ⟨d, hd, hletter⟩ := exists_sameLetter_of_mem h hmem
      have hnone : "class".toList.any (sameLetter '\u017f') = false := by decide
      exact List.any_eq_false.mp hnone d hd hletter
    have hfold := map_fold_eq_of_sameWord (by decide) h
    exact ⟨hfold.trans hlower, hlong⟩
  · rintro ⟨hfold, hlong⟩
    have hkelvin : '\u212a' ∉ t := by
      intro hmem
      have hfolded : fold '\u212a' ∈ "class".toList := hfold ▸ List.mem_map_of_mem hmem
      exact absurd hfolded (by decide)
    have hletters : ("class".toList.all fun d =>
      d.toNat < 128 ∧ asciiLower d = d ∧ d ≠ '\x00') = true := by decide
    exact sameWord_of_map_fold (fun d hd => of_decide_eq_true (List.all_eq_true.mp hletters d hd))
      hlong hkelvin hfold

end Text

namespace ClassHeader

/-- The keyword of a class header is written without a long s, and one space follows it. -/
def HasMarker (line : Text) : Prop :=
  '\u017f' ∉ line.take 5 ∧ (line.drop 5).head? = some ' '

instance (line : Text) : Decidable (HasMarker line) :=
  inferInstanceAs (Decidable ('\u017f' ∉ line.take 5 ∧ (line.drop 5).head? = some ' '))

lemma isSome_after?_iff {line : Text} {header : ClassHeader} (h : ofLine? line = some header) :
    (Keyword.after? "class ".toList line).isSome ↔ HasMarker line := by
  obtain ⟨hkeyword, c, rest, hdrop, -, -⟩ := ofLine?_eq_some_iff.mp h
  have hline : line = line.take 5 ++ c :: rest := hdrop ▸ (List.take_append_drop 5 line).symm
  rw [Keyword.isSome_after?_iff, HasMarker, hdrop, List.head?_cons]
  constructor
  · rintro ⟨head, rest', hcut, hword⟩
    have hhead : head.length = 6 := Text.length_eq_of_sameWord hword
    have htake : head.take 5 = line.take 5 := by
      rw [hcut, List.take_append_of_le_length (by omega)]
    have hclass : Text.sameWord (line.take 5) "class".toList = true :=
      htake ▸ Text.sameWord_take hword 5
    obtain ⟨x, hx⟩ : ∃ x, head.drop 5 = [x] :=
      List.length_eq_one_iff.mp (by rw [List.length_drop, hhead])
    have hxc : x = c := by
      rw [hcut, List.drop_append_of_le_length (by omega), hx] at hdrop
      exact (List.cons.inj hdrop).1
    have hlast : Text.sameWord [x] [' '] = true := hx ▸ Text.sameWord_drop hword 5
    have hspace : Text.sameLetter x ' ' = true := by simpa [Text.sameWord] using hlast
    refine ⟨(Text.sameWord_class_iff.mp hclass).2, ?_⟩
    rw [← hxc, Text.eq_space_of_sameLetter hspace]
  · rintro ⟨hlong, hspace⟩
    have hword : Text.sameWord (line.take 5) "class".toList = true :=
      Text.sameWord_class_iff.mpr ⟨hkeyword, hlong⟩
    refine ⟨line.take 5 ++ [' '], rest, ?_, Text.sameWord_append hword (by decide)⟩
    rw [List.append_assoc, List.singleton_append, ← Option.some.inj hspace, ← hline]

end ClassHeader

namespace Line

lemma isStructural_iff (line : Text) :
    isStructural line = true ↔ (Keyword.after? "class ".toList (Text.trim line)).isSome ∨
      (methodHeader? (Text.trim line)).isSome := by
  rw [isStructural, Bool.or_eq_true, methodHeader?, Option.isSome_map]

lemma trim_ne_nil_of_isStructural {line : Text} (h : isStructural line = true) :
    Text.trim line ≠ [] := by
  intro hblank
  rw [isStructural_iff, hblank] at h
  exact absurd h (by decide)

/-- A line opens a class or, with the keyword, a method. -/
def isHeader (line : Text) : Bool :=
  (ClassHeader.ofLine? (Text.trim line)).isSome || (methodHeader? (Text.trim line)).isSome

end Line

namespace Mode

lemma ofLines_eq_structural_iff (lines : List Text) :
    Mode.ofLines lines = .structural ↔ ∃ line ∈ lines, Line.isStructural line = true := by
  unfold ofLines
  split_ifs with h
  · exact iff_of_true rfl (List.any_eq_true.mp h)
  · exact iff_of_false id fun hany => h (List.any_eq_true.mpr hany)

lemma ofLines_eq_procedural_iff (lines : List Text) :
    Mode.ofLines lines = .procedural ↔ ∀ line ∈ lines, Line.isStructural line = false := by
  have hmode : Mode.ofLines lines = .procedural ↔ ¬Mode.ofLines lines = .structural := by
    cases Mode.ofLines lines <;> decide
  rw [hmode, ofLines_eq_structural_iff]
  simp

/-- A text with a method header, or with a class header whose keyword has the marked form, is
scanned for classes and methods. A class header of another form does not decide the mode. -/
theorem ofLines_of_header (lines : List Text) :
    ((∃ line ∈ lines, (Line.methodHeader? (Text.trim line)).isSome ∨
        (ClassHeader.ofLine? (Text.trim line)).isSome ∧ ClassHeader.HasMarker (Text.trim line)) →
      Mode.ofLines lines = .structural) ∧
    ∀ line, (ClassHeader.ofLine? (Text.trim line)).isSome →
      (Line.isStructural line = true ↔ ClassHeader.HasMarker (Text.trim line)) := by
  have hclass : ∀ line, (ClassHeader.ofLine? (Text.trim line)).isSome →
      (Line.isStructural line = true ↔ ClassHeader.HasMarker (Text.trim line)) := by
    intro line h
    obtain ⟨header, hheader⟩ := Option.isSome_iff_exists.mp h
    have hmethod : ¬(Line.methodHeader? (Text.trim line)).isSome := by
      intro hsome
      obtain ⟨method, hmethod⟩ := Option.isSome_iff_exists.mp hsome
      rw [Line.classHeader_none_of_methodHeader hmethod] at h
      exact Bool.noConfusion h
    rw [Line.isStructural_iff, ClassHeader.isSome_after?_iff hheader, or_iff_left hmethod]
  refine ⟨?_, hclass⟩
  rintro ⟨line, hline, hheader⟩
  refine (ofLines_eq_structural_iff lines).mpr ⟨line, hline, ?_⟩
  rcases hheader with hmethod | ⟨hsome, hmarker⟩
  · exact (Line.isStructural_iff line).mpr (.inr hmethod)
  · exact (hclass line hsome).mpr hmarker

theorem ofLines_of_header_dog :
    let lines := ["print 1", "\t CLASS Dog , Animal", "print 2"].map String.toList
    (∃ line ∈ lines, (Line.methodHeader? (Text.trim line)).isSome ∨
        (ClassHeader.ofLine? (Text.trim line)).isSome ∧ ClassHeader.HasMarker (Text.trim line)) ∧
      Mode.ofLines lines = .structural ∧
      (ClassHeader.ofLine? (Text.trim "class\tDog".toList)).isSome ∧
      (Line.isStructural "class\tDog".toList = true ↔
        ClassHeader.HasMarker (Text.trim "class\tDog".toList)) := by
  intro lines
  have hheader : ∃ line ∈ lines, (Line.methodHeader? (Text.trim line)).isSome ∨
      (ClassHeader.ofLine? (Text.trim line)).isSome ∧ ClassHeader.HasMarker (Text.trim line) :=
    ⟨"\t CLASS Dog , Animal".toList, by decide, .inr (by decide)⟩
  exact ⟨hheader, (ofLines_of_header lines).1 hheader, by decide,
    (ofLines_of_header lines).2 _ (by decide)⟩

/-- A class header with a tab after its keyword, or with a long s in it, is a statement where no
other line marks a class or a method. -/
theorem ofLines_of_unmarked_header :
    let tab := ["class\tDog"].map String.toList
    let longS := ["clas\u017f Dog"].map String.toList
    (tab.any Line.isHeader = true ∧ Mode.ofLines tab ≠ .structural) ∧
      (longS.any Line.isHeader = true ∧ Mode.ofLines longS ≠ .structural) := by
  decide

end Mode
end Pseudocode
