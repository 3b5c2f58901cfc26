import Pseudocode.Proofs.WordForms
import Pseudocode.Statement.Convert

/-!
# Words that begin with a built-in keyword

The first word of a statement ends before the first character that is no letter, no numeral and no
low line. Whether a line is printed or read is not a matter of this word but of the letters at its
start: without rules a line is left to the semicolon exactly if its first word does not begin with
`print` or `input`. A longer word such as `printer`, which leads no statement, is therefore taken
apart.
-/

namespace Pseudocode

/-- The first word of a statement. -/
def Line.firstWord (line : Text) : Text := line.takeWhile Keyword.isStatementChar

namespace Text

def beginsWith (w t : Text) : Bool := sameWord (t.take w.length) w

variable {w t : Text}

lemma exists_of_beginsWith (h : beginsWith w t = true) {i : Nat} {d : Char} (hd : w[i]? = some d) :
    ∃ c, t[i]? = some c ∧ sameLetter c d = true := by
  have hi : i < w.length := (List.getElem?_eq_some_iff.mp hd).1
  have hletter := congrArg (·[i]?) (sameWord_iff.mp h)
  simp only [List.getElem?_map, List.getElem?_take_of_lt hi, hd, Option.map_some,
    Option.map_eq_some_iff] at hletter
  obtain ⟨c, hc, hlower⟩ := hletter
  exact ⟨c, hc, beq_iff_eq.mpr hlower⟩

lemma beginsWith_take (h : beginsWith w t = true) (n : Nat) : beginsWith (w.take n) t = true := by
  have htake := sameWord_take h n
  rwa [List.take_take, ← List.length_take] at htake

lemma map_asciiLower_eq_of_beginsWith {w' : Text} (h : beginsWith w t = true)
    (h' : beginsWith w' t = true) (hlength : w.length = w'.length) :
    w.map asciiLower = w'.map asciiLower := by
  rw [beginsWith, hlength] at h
  exact (sameWord_iff.mp h).symm.trans (sameWord_iff.mp h')

lemma beginsWith_takeWhile {p : Char → Bool}
    (hp : ∀ d ∈ w, ∀ c, sameLetter c d = true → p c = true) (t : Text) :
    beginsWith w (t.takeWhile p) = beginsWith w t := by
  rw [Bool.eq_iff_iff, beginsWith, beginsWith]
  constructor
  · intro h
    have hlength := length_eq_of_sameWord h
    rw [List.length_take] at hlength
    rwa [← List.takeWhile_append_dropWhile (p := p) (l := t),
      List.take_append_of_le_length (by omega)]
  · intro h
    have hlength := length_eq_of_sameWord h
    have hrun : ∀ c ∈ t.take w.length, p c = true := by
      intro c hc
      obtain ⟨d, hd, hletter⟩ := exists_sameLetter_of_mem h hc
      exact hp d hd c hletter
    rwa [← List.take_append_drop w.length t, List.takeWhile_append_of_pos hrun,
      List.take_append_of_le_length (by omega), List.take_take, Nat.min_self]

end Text

namespace Keyword

lemma statementChar_ascii : ∀ n < 128, 'a' ≤ Text.asciiLower (Char.ofNat n) ∧
    Text.asciiLower (Char.ofNat n) ≤ 'z' → isStatementChar (Char.ofNat n) = true := by
  decide +kernel

lemma isStatementChar_of_sameLetter {c d : Char} (hd : 'a' ≤ d ∧ d ≤ 'z')
    (h : Text.sameLetter c d = true) : isStatementChar c = true := by
  obtain ⟨hascii, hsame, -⟩ := CharSet.of_small hd
  have hlower : Text.asciiLower c = d := (beq_iff_eq.mp h).trans hsame
  have hchar := statementChar_ascii c.toNat (CharSet.lt_of_asciiLower_lt (hlower ▸ hascii))
  rw [Char.ofNat_toNat, hlower] at hchar
  exact hchar hd

variable {keyword : Text}

lemma isSome_after?_iff_beginsWith {line : Text} :
    (after? keyword line).isSome ↔ Text.beginsWith keyword line = true := by
  rw [isSome_after?_iff]
  constructor
  · rintro ⟨head, rest, rfl, hword⟩
    rwa [Text.beginsWith, ← Text.length_eq_of_sameWord hword, List.take_left]
  · intro h
    exact ⟨_, _, (List.take_append_drop keyword.length line).symm, h⟩

lemma isSome_after?_iff_firstWord (hk : keyword.IsSmall) {line : Text} :
    (after? keyword line).isSome ↔ Text.beginsWith keyword (Line.firstWord line) = true := by
  rw [isSome_after?_iff_beginsWith, Line.firstWord,
    Text.beginsWith_takeWhile fun d hd _ => isStatementChar_of_sameLetter (hk d hd)]

end Keyword

/-! ### Statements without rules -/

namespace Statement

/-- The keywords of the statements that need no rule. -/
def builtinWords : List Text := ["input".toList, "print".toList]

variable {line statement : Text}

lemma isPrefix_terminate (line : Text) : line <+: terminate line := by
  unfold terminate
  split
  · split
    · exact List.prefix_refl _
    · exact List.prefix_append _ _
  · exact List.prefix_refl _

lemma ne_terminate {w : Text} {i : Nat} {d : Char} (hd : w[i]? = some d)
    (hs : ∀ c, statement[i]? = some c → Text.sameLetter c d = false)
    (hw : Text.beginsWith w line = true) : statement ≠ terminate line := by
  rintro rfl
  obtain ⟨c, hc, hletter⟩ := Text.exists_of_beginsWith hw hd
  have hkept : (terminate line)[i]? = some c := by
    obtain ⟨s, hs⟩ := isPrefix_terminate line
    have hi := (List.getElem?_eq_some_iff.mp hc).1
    rw [← hs, List.getElem?_append_left hi, hc]
  exact Bool.noConfusion ((hs c hkept).symm.trans hletter)

/-- The third letter tells statements that read from the keyword `input`. -/
lemma sameLetter_getElem?_input? (h : input? line = some statement) :
    ∀ c, statement[2]? = some c → Text.sameLetter c 'p' = false := by
  obtain ⟨-, -, rfl⟩ := Option.map_eq_some_iff.mp h
  intro c hc
  split at hc
  · rename_i ty name _ _
    split at hc
    · rename_i read method hread
      have hthird : ∃ d ∈ ['t', 'u', 'o', 'r'], read[2]? = some d := by
        unfold scannerRead? at hread
        split_ifs at hread with hint hdouble hboolean hstring <;>
          obtain ⟨rfl, -⟩ := Prod.mk.inj (Option.some.inj hread)
        · exact ⟨'t', by decide, hint ▸ rfl⟩
        · exact ⟨'u', by decide, hdouble ▸ rfl⟩
        · exact ⟨'o', by decide, hboolean ▸ rfl⟩
        · exact ⟨'r', by decide, rfl⟩
      obtain ⟨d, hd, hread⟩ := hthird
      have hi : 2 < read.length := (List.getElem?_eq_some_iff.mp hread).1
      simp only [List.append_assoc, List.getElem?_append_left hi, hread, Option.some.injEq] at hc
      have hletters : ∀ d ∈ ['t', 'u', 'o', 'r'], Text.sameLetter d 'p' = false := by decide
      exact hc ▸ hletters d hd
    · obtain rfl : ' ' = c := Option.some.inj hc
      decide
  · obtain rfl : ' ' = c := Option.some.inj hc
    decide

lemma sameLetter_getElem?_print? (h : print? line = some statement) :
    ∀ c, statement[2]? = some c → Text.sameLetter c 'i' = false := by
  obtain ⟨-, -, rfl⟩ := Option.map_eq_some_iff.mp h
  intro c hc
  have hthird : 's' = c := by split at hc <;> exact Option.some.inj hc
  exact hthird ▸ by decide

lemma isSome_input? (line : Text) :
    (input? line).isSome = (Keyword.after? "input".toList line).isSome := Option.isSome_map ..

lemma isSome_print? (line : Text) :
    (print? line).isSome = (Keyword.after? "print".toList line).isSome := Option.isSome_map ..

lemma ne_terminate_of_input? (h : input? line = some statement) : statement ≠ terminate line := by
  have hafter : (Keyword.after? "input".toList line).isSome := by
    rw [← isSome_input?, h, Option.isSome_some]
  exact ne_terminate rfl (sameLetter_getElem?_input? h)
    (Keyword.isSome_after?_iff_beginsWith.mp hafter)

lemma ne_terminate_of_print? (h : print? line = some statement) : statement ≠ terminate line := by
  have hafter : (Keyword.after? "print".toList line).isSome := by
    rw [← isSome_print?, h, Option.isSome_some]
  exact ne_terminate rfl (sameLetter_getElem?_print? h)
    (Keyword.isSome_after?_iff_beginsWith.mp hafter)

end Statement

namespace Rulebook

open Statement

lemma convert_empty (line : Text) :
    empty.convert line = (input? line).getD ((print? line).getD (terminate line)) := by
  have hnone : empty.statement? line = none := rfl
  rw [convert, hnone]
  cases input? line <;> rfl

/-- Without rules a line becomes itself with a semicolon if and only if its first word does not
begin with a built-in keyword. -/
theorem convert_eq_terminate_iff (line : Text) :
    empty.convert line = terminate line ↔
      ∀ w ∈ builtinWords, Text.beginsWith w (Line.firstWord line) = false := by
  have hwords : (∀ w ∈ builtinWords, Text.beginsWith w (Line.firstWord line) = false) ↔
      input? line = none ∧ print? line = none := by
    rw [builtinWords, List.forall_mem_cons, List.forall_mem_singleton,
      ← Option.not_isSome_iff_eq_none, ← Option.not_isSome_iff_eq_none, isSome_input?,
      isSome_print?, Keyword.isSome_after?_iff_firstWord (by decide),
      Keyword.isSome_after?_iff_firstWord (by decide), Bool.not_eq_true, Bool.not_eq_true]
  rw [hwords, convert_empty]
  cases hinput : input? line with
  | some statement => exact iff_of_false (ne_terminate_of_input? hinput) (by simp)
  | none =>
    cases hprint : print? line with
    | some statement => exact iff_of_false (ne_terminate_of_print? hprint) (by simp)
    | none => exact iff_of_true rfl ⟨rfl, rfl⟩

/-- Of words that are no keywords the letters of one are taken for a keyword. -/
theorem convert_longerWord :
    let printer := "printer(x)".toList
    let inputs := "inputs = 3".toList
    (∀ w ∈ builtinWords, Text.sameWord (Line.firstWord printer) w = false) ∧
      Keyword.startsStatement printer = false ∧
      (∀ w ∈ builtinWords, Text.sameWord (Line.firstWord inputs) w = false) ∧
      Keyword.startsStatement inputs = false ∧
      empty.convert printer = "System.out.println(er(x));".toList ∧
      empty.convert printer ≠ terminate printer ∧
      empty.convert inputs = "// ERROR: Unsupported input type: =".toList ∧
      empty.convert inputs ≠ terminate inputs := by
  decide

end Rulebook
end Pseudocode
