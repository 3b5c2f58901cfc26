import Pseudocode.Proofs.BuiltinWords
import Pseudocode.Proofs.Marker
import Pseudocode.Proofs.Utf8

/-!
# Keywords by their bytes

A keyword is cut off a line by the number of its bytes. In the bytes of the line such a cut is
sound where a character begins or the line ends, and there it finds the keyword exactly if the
bytes before it are those of the keyword up to the case of ASCII letters. Bytes of other characters
than ASCII are never taken for letters, so that the characters decide as the bytes do.
-/

namespace Pseudocode

namespace Text

/-! ### Positions in the bytes of a text -/

/-- A byte that goes on with a character. -/
def isContinuation (b : UInt8) : Bool := 0x80 ≤ b.toNat && b.toNat < 0xc0

/-- Whether a character begins at a position in the bytes of a text, or the text ends there. -/
def isBoundary (bytes : List UInt8) (n : Nat) : Bool :=
  match bytes[n]? with
  | some b => !isContinuation b
  | none => n == bytes.length

lemma encode_cons (c : Char) (t : Text) : encode (c :: t) = encodeChar c ++ encode t :=
  List.flatMap_cons

lemma encode_append (s t : Text) : encode (s ++ t) = encode s ++ encode t := List.flatMap_append

lemma encode_injective {s t : Text} (h : encode s = encode t) : s = t := by
  have hs : decode? (encode t) = some s := decode?_eq_some_iff.mpr h.symm
  have ht : decode? (encode t) = some t := decode?_eq_some_iff.mpr rfl
  exact Option.some.inj (hs.symm.trans ht)

lemma length_encodeChar (c : Char) : (encodeChar c).length = byteLength c := by
  rw [encodeChar, byteLength]
  dsimp only
  split_ifs <;> rfl

lemma length_encode (t : Text) : (encode t).length = byteSize t := by
  induction t with
  | nil => rfl
  | cons c t ih => rw [encode_cons, List.length_append, length_encodeChar, ih, byteSize]

lemma isContinuation_tail (k : Nat) : isContinuation (UInt8.ofNat (0x80 + k % 64)) = true := by
  have hbyte := toNat_byte (n := 0x80 + k % 64) (by omega)
  simp only [isContinuation, hbyte, Bool.and_eq_true, decide_eq_true_eq]
  omega

/-- The first byte of a character is no continuation, and all others are. -/
lemma exists_encodeChar (c : Char) : ∃ b tail, encodeChar c = b :: tail ∧
    (c.toNat < 0x80 ∧ b.toNat = c.toNat ∨ 0x80 ≤ c.toNat ∧ 0xc0 ≤ b.toNat) ∧
    ∀ x ∈ tail, isContinuation x = true := by
  have hvalid : c.toNat < 0xd800 ∨ 0xdfff < c.toNat ∧ c.toNat < 0x110000 := c.valid
  rw [encodeChar]
  dsimp only
  split_ifs with hone htwo hthree
  · exact ⟨_, _, rfl, .inl ⟨hone, toNat_byte (by omega)⟩, List.forall_mem_nil _⟩
  · have hfirst := toNat_byte (n := 0xc0 + c.toNat / 64) (by omega)
    refine ⟨_, _, rfl, .inr ⟨by omega, by omega⟩, ?_⟩
    exact List.forall_mem_singleton.mpr (isContinuation_tail _)
  · have hfirst := toNat_byte (n := 0xe0 + c.toNat / 4096) (by omega)
    refine ⟨_, _, rfl, .inr ⟨by omega, by omega⟩, ?_⟩
    exact List.forall_mem_cons.mpr ⟨isContinuation_tail _,
      List.forall_mem_singleton.mpr (isContinuation_tail _)⟩
  · have hfirst := toNat_byte (n := 0xf0 + c.toNat / 262144) (by omega)
    refine ⟨_, _, rfl, .inr ⟨by omega, by omega⟩, ?_⟩
    exact List.forall_mem_cons.mpr ⟨isContinuation_tail _, List.forall_mem_cons.mpr
      ⟨isContinuation_tail _, List.forall_mem_singleton.mpr (isContinuation_tail _)⟩⟩

lemma isBoundary_encode_zero (t : Text) : isBoundary (encode t) 0 = true := by
  cases t with
  | nil => rfl
  | cons c t =>
    obtain ⟨b, tail, hc, hfirst, -⟩ := exists_encodeChar c
    rw [encode_cons, hc, isBoundary, List.cons_append, List.getElem?_cons_zero]
    simp only [isContinuation, Bool.not_eq_true', Bool.and_eq_false_iff, decide_eq_false_iff_not]
    omega

lemma isBoundary_append_of_le {bytes : List UInt8} {n : Nat} (h : bytes.length ≤ n)
    (rest : List UInt8) : isBoundary (bytes ++ rest) n = isBoundary rest (n - bytes.length) := by
  rw [isBoundary, isBoundary, List.getElem?_append_right h, List.length_append]
  split
  · rfl
  · rw [Bool.eq_iff_iff, beq_iff_eq, beq_iff_eq]
    omega

/-- A position is sound exactly if it lies behind the bytes of some start of the text. -/
lemma isBoundary_encode_iff {t : Text} {n : Nat} :
    isBoundary (encode t) n = true ↔ ∃ head rest, t = head ++ rest ∧ byteSize head = n := by
  induction t generalizing n with
  | nil =>
    constructor
    · intro h
      have hn : n = 0 := by simpa [isBoundary, encode] using h
      exact ⟨[], [], rfl, hn.symm⟩
    · rintro ⟨head, rest, hcut, rfl⟩
      obtain ⟨rfl, -⟩ := List.append_eq_nil_iff.mp hcut.symm
      rfl
  | cons c t ih =>
    rcases Nat.eq_zero_or_pos n with rfl | hpos
    · exact iff_of_true (isBoundary_encode_zero _) ⟨[], c :: t, rfl, rfl⟩
    rcases Nat.lt_or_ge n (byteLength c) with hlt | hle
    · -- within the first character every byte goes on with it
      obtain ⟨b, tail, hc, -, htail⟩ := exists_encodeChar c
      have hlength : tail.length + 1 = byteLength c := by rw [← length_encodeChar, hc]; rfl
      obtain ⟨i, rfl⟩ := Nat.exists_eq_add_one.mpr hpos
      have hi : i < tail.length := by omega
      have hbyte : isContinuation tail[i] = true := htail _ (List.getElem_mem hi)
      have htorn : isBoundary (encode (c :: t)) (i + 1) = false := by
        rw [encode_cons, hc, isBoundary, List.cons_append, List.getElem?_cons_succ,
          List.getElem?_append_left hi, List.getElem?_eq_getElem hi]
        simp only [hbyte, Bool.not_true]
      refine iff_of_false (Bool.eq_false_iff.mp htorn) ?_
      rintro ⟨head, rest, hcut, hsize⟩
      cases head with
      | nil => exact absurd hsize (Nat.succ_ne_zero i).symm
      | cons d head =>
        obtain ⟨rfl, -⟩ := List.cons.inj hcut
        rw [byteSize] at hsize
        omega
    · have hskip : isBoundary (encode (c :: t)) n = isBoundary (encode t) (n - byteLength c) := by
        rw [encode_cons, isBoundary_append_of_le (length_encodeChar c ▸ hle), length_encodeChar]
      rw [hskip, ih]
      constructor
      · rintro ⟨head, rest, rfl, hsize⟩
        refine ⟨c :: head, rest, rfl, ?_⟩
        rw [byteSize]
        omega
      · rintro ⟨head, rest, hcut, hsize⟩
        cases head with
        | nil => exact absurd hsize hpos.ne
        | cons d head =>
          obtain ⟨rfl, rfl⟩ := List.cons.inj hcut
          refine ⟨head, rest, rfl, ?_⟩
          rw [byteSize] at hsize
          omega

/-! ### The case of letters in bytes -/

/-- Two characters are the same, or the two cases of one ASCII letter. -/
def SameButCase (c d : Char) : Prop :=
  c = d ∨ ('A' ≤ c ∧ c ≤ 'Z' ∧ d.toNat = c.toNat + 32) ∨
    ('A' ≤ d ∧ d ≤ 'Z' ∧ c.toNat = d.toNat + 32)

/-- The byte of the lower case of an ASCII capital, and any other byte itself. -/
def lowerByte (b : UInt8) : UInt8 :=
  if 65 ≤ b.toNat ∧ b.toNat ≤ 90 then UInt8.ofNat (b.toNat + 32) else b

lemma sameLetter_iff {c d : Char} : sameLetter c d = true ↔ SameButCase c d := by
  rw [sameLetter, beq_iff_eq]
  constructor
  · intro h
    by_cases hc : 'A' ≤ c ∧ c ≤ 'Z'
    · have hlower := toNat_asciiLower hc
      rw [h] at hlower
      by_cases hd : 'A' ≤ d ∧ d ≤ 'Z'
      · rw [toNat_asciiLower hd] at hlower
        exact .inl (Char.toNat_inj.mp (by omega))
      · rw [asciiLower, if_neg hd] at hlower
        exact .inr (.inl ⟨hc.1, hc.2, hlower⟩)
    · rw [asciiLower, if_neg hc] at h
      by_cases hd : 'A' ≤ d ∧ d ≤ 'Z'
      · exact .inr (.inr ⟨hd.1, hd.2, h ▸ toNat_asciiLower hd⟩)
      · rw [asciiLower, if_neg hd] at h
        exact .inl h
  · have hsmall : ∀ {a b : Char}, 'A' ≤ a → a ≤ 'Z' → b.toNat = a.toNat + 32 →
        asciiLower a = asciiLower b := by
      intro a b hA hZ hb
      have hle : 65 ≤ a.toNat := hA
      have hb' : ¬('A' ≤ b ∧ b ≤ 'Z') := by
        rintro ⟨-, hbZ⟩
        have hlt : b.toNat ≤ 90 := hbZ
        omega
      have hkept : asciiLower b = b := if_neg hb'
      rw [hkept]
      exact Char.toNat_inj.mp ((toNat_asciiLower ⟨hA, hZ⟩).trans hb.symm)
    rintro (rfl | ⟨hA, hZ, h⟩ | ⟨hA, hZ, h⟩)
    · rfl
    · exact hsmall hA hZ h
    · exact (hsmall hA hZ h).symm

lemma sameWord_iff_forall₂ {s t : Text} : sameWord s t = true ↔ List.Forall₂ SameButCase s t := by
  induction s generalizing t with
  | nil =>
    cases t with
    | nil => exact iff_of_true rfl .nil
    | cons d t => exact iff_of_false Bool.false_ne_true fun h => nomatch h
  | cons c s ih =>
    cases t with
    | nil => exact iff_of_false Bool.false_ne_true fun h => nomatch h
    | cons d t => rw [sameWord, Bool.and_eq_true, sameLetter_iff, ih, List.forall₂_cons]

lemma lowerByte_of_le {b : UInt8} (h : 0x80 ≤ b.toNat) : lowerByte b = b :=
  if_neg (by omega)

lemma le_of_mem_encodeChar {c : Char} (hc : ¬c.toNat < 0x80) {b : UInt8} (hb : b ∈ encodeChar c) :
    0x80 ≤ b.toNat := by
  obtain ⟨first, tail, hchar, hfirst, htail⟩ := exists_encodeChar c
  rcases List.mem_cons.mp (hchar ▸ hb) with rfl | hb
  · omega
  · have hrange := htail b hb
    simp only [isContinuation, Bool.and_eq_true, decide_eq_true_eq] at hrange
    exact hrange.1

lemma map_lowerByte_encodeChar (c : Char) :
    (encodeChar c).map lowerByte = encodeChar (asciiLower c) := by
  by_cases hcapital : 'A' ≤ c ∧ c ≤ 'Z'
  · have hrange : 65 ≤ c.toNat ∧ c.toNat ≤ 90 := hcapital
    have hlower := toNat_asciiLower hcapital
    have hchar : encodeChar c = [UInt8.ofNat c.toNat] := if_pos (by omega)
    have hsmall : encodeChar (asciiLower c) = [UInt8.ofNat (asciiLower c).toNat] :=
      if_pos (by omega)
    have hbyte : (UInt8.ofNat c.toNat).toNat = c.toNat := toNat_byte (by omega)
    rw [hchar, hsmall, hlower, List.map_singleton, lowerByte, hbyte, if_pos hrange]
  · rw [asciiLower, if_neg hcapital]
    by_cases hc : c.toNat < 0x80
    · have hrange : ¬(65 ≤ c.toNat ∧ c.toNat ≤ 90) := hcapital
      have hchar : encodeChar c = [UInt8.ofNat c.toNat] := if_pos hc
      have hbyte : (UInt8.ofNat c.toNat).toNat = c.toNat := toNat_byte (by omega)
      rw [hchar, List.map_singleton, lowerByte, hbyte, if_neg hrange]
    · rw [List.map_congr_left fun b hb => lowerByte_of_le (le_of_mem_encodeChar hc hb),
        List.map_id']

lemma map_lowerByte_encode (t : Text) : (encode t).map lowerByte = encode (t.map asciiLower) := by
  induction t with
  | nil => rfl
  | cons c t ih =>
    rw [encode_cons, List.map_append, map_lowerByte_encodeChar, ih, List.map_cons, encode_cons]

lemma map_lowerByte_encode_eq_iff {s t : Text} :
    (encode s).map lowerByte = (encode t).map lowerByte ↔ sameWord s t = true := by
  rw [map_lowerByte_encode, map_lowerByte_encode, sameWord_iff]
  exact ⟨encode_injective, congrArg encode⟩

end Text

namespace Keyword

/-- What follows the bytes of a keyword at the start of the bytes of a line, where the cut between
the two is sound and the bytes before it are those of the keyword up to the case of letters. -/
def afterBytes? (keyword line : List UInt8) : Option (List UInt8) :=
  if Text.isBoundary line keyword.length = true ∧
      (line.take keyword.length).map Text.lowerByte = keyword.map Text.lowerByte then
    some (line.drop keyword.length)
  else none

variable {keyword line : Text}

lemma after?_eq_some_iff {rest : Text} : after? keyword line = some rest ↔
    ∃ head, line = head ++ rest ∧ List.Forall₂ Text.SameButCase head keyword := by
  simp only [← Text.sameWord_iff_forall₂]
  constructor
  · exact append_of_after?
  · rintro ⟨head, rfl, hword⟩
    exact after?_append hword rest

lemma length_encode_eq {head : Text} (h : List.Forall₂ Text.SameButCase head keyword) :
    (Text.encode head).length = (Text.encode keyword).length := by
  rw [Text.length_encode, Text.length_encode]
  exact Text.byteSize_eq_of_sameWord (Text.sameWord_iff_forall₂.mpr h)

lemma after?_append_eq {head : Text}
    (h : (Text.encode head).length = (Text.encode keyword).length) (rest : Text) :
    after? keyword (head ++ rest) = if Text.sameWord head keyword then some rest else none := by
  rw [Text.length_encode, Text.length_encode] at h
  rw [after?, ← h, cutAtByte?_append]

lemma map_encode_after? (keyword line : Text) :
    (after? keyword line).map Text.encode =
      afterBytes? (Text.encode keyword) (Text.encode line) := by
  by_cases hcut : ∃ head rest, line = head ++ rest ∧
      (Text.encode head).length = (Text.encode keyword).length
  · obtain ⟨head, rest, rfl, hlength⟩ := hcut
    have hboundary : Text.isBoundary (Text.encode (head ++ rest))
        (Text.encode head).length = true :=
      Text.isBoundary_encode_iff.mpr ⟨head, rest, rfl, (Text.length_encode head).symm⟩
    have hletters := Text.map_lowerByte_encode_eq_iff (s := head) (t := keyword)
    rw [after?_append_eq hlength, afterBytes?, ← hlength, hboundary, Text.encode_append,
      List.take_left, List.drop_left]
    by_cases hword : Text.sameWord head keyword = true
    · rw [if_pos hword, if_pos ⟨rfl, hletters.mpr hword⟩, Option.map_some]
    · rw [if_neg hword, if_neg fun h => hword (hletters.mp h.2), Option.map_none]
  · have hnone : after? keyword line = none := by
      refine Option.eq_none_iff_forall_ne_some.mpr fun rest hrest => hcut ?_
      obtain ⟨head, hline, hword⟩ := after?_eq_some_iff.mp hrest
      exact ⟨head, rest, hline, length_encode_eq hword⟩
    have htorn : ¬Text.isBoundary (Text.encode line) (Text.encode keyword).length = true := by
      rw [Text.isBoundary_encode_iff]
      rintro ⟨head, rest, hline, hsize⟩
      exact hcut ⟨head, rest, hline, (Text.length_encode head).trans hsize⟩
    rw [hnone, afterBytes?, if_neg fun h => htorn h.1, Option.map_none]

lemma isSome_after?_iff_exists : (after? keyword line).isSome ↔
    ∃ head rest, line = head ++ rest ∧ List.Forall₂ Text.SameButCase head keyword := by
  simp only [isSome_after?_iff, Text.sameWord_iff_forall₂]

/-- A keyword is found exactly where as many bytes as it has agree with it up to the case of ASCII
letters, and what follows it is cut off between two characters. In bytes the same is found. Method
headers, the lines that mark a structure and the statements for input and output are recognised by
keywords of this kind alone, whatever stands in the line. -/
theorem after?_exact (keyword line : Text) :
    (∀ rest, after? keyword line = some rest ↔ ∃ head, line = head ++ rest ∧
        (Text.encode head).length = (Text.encode keyword).length ∧
        List.Forall₂ Text.SameButCase head keyword) ∧
      (after? keyword line = none ↔ ∀ head rest, line = head ++ rest →
        (Text.encode head).length = (Text.encode keyword).length →
        ¬List.Forall₂ Text.SameButCase head keyword) ∧
      (after? keyword line).map Text.encode =
        afterBytes? (Text.encode keyword) (Text.encode line) ∧
      (Text.isBoundary (Text.encode line) (Text.encode keyword).length = false →
        after? keyword line = none) ∧
      ((Text.encode line).length < (Text.encode keyword).length → after? keyword line = none) ∧
      (∀ header, Line.methodHeader? line = some header ↔ ∃ head rest, line = head ++ rest ∧
        List.Forall₂ Text.SameButCase head "function ".toList ∧ header = Text.trim rest) ∧
      (Line.isStructural line = true ↔ ∃ head rest, Text.trim line = head ++ rest ∧
        (List.Forall₂ Text.SameButCase head "class ".toList ∨
          List.Forall₂ Text.SameButCase head "function ".toList)) ∧
      ((Statement.input? line).isSome ↔ ∃ head rest, line = head ++ rest ∧
        List.Forall₂ Text.SameButCase head "input".toList) ∧
      ((Statement.print? line).isSome ↔ ∃ head rest, line = head ++ rest ∧
        List.Forall₂ Text.SameButCase head "print".toList) := by
  have hbytes := map_encode_after? keyword line
  have htorn : Text.isBoundary (Text.encode line) (Text.encode keyword).length = false →
      after? keyword line = none := by
    intro h
    rw [afterBytes?, if_neg fun hfound => Bool.noConfusion (h.symm.trans hfound.1)] at hbytes
    exact Option.map_eq_none_iff.mp hbytes
  refine ⟨fun rest => ?_, ?_, hbytes, htorn, fun h => htorn ?_, fun header => ?_, ?_, ?_, ?_⟩
  · rw [after?_eq_some_iff]
    exact exists_congr fun head => and_congr_right fun _ =>
      ⟨fun hword => ⟨length_encode_eq hword, hword⟩, And.right⟩
  · rw [← Option.not_isSome_iff_eq_none, isSome_after?_iff_exists]
    constructor
    · exact fun h head rest hline _ hword => h ⟨head, rest, hline, hword⟩
    · rintro h ⟨head, rest, hline, hword⟩
      exact h head rest hline (length_encode_eq hword) hword
  · rw [Text.isBoundary, List.getElem?_eq_none h.le]
    exact beq_false_of_ne h.ne'
  · rw [Line.methodHeader?, Option.map_eq_some_iff]
    simp only [after?_eq_some_iff]
    constructor
    · rintro ⟨rest, ⟨head, hline, hword⟩, rfl⟩
      exact ⟨head, rest, hline, hword, rfl⟩
    · rintro ⟨head, rest, hline, hword, rfl⟩
      exact ⟨rest, ⟨head, hline, hword⟩, rfl⟩
  · rw [Line.isStructural_iff, Line.methodHeader?, Option.isSome_map, isSome_after?_iff_exists,
      isSome_after?_iff_exists]
    simp only [and_or_left, exists_or]
  · rw [Statement.isSome_input?, isSome_after?_iff_exists]
  · rw [Statement.isSome_print?, isSome_after?_iff_exists]

theorem after?_exact_print :
    after? "print".toList "PrInt \u00ef".toList = some " \u00ef".toList ∧
      after? "\u00e9t\u00e9".toList "\u00e9T\u00e9 x".toList = some " x".toList ∧
      after? "\u00e9t\u00e9".toList "\u00c9T\u00e9 x".toList = none ∧
      after? "pri".toList "pr\u00efnt".toList = none ∧
      after? "print".toList "pr\u00ef".toList = none ∧
      after? "print".toList "pr\u00efnt".toList = none := by
  refine ⟨?_, ?_, ?_, ?_, ?_, ?_⟩
  · exact ((after?_exact _ _).1 _).mpr ⟨"PrInt".toList, by decide, by decide, by
      rw [← Text.sameWord_iff_forall₂]; decide⟩
  · exact ((after?_exact _ _).1 _).mpr ⟨"\u00e9T\u00e9".toList, by decide, by decide, by
      rw [← Text.sameWord_iff_forall₂]; decide⟩
  · have hbytes := (after?_exact "\u00e9t\u00e9".toList "\u00c9T\u00e9 x".toList).2.2.1
    exact Option.map_eq_none_iff.mp (hbytes.trans (by decide))
  · exact (after?_exact "pri".toList "pr\u00efnt".toList).2.2.2.1 (by decide)
  · exact (after?_exact "print".toList "pr\u00ef".toList).2.2.2.2.1 (by decide)
  · have hbytes := (after?_exact "print".toList "pr\u00efnt".toList).2.2.1
    exact Option.map_eq_none_iff.mp (hbytes.trans (by decide))

end Keyword
end Pseudocode
