import Pseudocode.Proofs.Enclosed
import Pseudocode.Proofs.Results
import Pseudocode.Proofs.Threads
import Pseudocode.Statement.Convert

/-!
# Rules apply to whole lines

The patterns of a rule stand between the ends of the line. A pattern that can stand alone matches a
line there only as a whole, and does so exactly if it describes all of the line; every other line
is left to what comes later. A text that is a pattern only between the ends of the line can close
the group it is put in, and then matches part of a line.
-/

namespace Pseudocode
namespace Pattern

/-- Where the first way through `p` from the leftmost position begins, and where it leads. -/
def matchFrom (p : Pattern) (offset : Nat) (previous : Option Char) : Text → Option (Nat × Thread)
  | [] => (p.run ⟨offset, previous, [], []⟩).head?.map (offset, ·)
  | c :: rest =>
    match (p.run ⟨offset, previous, c :: rest, []⟩).head? with
    | some t => some (offset, t)
    | none => matchFrom p (offset + 1) (some c) rest

lemma searchFrom_eq_matchFrom (p : Pattern) (offset : Nat) (previous : Option Char) (t : Text) :
    searchFrom p offset previous t = (matchFrom p offset previous t).map (·.2) := by
  induction t generalizing offset previous with
  | nil =>
    unfold searchFrom matchFrom
    cases (p.run ⟨offset, previous, [], []⟩).head? <;> rfl
  | cons c rest ih =>
    unfold searchFrom matchFrom
    cases (p.run ⟨offset, previous, c :: rest, []⟩).head? with
    | some t => rfl
    | none => exact ih (offset + 1) (some c)

/-- The numbers of characters before and up to the end of the first match in `t`. -/
def span? (p : Pattern) (t : Text) : Option (Nat × Nat) :=
  (matchFrom p 0 none t).map fun (start, found) => (start, found.offset)

lemma isSome_captures? (p : Pattern) (t : Text) : (p.captures? t).isSome = (p.span? t).isSome := by
  simp [captures?, span?, searchFrom_eq_matchFrom]

/-- A way through `p` reads all of `t`. -/
def Describes (p : Pattern) (t : Text) : Prop := ∃ found ∈ p.run (.atStart t), found.rest = []

instance (p : Pattern) (t : Text) : Decidable (p.Describes t) :=
  inferInstanceAs (Decidable (∃ found ∈ p.run (.atStart t), found.rest = []))

/-- The pattern between the ends of the text. -/
def enclosed (q : Pattern) : Pattern := .seq (.seq (.anchor .textStart) q) (.anchor .textEnd)

lemma of_mem_run_enclosed {q : Pattern} {t u : Thread} (h : u ∈ (enclosed q).run t) :
    t.previous = none ∧ u ∈ q.run t ∧ u.rest = [] := by
  obtain ⟨v, hv, hu⟩ := List.mem_flatMap.mp (Thread.mem_of_mem_distinct h)
  obtain ⟨w, hw, hq⟩ := List.mem_flatMap.mp (Thread.mem_of_mem_distinct hv)
  obtain ⟨hend, rfl⟩ := mem_run_anchor.mp hu
  obtain ⟨hstart, rfl⟩ := mem_run_anchor.mp hw
  exact ⟨Option.isNone_iff_eq_none.mp hstart, hq, List.isEmpty_iff.mp hend⟩

lemma run_enclosed_ne_nil {q : Pattern} {t : Text} (h : q.Describes t) :
    (enclosed q).run (.atStart t) ≠ [] := by
  obtain ⟨u, hu, hrest⟩ := h
  have hstart := mem_run_anchor.mpr ⟨(rfl : (Thread.atStart t).meets .textStart = true), rfl⟩
  -- of the ways to one end only the first is kept, so that `u` itself may be gone
  obtain ⟨v, hv, hoffset⟩ :=
    Thread.exists_mem_distinct (List.mem_flatMap.mpr ⟨Thread.atStart t, hstart, hu⟩)
  have hv' : v ∈ (Pattern.seq (.anchor .textStart) q).run (.atStart t) := hv
  have hall : v.rest = [] :=
    ((follows_of_mem_run hu).rest_eq (follows_of_mem_run hv') hoffset).trans hrest
  have hend : v ∈ (Pattern.anchor .textEnd).run v :=
    mem_run_anchor.mpr ⟨List.isEmpty_iff.mpr hall, rfl⟩
  obtain ⟨w, hw, -⟩ := Thread.exists_mem_distinct (List.mem_flatMap.mpr ⟨v, hv, hend⟩)
  exact List.ne_nil_of_mem hw

lemma matchFrom_enclosed_of_some (q : Pattern) (offset : Nat) (c : Char) (t : Text) :
    matchFrom (enclosed q) offset (some c) t = none := by
  have hnone (t : Text) (offset : Nat) (c : Char) :
      (enclosed q).run ⟨offset, some c, t, []⟩ = [] := by
    refine List.eq_nil_iff_forall_not_mem.mpr fun u hu => ?_
    cases (of_mem_run_enclosed hu).1
  induction t generalizing offset c with
  | nil =>
    unfold matchFrom
    rw [hnone]
    rfl
  | cons d rest ih =>
    unfold matchFrom
    rw [hnone]
    exact ih (offset + 1) d

lemma matchFrom_enclosed (q : Pattern) (t : Text) :
    matchFrom (enclosed q) 0 none t = ((enclosed q).run (.atStart t)).head?.map (0, ·) := by
  cases t with
  | nil => rfl
  | cons c rest =>
    have hlater := matchFrom_enclosed_of_some q 1 c rest
    unfold matchFrom Thread.atStart
    cases ((enclosed q).run ⟨0, none, c :: rest, []⟩).head? with
    | some t => rfl
    | none => exact hlater

/-- Between the ends of the text a pattern matches all of it or nothing. -/
theorem span?_enclosed (q : Pattern) (t : Text) :
    (enclosed q).span? t = if q.Describes t then some (0, t.length) else none := by
  unfold span?
  rw [matchFrom_enclosed]
  cases hruns : (enclosed q).run (.atStart t) with
  | nil =>
    rw [if_neg fun h => run_enclosed_ne_nil h hruns]
    rfl
  | cons u us =>
    have hu : u ∈ (enclosed q).run (.atStart t) := hruns ▸ List.mem_cons_self
    obtain ⟨-, hdescribes, hrest⟩ := of_mem_run_enclosed hu
    have hlength : u.offset = 0 + t.length := (follows_of_mem_run hu).offset_eq hrest
    rw [Nat.zero_add] at hlength
    rw [if_pos ⟨u, hdescribes, hrest⟩, ← hlength]
    rfl

lemma isSome_captures?_enclosed (q : Pattern) (t : Text) :
    ((enclosed q).captures? t).isSome = decide (q.Describes t) := by
  rw [isSome_captures?, span?_enclosed]
  split_ifs with h <;> simp [h]

end Pattern

namespace Rule

/-- The place of the pattern through which a rule converts a line: the first that matches. -/
def through? (rule : Rule) (line : Text) : Option Nat :=
  rule.patterns.findIdx? fun p => (p.captures? line).isSome

lemma statement?_eq_through? (rule : Rule) (line : Text) :
    rule.statement? line =
      (rule.through? line).bind fun i => (rule.patterns[i]?).bind fun p =>
        (p.captures? line).map fun groups =>
          Template.fill rule.written.template (arguments rule.filling groups) := by
  unfold statement? through?
  induction rule.patterns with
  | nil => rfl
  | cons p patterns ih =>
    rw [List.findSome?_cons, List.findIdx?_cons]
    cases hp : p.captures? line with
    | none =>
      rw [Option.map_none, ih, Option.isSome_none, if_neg Bool.false_ne_true, Option.bind_map]
      rfl
    | some groups => simp [hp]

lemma isSome_statement? (rule : Rule) (line : Text) :
    (rule.statement? line).isSome = (rule.through? line).isSome := by
  rw [statement?_eq_through?]
  cases hthrough : rule.through? line with
  | none => rfl
  | some i =>
    obtain ⟨hi, hmatches, -⟩ := List.findIdx?_eq_some_iff_getElem.mp hthrough
    rw [Option.bind_some, List.getElem?_eq_getElem hi, Option.bind_some, Option.isSome_map,
      hmatches]
    rfl

/-- What a written pattern describes by itself, if it can stand alone. -/
def describes (line written : Text) : Bool :=
  (Pattern.read? written).any fun q => decide (q.Describes line)

/-- The pattern that a text writes between the ends of the line, or else the text. -/
def readPattern (read? : Text → Option Pattern) (w : Text) : Except Text Pattern :=
  match read? (wholeLine w) with
  | some p => .ok p
  | none => .error w

section Read

variable {read? : Text → Option Pattern}

lemma readPatterns_eq_mapM (written : List Text) :
    readPatterns read? written = written.mapM (readPattern read?) := by
  induction written with
  | nil => rfl
  | cons w rest ih =>
    rw [readPatterns, List.mapM_cons, ← ih, readPattern]
    cases read? (wholeLine w) with
    | none => rfl
    | some p => cases readPatterns read? rest <;> rfl

lemma readPattern_eq_ok_iff {w : Text} {p : Pattern} :
    readPattern read? w = .ok p ↔ read? (wholeLine w) = some p := by
  unfold readPattern
  cases read? (wholeLine w) <;> simp

lemma readPatterns_eq_ok_iff {written : List Text} {patterns : List Pattern} :
    readPatterns read? written = .ok patterns ↔
      List.Forall₂ (fun w p => read? (wholeLine w) = some p) written patterns := by
  rw [readPatterns_eq_mapM, mapM_eq_ok_iff]
  simp only [readPattern_eq_ok_iff]

lemma of_compile {written : WrittenRule} {rule : Rule}
    (h : compileWith read? written = .ok rule) :
    rule.written = written ∧ readPatterns read? written.patterns = .ok rule.patterns := by
  unfold compileWith at h
  split_ifs at h
  cases hread : readPatterns read? written.patterns with
  | error bad => simp [hread] at h
  | ok patterns =>
    simp only [hread] at h
    split_ifs at h
    cases h
    exact ⟨rfl, rfl⟩

end Read

section Pattern

variable {w : Text} {p q : Pattern} (hp : Pattern.read? (wholeLine w) = some p)
  (hq : Pattern.read? w = some q)

include hp hq

lemma span?_of_read? (line : Text) :
    p.span? line = if q.Describes line then some (0, line.length) else none := by
  rw [Pattern.read?_wholeLine hp hq]
  exact Pattern.span?_enclosed q line

lemma isSome_captures?_eq_describes (line : Text) :
    (p.captures? line).isSome = describes line w := by
  rw [Pattern.read?_wholeLine hp hq, describes, hq]
  exact Pattern.isSome_captures?_enclosed q line

end Pattern

lemma findIdx?_eq_of_forall₂ {written : List Text} {patterns : List Pattern}
    (h : List.Forall₂ (fun w p => Pattern.read? (wholeLine w) = some p) written patterns)
    (halone : ∀ w ∈ written, (Pattern.read? w).isSome) (line : Text) :
    (patterns.findIdx? fun p => (p.captures? line).isSome) = written.findIdx? (describes line) := by
  induction h with
  | nil => rfl
  | cons hp _ ih =>
    rw [List.forall_mem_cons] at halone
    obtain ⟨q, hq⟩ := Option.isSome_iff_exists.mp halone.1
    rw [List.findIdx?_cons, List.findIdx?_cons, isSome_captures?_eq_describes hp hq, ih halone.2]

lemma convert_eq_of_through?_eq_none {rule : Rule} {line : Text} (h : rule.through? line = none)
    (before after : List Rule) :
    Rulebook.convert ⟨before ++ rule :: after⟩ line = Rulebook.convert ⟨before ++ after⟩ line := by
  have hnone : rule.statement? line = none := by
    rw [statement?_eq_through?, h]
    rfl
  unfold Rulebook.convert Rulebook.statement?
  simp only [List.findSome?_append, List.findSome?_cons, hnone]

/-- A rule converts a line through the first of its patterns that matches. If what is written there
can stand alone as a pattern, the match reaches from the start of the line to its end, and the
pattern by itself describes all of the line. A rule of such patterns converts exactly the lines
that one of them describes, through the first; any other line is converted as if the rule were not
there. -/
theorem statement?_wholeLine {written : WrittenRule} {rule : Rule} (h : compile written = .ok rule)
    (line : Text) :
    (∀ statement, rule.statement? line = some statement →
      ∃ i w p groups, rule.through? line = some i ∧ written.patterns[i]? = some w ∧
        rule.patterns[i]? = some p ∧ p.captures? line = some groups ∧
        statement = Template.fill written.template (arguments rule.filling groups) ∧
        ((Pattern.read? w).isSome →
          p.span? line = some (0, line.length) ∧ describes line w)) ∧
      ((∀ w ∈ written.patterns, (Pattern.read? w).isSome) →
        rule.through? line = written.patterns.findIdx? (describes line) ∧
        (rule.statement? line).isSome = written.patterns.any (describes line) ∧
        ((∀ w ∈ written.patterns, ¬describes line w) → ∀ before after : List Rule,
          Rulebook.convert ⟨before ++ rule :: after⟩ line =
            Rulebook.convert ⟨before ++ after⟩ line)) := by
  obtain ⟨hwritten, hpatterns⟩ := of_compile h
  have hread := readPatterns_eq_ok_iff.mp hpatterns
  constructor
  · intro statement hstatement
    rw [statement?_eq_through?, hwritten] at hstatement
    obtain ⟨i, hthrough, hstatement⟩ := Option.bind_eq_some_iff.mp hstatement
    obtain ⟨p, hp, hstatement⟩ := Option.bind_eq_some_iff.mp hstatement
    obtain ⟨groups, hgroups, hfill⟩ := Option.map_eq_some_iff.mp hstatement
    obtain ⟨hi, rfl⟩ := List.getElem?_eq_some_iff.mp hp
    have hi' : i < written.patterns.length := hread.length_eq ▸ hi
    have hw : Pattern.read? (wholeLine written.patterns[i]) = some rule.patterns[i] :=
      hread.get hi' hi
    refine ⟨i, written.patterns[i], _, groups, hthrough, List.getElem?_eq_getElem hi', hp, hgroups,
      hfill.symm, fun halone => ?_⟩
    obtain ⟨q, hq⟩ := Option.isSome_iff_exists.mp halone
    have hdescribes : describes line written.patterns[i] := by
      rw [← isSome_captures?_eq_describes hw hq]
      exact Option.isSome_iff_exists.mpr ⟨groups, hgroups⟩
    have hq' : q.Describes line := by
      rw [describes, hq] at hdescribes
      exact of_decide_eq_true hdescribes
    exact ⟨(span?_of_read? hw hq line).trans (if_pos hq'), hdescribes⟩
  · intro halone
    have hthrough : rule.through? line = written.patterns.findIdx? (describes line) :=
      findIdx?_eq_of_forall₂ hread halone line
    refine ⟨hthrough, ?_, fun hnone before after => ?_⟩
    · rw [isSome_statement?, hthrough, List.findIdx?_isSome]
    · have hthrough' : rule.through? line = none := by
        rw [hthrough, List.findIdx?_eq_none_iff]
        exact fun w hw => Bool.eq_false_iff.mpr (hnone w hw)
      exact convert_eq_of_through?_eq_none hthrough' before after

theorem statement?_wholeLine_call :
    let written : WrittenRule := ⟨"call".toList,
      ["call\\s+(\\w+)", "run (\\w+)"].map String.toList, "%s();".toList⟩
    ∃ rule, compile written = .ok rule ∧ rule.through? "RUN dog".toList = some 1 ∧
      (∃ p ∈ rule.patterns, p.span? "RUN dog".toList = some (0, 7)) ∧
      Rulebook.convert ⟨[rule]⟩ "run dog now".toList = "run dog now;".toList := by
  intro written
  obtain ⟨rule, h⟩ : ∃ rule, compile written = .ok rule := by
    have hok : (compile written).isOk = true := by decide +kernel
    cases hcompile : compile written with
    | ok rule => exact ⟨rule, rfl⟩
    | error fault => cases hcompile ▸ hok
  have halone : ∀ w ∈ written.patterns, (Pattern.read? w).isSome := by decide +kernel
  obtain ⟨hspan, hthrough⟩ := statement?_wholeLine h "RUN dog".toList
  obtain ⟨hthrough, hconverts, -⟩ := hthrough halone
  have hany : written.patterns.any (describes "RUN dog".toList) = true := by decide +kernel
  obtain ⟨statement, hstatement⟩ := Option.isSome_iff_exists.mp (hconverts.trans hany)
  obtain ⟨i, w, p, groups, -, hw, hp, -, -, hwhole⟩ := hspan statement hstatement
  have hplain := (statement?_wholeLine h "run dog now".toList).2 halone
  refine ⟨rule, h, hthrough.trans (by decide +kernel), ⟨p, List.mem_of_getElem? hp, ?_⟩, ?_⟩
  · exact (hwhole (halone w (List.mem_of_getElem? hw))).1
  · exact (hplain.2.2 (by decide +kernel) [] []).trans (by decide +kernel)

/-- A text that is no pattern by itself and closes the group it is put in: the rule converts a line
of which its pattern matches only the first character. -/
theorem statement?_partOfLine :
    let written : WrittenRule := ⟨"k".toList, ["a)|(?:b".toList], "hit".toList⟩
    let line := "a tail".toList
    ∃ rule p, compile written = .ok rule ∧ rule.patterns = [p] ∧
      rule.statement? line = some "hit".toList ∧ p.span? line = some (0, 1) ∧
      Rulebook.convert ⟨[rule]⟩ line ≠ Rulebook.convert ⟨[]⟩ line := by
  intro written line
  let p : Pattern := .alt (.seq (.anchor .textStart) (.one (.anyCase (.single 'a'))))
    (.seq (.one (.anyCase (.single 'b'))) (.anchor .textEnd))
  exact ⟨⟨written, [p], .inOrder⟩, p, rfl, rfl, by decide +kernel, by decide +kernel,
    by decide +kernel⟩

end Rule
end Pseudocode
