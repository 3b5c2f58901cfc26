import Pseudocode.Proofs.OnLines

/-!
# Classes from their sources

No part of a class brings a line feed into its source, so that the source is a list of lines: the
head, the blocks with an empty line before each, and the closing brace. A block of fields does not
end in a brace as the other blocks do, a note begins with slashes as no declaration does, and no
declaration is that of the entry point. The lines therefore tell the class, but for blank statements
of the entry point, which the source leaves out.
-/

namespace Pseudocode

namespace Java

open Text

/-! ### Lists of lines -/

/-- Lines put together into a text. -/
def unlines (lines : List Text) : Text := lines.flatMap (· ++ ['\n'])

lemma unlines_append (first second : List Text) :
    unlines (first ++ second) = unlines first ++ unlines second :=
  List.flatMap_append

lemma unlines_cons (first : Text) (rest : List Text) :
    unlines (first :: rest) = first ++ '\n' :: unlines rest := by
  rw [unlines, List.flatMap_cons, List.append_assoc]
  rfl

lemma unlines_inj {lines other : List Text} (hlines : ∀ l ∈ lines, IsLine l)
    (hother : ∀ l ∈ other, IsLine l) (h : unlines lines = unlines other) : lines = other := by
  have hrun {l : Text} (hl : IsLine l) : ∀ c ∈ l, (c != '\n') = true :=
    fun c hc => bne_iff_ne.mpr fun heq => hl (heq ▸ hc)
  induction lines generalizing other with
  | nil =>
    cases other with
    | nil => rfl
    | cons m other =>
      rw [unlines_cons] at h
      exact absurd h.symm (List.append_ne_nil_of_right_ne_nil m (List.cons_ne_nil _ _))
  | cons l lines ih =>
    cases other with
    | nil =>
      rw [unlines_cons] at h
      exact absurd h (List.append_ne_nil_of_right_ne_nil l (List.cons_ne_nil _ _))
    | cons m other =>
      obtain ⟨hl, hls⟩ := List.forall_mem_cons.mp hlines
      obtain ⟨hm, hms⟩ := List.forall_mem_cons.mp hother
      rw [unlines_cons, unlines_cons] at h
      obtain ⟨hfirst, -, hrest⟩ := append_cons_inj (hrun hl) (hrun hm) (by decide) (by decide) h
      rw [hfirst, ih hls hms hrest]

lemma takeWhile_blocks (blocks : List (List Text)) :
    (blocks.flatMap ([] :: ·)).takeWhile (!·.isEmpty) = [] := by
  cases blocks <;> rfl

/-- Blocks of lines that are not empty are told apart by the empty lines before them. -/
lemma blocks_inj {blocks other : List (List Text)} (hblocks : ∀ b ∈ blocks, ∀ l ∈ b, l ≠ [])
    (hother : ∀ b ∈ other, ∀ l ∈ b, l ≠ [])
    (h : blocks.flatMap ([] :: ·) = other.flatMap ([] :: ·)) : blocks = other := by
  have hrun {b : List Text} (hb : ∀ l ∈ b, l ≠ []) (rest : List (List Text)) :
      (b ++ rest.flatMap ([] :: ·)).takeWhile (!·.isEmpty) = b := by
    rw [List.takeWhile_append_of_pos fun l hl => by simpa using hb l hl, takeWhile_blocks,
      List.append_nil]
  induction blocks generalizing other with
  | nil =>
    cases other with
    | nil => rfl
    | cons b other => exact absurd h.symm (List.cons_ne_nil _ _)
  | cons a blocks ih =>
    cases other with
    | nil => exact absurd h (List.cons_ne_nil _ _)
    | cons b other =>
      obtain ⟨ha, has⟩ := List.forall_mem_cons.mp hblocks
      obtain ⟨hb, hbs⟩ := List.forall_mem_cons.mp hother
      have htail : a ++ blocks.flatMap ([] :: ·) = b ++ other.flatMap ([] :: ·) :=
        (List.cons.inj h).2
      have hfirst : a = b := by rw [← hrun ha blocks, ← hrun hb other, htail]
      rw [hfirst] at htail
      rw [hfirst, ih has hbs (List.append_cancel_left htail)]

/-! ### The lines of a source -/

def Procedure.lines (indent : Text) (p : Procedure) : List Text :=
  (p.note.map fun text => indent ++ "// ".toList ++ text).toList
    ++ (indent ++ p.head ++ " \x7b".toList) :: p.statements.map (indent ++ indent ++ ·)
    ++ [indent ++ "\x7d".toList]

lemma Procedure.render_eq_unlines (indent : Text) (p : Procedure) :
    p.render indent = unlines (p.lines indent) := by
  obtain ⟨note, head, statements⟩ := p
  cases note <;> simp [render, lines, unlines, line, List.flatMap_map]

/-- The lines of the fields of a class, if it has any. -/
def fieldLines (indent : Text) (c : ClassOutline) : List (List Text) :=
  if c.fields.isEmpty then [] else [c.fields.map fun entry => indent ++ entry.render]

lemma fieldBlocks_eq_unlines (indent : Text) (c : ClassOutline) :
    fieldBlocks indent c = (fieldLines indent c).map unlines := by
  unfold fieldBlocks fieldLines
  split_ifs
  · rfl
  · simp [unlines, line, List.flatMap_map]

/-- The first line of a class. -/
def headLine (c : ClassOutline) : Text :=
  let parent := match c.parent with
    | some name => " extends ".toList ++ name
    | none => []
  "public class ".toList ++ (c.name ++ (parent ++ " \x7b".toList))

lemma head_eq_unlines (c : ClassOutline) : head c = unlines [headLine c] :=
  (List.append_nil _).symm

/-- The blocks of a class as lists of lines. -/
def blockLines (indent scanner : Text) (c : ClassOutline) (force : Bool) : List (List Text) :=
  fieldLines indent c ++ (procedures scanner c force).map (·.lines indent)

/-- The lines of a source after its imports. -/
def sourceLines (indent scanner : Text) (c : ClassOutline) (force : Bool) : List Text :=
  headLine c :: (blockLines indent scanner c force).flatMap ([] :: ·) ++ ["\x7d".toList]

lemma sourceWith_eq_unlines (indent scanner : Text) (c : ClassOutline) (isEntry force : Bool) :
    sourceWith indent scanner c isEntry force =
      (if isEntry then imports else []) ++ unlines (sourceLines indent scanner c force) := by
  have hblocks : fieldBlocks indent c ++ (procedures scanner c force).map (·.render indent) =
      (blockLines indent scanner c force).map unlines := by
    rw [blockLines, List.map_append, fieldBlocks_eq_unlines, List.map_map]
    exact congrArg _ (List.map_congr_left fun p _ => p.render_eq_unlines indent)
  have hseparated (blocks : List (List Text)) :
      (blocks.map unlines).flatMap ('\n' :: ·) = unlines (blocks.flatMap ([] :: ·)) := by
    induction blocks with
    | nil => rfl
    | cons b blocks ih =>
      rw [List.map_cons, List.flatMap_cons, ih, List.flatMap_cons, unlines_append, unlines_cons]
      rfl
  rw [sourceWith, hblocks, hseparated, sourceLines, unlines_append, unlines_cons, head_eq_unlines,
    List.append_assoc, List.append_assoc, List.append_assoc, unlines_cons, List.append_assoc]
  rfl

/-- The lines of a source, the import of the class to launch among them. -/
def unitLines (indent : Text) (c : ClassOutline) (isEntry force : Bool) : List Text :=
  (if isEntry then ["import java.util.*;".toList, []] else []) ++
    sourceLines indent (if isEntry then "Scanner".toList else "java.util.Scanner".toList) c force

lemma source_eq_unlines (indent : Text) (c : ClassOutline) (isEntry force : Bool) :
    source indent c isEntry force = unlines (unitLines indent c isEntry force) := by
  rw [source_eq_sourceWith, scannerType, hasImports_source, sourceWith_eq_unlines, unitLines,
    unlines_append]
  cases isEntry <;> rfl

end Java

/-! ### Classes read from lines -/

/-- A class whose parts were read from texts on one line each. -/
structure ClassOutline.IsRead (c : ClassOutline) : Prop where
  name : ∀ ch ∈ c.name, Text.isWhite ch = false
  parent : ∀ p ∈ c.parent, Text.IsWord p
  fields : ∀ f ∈ c.fields, ∃ line : Text, line.IsLine ∧ f = .ofLine line
  headers : ∀ m ∈ c.methods, ∃ header : Text, header.IsLine ∧ m.signature = .ofHeader c.name header
  bodies : ∀ m ∈ c.methods, ∀ s ∈ m.body, Text.IsLine s
  statements : ∀ s ∈ c.statements, Text.IsLine s

/-- A converter whose templates have no line feed and whose default class has no white space in its
name. -/
structure Converter.WritesLines (c : Converter) : Prop where
  templates : ∀ rule ∈ c.book.rules, rule.written.template.IsLine
  name : ∀ ch ∈ c.defaultClass, Text.isWhite ch = false

lemma ClassOutline.IsRead.isOnLines {c : ClassOutline} (hc : c.IsRead) : c.IsOnLines := by
  have hname : c.name.IsLine :=
    Text.isLine_of_forall (p := (!Text.isWhite ·)) (fun ch hch => by rw [hc.name ch hch]; rfl)
      (by decide)
  exact .of_lines hname hc.parent hc.fields hc.headers hc.bodies hc.statements

lemma Converter.WritesLines.isRead {c : Converter} (hc : c.WritesLines) (t : Text) :
    ∀ cls ∈ (c.convert t).outline.classes, cls.IsRead := by
  intro cls hcls
  have h := c.isFrom_convert t cls hcls
  refine ⟨?_, h.parent, h.fields, h.headers, fun m hm s hs => ?_, fun s hs => ?_⟩
  · rcases h.name with hname | hword
    · rw [hname]
      exact hc.name
    · exact fun ch hch => Text.isWhite_eq_false_of_isWordChar (hword.2 ch hch)
  · exact ((h.methods m hm).body s hs).isLine hc.templates
  · exact (h.statements s hs).isLine hc.templates

/-! ### Methods of a source -/

namespace Signature

variable {owner header : Text} {s : Signature}

lemma head?_declaration (s : Signature) : s.declaration.head? = some 'p' := by
  unfold declaration
  split <;> rfl

lemma declaration_unreadable (owner header : Text) :
    (unreadable owner header).declaration = "public void unknownMethod()".toList := rfl

lemma ReadFrom.declaration_ne_main (h : ReadFrom owner header s) :
    s.declaration ≠ "public static void main(String[] args)".toList := by
  have hmain : "public static void main(String[] args)".toList = "public ".toList ++
      ("static".toList ++ ' ' :: ("void".toList ++ ' ' :: "main(String[] args)".toList)) := rfl
  have hstatic : Text.IsWord "static".toList := ⟨List.cons_ne_nil _ _, by decide⟩
  have hvoid : Text.IsWord "void".toList := ⟨List.cons_ne_nil _ _, by decide⟩
  rw [hmain]
  intro heq
  cases h with
  | unreadable =>
    rw [declaration_unreadable] at heq
    exact absurd heq (by decide)
  | constructor howner =>
    rw [declaration_constructor] at heq
    exact name_append_ne howner hstatic _ _ (List.append_cancel_left heq)
  | method _ hname hty =>
    rw [declaration_method] at heq
    obtain ⟨-, -, hrest⟩ := Text.append_cons_inj hty.2 hstatic.2 isWordChar_signs.1
      isWordChar_signs.1 (List.append_cancel_left heq)
    exact name_append_ne hname hvoid _ _ hrest

end Signature

namespace Java

open Text

/-- The parts of a method of a source that stays within its lines. -/
structure Procedure.IsPlain (p : Procedure) : Prop where
  head? : p.head.head? = some 'p'
  head : p.head.IsLine
  note : ∀ text ∈ p.note, IsLine text
  statements : ∀ s ∈ p.statements, IsLine s

lemma isLine_scannerType (source : Text) : (scannerType source).IsLine := by
  unfold scannerType
  split_ifs <;> decide

lemma isPlain_main {scanner : Text} (hscanner : scanner.IsLine) {statements : List Text}
    (h : ∀ s ∈ statements, IsLine s) : (Procedure.main scanner statements).IsPlain := by
  have hhead : Text.IsLine "public static void main(String[] args)".toList := by decide
  refine ⟨rfl, hhead, fun text htext => absurd htext (Option.not_mem_none text), fun s hs => ?_⟩
  rcases List.mem_cons.mp hs with rfl | hs
  · have hspace : Text.IsLine (' ' :: Statement.scannerName) := by decide
    exact (((hscanner.append hspace).append (by decide)).append hscanner).append (by decide)
  · exact h s (List.mem_filter.mp hs).1

variable {c d : ClassOutline}

lemma isPlain_ofMethod (hc : c.IsOnLines) {m : Method} (hm : m ∈ c.methods) :
    (Procedure.ofMethod m).IsPlain :=
  ⟨m.signature.head?_declaration, Signature.isLine_declaration (hc.signatures m hm),
    Signature.isLine_diagnostic (hc.signatures m hm), hc.bodies m hm⟩

lemma isPlain_of_mem_procedures (hc : c.IsOnLines) {scanner : Text} (hscanner : scanner.IsLine)
    (force : Bool) : ∀ p ∈ procedures scanner c force, p.IsPlain := by
  intro p hp
  rcases List.mem_append.mp hp with hp | hp
  · obtain ⟨m, hm, rfl⟩ := List.mem_map.mp hp
    exact isPlain_ofMethod hc hm
  · split_ifs at hp
    · rw [List.mem_singleton.mp hp]
      exact isPlain_main hscanner hc.statements
    · exact absurd hp List.not_mem_nil

/-! ### Blocks -/

/-- Lists with the same images are the same where the entries can be told from their images. -/
lemma eq_of_map_eq {α β : Type} {f : α → β} {l l' : List α}
    (hf : ∀ a ∈ l, ∀ b ∈ l', f a = f b → a = b) (h : l.map f = l'.map f) : l = l' := by
  induction l generalizing l' with
  | nil => exact (List.map_eq_nil_iff.mp h.symm).symm
  | cons a l ih =>
    cases l' with
    | nil => exact absurd h (List.cons_ne_nil _ _)
    | cons b l' =>
      obtain ⟨hab, hrest⟩ := List.cons.inj h
      rw [hf a List.mem_cons_self b List.mem_cons_self hab, ih (fun a ha b hb =>
        hf a (List.mem_cons_of_mem _ ha) b (List.mem_cons_of_mem _ hb)) hrest]

variable {indent : Text}

lemma Procedure.exists_of_mem_lines {p : Procedure} (hp : p.IsPlain) (hindent : indent.IsLine) :
    ∀ l ∈ p.lines indent, ∃ rest : Text, rest.IsLine ∧ l = indent ++ rest := by
  intro l hl
  rcases List.mem_append.mp hl with hl | hl
  · rcases List.mem_append.mp hl with hl | hl
    · obtain ⟨text, htext, rfl⟩ := Option.map_eq_some_iff.mp (Option.mem_toList.mp hl)
      exact ⟨_, .append (by decide) (hp.note text htext), List.append_assoc _ _ _⟩
    · rcases List.mem_cons.mp hl with rfl | hl
      · exact ⟨_, hp.head.append (by decide), List.append_assoc _ _ _⟩
      · obtain ⟨s, hs, rfl⟩ := List.mem_map.mp hl
        exact ⟨_, hindent.append (hp.statements s hs), List.append_assoc _ _ _⟩
  · exact ⟨_, by decide, List.mem_singleton.mp hl⟩

lemma Procedure.eq_of_lines_eq {p q : Procedure} (hp : p.IsPlain) (hq : q.IsPlain)
    (h : p.lines indent = q.lines indent) : p = q := by
  -- a note begins with slashes, and a head with the word for its visibility
  have hnote {text : Text} {r : Procedure} (hr : r.IsPlain) :
      indent ++ "// ".toList ++ text ≠ indent ++ r.head ++ " \x7b".toList := by
    intro heq
    rw [List.append_assoc, List.append_assoc] at heq
    have hfirst := congrArg List.head? (List.append_cancel_left heq)
    rw [List.head?_append, List.head?_append, hr.head?] at hfirst
    have hslash : some '/' = some 'p' := hfirst
    exact absurd hslash (by decide)
  have hrest {r : Procedure} : r.lines indent =
      (r.note.map fun text => indent ++ "// ".toList ++ text).toList ++
        ((indent ++ r.head ++ " \x7b".toList) ::
          (r.statements.map (indent ++ indent ++ ·) ++ [indent ++ "\x7d".toList])) :=
    List.append_assoc _ _ _
  obtain ⟨note, head, statements⟩ := p
  obtain ⟨note', head', statements'⟩ := q
  rw [hrest, hrest] at h
  have hnotes : note = note' := by
    cases note with
    | none =>
      cases note' with
      | none => rfl
      | some text => exact absurd (List.cons.inj h).1.symm (hnote hp)
    | some text =>
      cases note' with
      | none => exact absurd (List.cons.inj h).1 (hnote hq)
      | some text' => rw [List.append_cancel_left (List.cons.inj h).1]
  subst hnotes
  obtain ⟨hhead, hbody⟩ := List.cons.inj (List.append_cancel_left h)
  have hstatements : statements = statements' :=
    eq_of_map_eq (fun _ _ _ _ => List.append_cancel_left) (List.append_cancel_right hbody)
  have hheads : head = head' := List.append_cancel_left (List.append_cancel_right hhead)
  rw [hheads, hstatements]

lemma render_ne_brace (entry : FieldEntry) : entry.render ≠ "\x7d".toList := by
  intro h
  have hfirst : entry.render.head? = some '\x7d' := congrArg List.head? h
  cases entry with
  | declared field =>
    rw [FieldEntry.head?_render_declared] at hfirst
    exact absurd hfirst (by decide)
  | unreadable line =>
    have hslash : (FieldEntry.unreadable line).render.head? = some '/' := rfl
    rw [hslash] at hfirst
    exact absurd hfirst (by decide)

lemma map_render_ne_lines (fields : List FieldEntry) (p : Procedure) :
    (fields.map fun entry => indent ++ entry.render) ≠ p.lines indent := by
  intro h
  have hlast : indent ++ "\x7d".toList ∈ (p.lines indent).getLast? := List.getLast?_concat
  rw [← h, List.getLast?_map] at hlast
  obtain ⟨entry, -, hentry⟩ := Option.map_eq_some_iff.mp hlast
  exact render_ne_brace entry (List.append_cancel_left hentry)

lemma fieldLines_of_ne_nil (h : c.fields ≠ []) :
    fieldLines indent c = [c.fields.map fun entry => indent ++ entry.render] :=
  if_neg (by simpa using h)

lemma fieldLines_of_eq_nil (h : c.fields = []) : fieldLines indent c = [] := if_pos (by simp [h])

lemma exists_of_mem_blockLines (hc : c.IsOnLines) {scanner : Text} (hscanner : scanner.IsLine)
    (hindent : indent.IsLine) (force : Bool) : ∀ b ∈ blockLines indent scanner c force, ∀ l ∈ b,
      ∃ rest : Text, rest.IsLine ∧ l = indent ++ rest := by
  intro b hb l hl
  rcases List.mem_append.mp hb with hb | hb
  · by_cases hfields : c.fields = []
    · rw [fieldLines_of_eq_nil hfields] at hb
      exact absurd hb List.not_mem_nil
    · rw [fieldLines_of_ne_nil hfields] at hb
      rw [List.mem_singleton.mp hb] at hl
      obtain ⟨entry, hentry, rfl⟩ := List.mem_map.mp hl
      exact ⟨_, FieldEntry.isLine_render (hc.fields entry hentry), rfl⟩
  · obtain ⟨p, hp, rfl⟩ := List.mem_map.mp hb
    exact (p.exists_of_mem_lines (isPlain_of_mem_procedures hc hscanner force p hp) hindent) l hl

lemma eq_of_blockLines_eq (hc : c.IsRead) (hd : d.IsRead) {scanner : Text}
    (hscanner : scanner.IsLine) {force : Bool}
    (h : blockLines indent scanner c force = blockLines indent scanner d force) :
    c.fields = d.fields ∧ procedures scanner c force = procedures scanner d force := by
  have hprocedures (h : (procedures scanner c force).map (·.lines indent) =
      (procedures scanner d force).map (·.lines indent)) :
      procedures scanner c force = procedures scanner d force :=
    eq_of_map_eq (fun p hp q hq => Procedure.eq_of_lines_eq
      (isPlain_of_mem_procedures hc.isOnLines hscanner force p hp)
      (isPlain_of_mem_procedures hd.isOnLines hscanner force q hq)) h
  -- a block of fields is the block of no method
  have hmixed {fields : List FieldEntry} {blocks : List (List Text)} {procedures : List Procedure}
      (h : (fields.map fun entry => indent ++ entry.render) :: blocks =
        procedures.map (·.lines indent)) : False := by
    cases procedures with
    | nil => exact absurd h (List.cons_ne_nil _ _)
    | cons p procedures => exact map_render_ne_lines fields p (List.cons.inj h).1
  unfold blockLines at h
  by_cases hcf : c.fields = []
  · by_cases hdf : d.fields = []
    · rw [fieldLines_of_eq_nil hcf, fieldLines_of_eq_nil hdf] at h
      exact ⟨hcf.trans hdf.symm, hprocedures h⟩
    · rw [fieldLines_of_eq_nil hcf, fieldLines_of_ne_nil hdf] at h
      exact (hmixed h.symm).elim
  · by_cases hdf : d.fields = []
    · rw [fieldLines_of_ne_nil hcf, fieldLines_of_eq_nil hdf] at h
      exact (hmixed h).elim
    · rw [fieldLines_of_ne_nil hcf, fieldLines_of_ne_nil hdf] at h
      obtain ⟨hfields, hrest⟩ := List.cons.inj h
      refine ⟨eq_of_map_eq (fun f hf g hg hfg => ?_) hfields, hprocedures hrest⟩
      obtain ⟨line, -, rfl⟩ := hc.fields f hf
      obtain ⟨other, -, rfl⟩ := hd.fields g hg
      exact FieldEntry.ofLine_eq_of_render_eq (List.append_cancel_left hfg)

/-! ### Methods and the entry point -/

lemma eq_of_ofMethod_eq (hc : c.IsRead) (hd : d.IsRead) (hname : c.name = d.name) {m m' : Method}
    (hm : m ∈ c.methods) (hm' : m' ∈ d.methods)
    (h : Procedure.ofMethod m = Procedure.ofMethod m') : m = m' := by
  obtain ⟨header, -, hs⟩ := hc.headers m hm
  obtain ⟨header', -, hs'⟩ := hd.headers m' hm'
  have hread := Signature.readFrom_ofHeader c.name header
  have hread' := Signature.readFrom_ofHeader d.name header'
  rw [← hs] at hread
  rw [← hs', ← hname] at hread'
  obtain ⟨signature, body⟩ := m
  obtain ⟨signature', body'⟩ := m'
  obtain ⟨hdiagnostic, hdeclaration, hbody⟩ := Procedure.mk.inj h
  exact Method.mk.injEq .. ▸ ⟨hread.eq_of_declaration_eq hread' hdiagnostic hdeclaration, hbody⟩

lemma main_notMem (hc : c.IsRead) (scanner : Text) (statements : List Text) :
    Procedure.main scanner statements ∉ c.methods.map .ofMethod := by
  intro hmem
  obtain ⟨m, hm, heq⟩ := List.mem_map.mp hmem
  obtain ⟨header, -, hs⟩ := hc.headers m hm
  have hread := Signature.readFrom_ofHeader c.name header
  rw [← hs] at hread
  exact hread.declaration_ne_main (congrArg Procedure.head heq)

/-- The statements that a source shows. -/
def shown (c : ClassOutline) : List Text := c.statements.filter (!Text.isBlank ·)

lemma eq_of_procedures_eq (hc : c.IsRead) (hd : d.IsRead) (hname : c.name = d.name) {scanner : Text}
    {force : Bool} (h : procedures scanner c force = procedures scanner d force) :
    c.methods = d.methods ∧ shown c = shown d := by
  have hmethods (h : c.methods.map Procedure.ofMethod = d.methods.map .ofMethod) :
      c.methods = d.methods :=
    eq_of_map_eq (fun m hm m' hm' => eq_of_ofMethod_eq hc hd hname hm hm') h
  have hnone {c : ClassOutline} (h : ¬(c.hasEntry || force) = true) : shown c = [] := by
    rw [Bool.or_eq_true, not_or, ClassOutline.hasEntry] at h
    have hempty : c.statements = [] := by simpa using h.1
    rw [shown, hempty]
    rfl
  have hlast : ∀ {l l' : List Procedure} {p : Procedure}, l ++ [p] = l' ++ [] → p ∈ l' := by
    intro l l' p hl
    rw [List.append_nil] at hl
    exact hl ▸ List.mem_append_right l (List.mem_singleton_self p)
  unfold procedures at h
  split_ifs at h with hce hde hde
  · obtain ⟨hfirst, hmain⟩ := List.append_inj' h rfl
    have hstatements := congrArg Procedure.statements (List.singleton_inj.mp hmain)
    exact ⟨hmethods hfirst, (List.cons.inj hstatements).2⟩
  · exact absurd (hlast h) (main_notMem hd scanner c.statements)
  · exact absurd (hlast h.symm) (main_notMem hc scanner d.statements)
  · rw [List.append_nil, List.append_nil] at h
    exact ⟨hmethods h, (hnone hce).trans (hnone hde).symm⟩

/-! ### The head -/

/-- What stands after the name of a class in its head. -/
def clause : Option Text → Text
  | some parent => "extends ".toList ++ (parent ++ " \x7b".toList)
  | none => "\x7b".toList

lemma headLine_eq (c : ClassOutline) :
    headLine c = "public class ".toList ++ (c.name ++ ' ' :: clause c.parent) := by
  obtain ⟨name, parent, fields, methods, statements⟩ := c
  cases parent with
  | none => rfl
  | some parent =>
    have hclause : " extends ".toList ++ parent ++ " \x7b".toList = ' ' :: clause (some parent) :=
      List.append_assoc _ _ _
    exact congrArg (fun rest => "public class ".toList ++ (name ++ rest)) hclause

lemma clause_injective {parent parent' : Option Text} (h : clause parent = clause parent') :
    parent = parent' := by
  cases parent with
  | none =>
    cases parent' with
    | none => rfl
    | some p' => exact absurd (List.cons.inj h).1 (by decide)
  | some p =>
    cases parent' with
    | none => exact absurd (List.cons.inj h).1 (by decide)
    | some p' => exact congrArg some (List.append_cancel_right (List.append_cancel_left h))

lemma eq_of_headLine_eq (hc : c.IsRead) (hd : d.IsRead) (h : headLine c = headLine d) :
    c.name = d.name ∧ c.parent = d.parent := by
  have hrun {c : ClassOutline} (hc : c.IsRead) : ∀ ch ∈ c.name, (!Text.isWhite ch) = true :=
    fun ch hch => by rw [hc.name ch hch]; rfl
  rw [headLine_eq, headLine_eq] at h
  obtain ⟨hname, -, hclause⟩ := append_cons_inj (hrun hc) (hrun hd) (by decide) (by decide)
    (List.append_cancel_left h)
  exact ⟨hname, clause_injective hclause⟩

lemma isLine_headLine (hc : c.IsOnLines) : (headLine c).IsLine := by
  have hclause : (clause c.parent).IsLine := by
    cases hparent : c.parent with
    | none => decide
    | some parent => exact .append (by decide) ((hc.parent parent hparent).append (by decide))
  rw [headLine_eq]
  exact .append (by decide) (hc.name.append (.cons (by decide) hclause))

lemma isLine_sourceLines (hc : c.IsOnLines) (hindent : indent.IsLine) {scanner : Text}
    (hscanner : scanner.IsLine) (force : Bool) :
    ∀ l ∈ sourceLines indent scanner c force, IsLine l := by
  intro l hl
  rcases List.mem_append.mp hl with hl | hl
  · rcases List.mem_cons.mp hl with rfl | hl
    · exact isLine_headLine hc
    · obtain ⟨b, hb, hl⟩ := List.mem_flatMap.mp hl
      rcases List.mem_cons.mp hl with rfl | hl
      · decide
      · obtain ⟨rest, hrest, rfl⟩ := exists_of_mem_blockLines hc hscanner hindent force b hb l hl
        exact hindent.append hrest
  · rw [List.mem_singleton.mp hl]
    decide

/-- The source of a class, with or without imports and with or without a forced entry point, tells
the class but for the blank statements of its entry point, whatever rules and whatever text it comes
from. -/
theorem source_lossless {indent : Text} (hne : indent ≠ [])
    (hindent : ∀ ch ∈ indent, ch = ' ' ∨ ch = '\t') (isEntry force : Bool)
    {first second : Converter} (hfirst : first.WritesLines) (hsecond : second.WritesLines)
    {s t : Text} {c d : ClassOutline} (hc : c ∈ (first.convert s).outline.classes)
    (hd : d ∈ (second.convert t).outline.classes)
    (h : source indent c isEntry force = source indent d isEntry force) :
    c.name = d.name ∧ c.parent = d.parent ∧ c.fields = d.fields ∧ c.methods = d.methods ∧
      c.statements.filter (!Text.isBlank ·) = d.statements.filter (!Text.isBlank ·) := by
  have hc := hfirst.isRead s c hc
  have hd := hsecond.isRead t d hd
  have hline : indent.IsLine := fun hmem => by
    rcases hindent _ hmem with h | h <;> exact absurd h (by decide)
  let scanner := scannerType (source indent c isEntry force)
  have hscanner : scanner.IsLine := isLine_scannerType _
  -- both sources have the same imports, and the same lines after them
  have hlines : sourceLines indent scanner c force = sourceLines indent scanner d force := by
    have hcd : sourceWith indent scanner c isEntry force =
        sourceWith indent scanner d isEntry force := by
      have hd' := source_eq_sourceWith indent d isEntry force
      rw [← h] at hd'
      exact (source_eq_sourceWith indent c isEntry force).symm.trans hd'
    rw [sourceWith_eq_unlines, sourceWith_eq_unlines] at hcd
    exact unlines_inj (isLine_sourceLines hc.isOnLines hline hscanner force)
      (isLine_sourceLines hd.isOnLines hline hscanner force) (List.append_cancel_left hcd)
  obtain ⟨hhead, hbody⟩ := List.cons.inj hlines
  obtain ⟨hname, hparent⟩ := eq_of_headLine_eq hc hd hhead
  have hindented {c : ClassOutline} (hc : c.IsRead) :
      ∀ b ∈ blockLines indent scanner c force, ∀ l ∈ b, l ≠ [] := by
    intro b hb l hl
    obtain ⟨rest, -, rfl⟩ :=
      exists_of_mem_blockLines hc.isOnLines hscanner hline force b hb l hl
    exact List.append_ne_nil_of_left_ne_nil hne rest
  have hblocks := blocks_inj (hindented hc) (hindented hd) (List.append_cancel_right hbody)
  obtain ⟨hfields, hprocedures⟩ := eq_of_blockLines_eq hc hd hscanner hblocks
  obtain ⟨hmethods, hstatements⟩ := eq_of_procedures_eq hc hd hname hprocedures
  exact ⟨hname, hparent, hfields, hmethods, hstatements⟩

theorem source_lossless_blank :
    let rule : Rule := ⟨⟨"reset".toList, ["r".toList], "x = 0;".toList⟩,
      [.seq (.seq (.anchor .textStart) (.one (.anyCase (.single 'r')))) (.anchor .textEnd)],
      .inOrder⟩
    let first : Converter := .ofBook .empty
    let second : Converter := ⟨⟨[rule]⟩, "Main".toList, "  ".toList⟩
    let c : ClassOutline := ⟨"Main".toList, none, [], [],
      ["System.out.println(1);", "", "x = 0;"].map String.toList⟩
    let d : ClassOutline := ⟨"Main".toList, none, [], [],
      ["System.out.println(1);", "x = 0;"].map String.toList⟩
    c ∈ (first.convert "print 1\n\nx = 0\n".toList).outline.classes ∧
      d ∈ (second.convert "print 1\nR".toList).outline.classes ∧
      source "\t".toList c true true = source "\t".toList d true true ∧
      c.statements.filter (!Text.isBlank ·) = d.statements.filter (!Text.isBlank ·) := by
  intro rule first second c d
  have hc : c ∈ (first.convert "print 1\n\nx = 0\n".toList).outline.classes := by decide
  have hd : d ∈ (second.convert "print 1\nR".toList).outline.classes := by decide
  have hsource : source "\t".toList c true true = source "\t".toList d true true := by
    decide +kernel
  have hfirst : first.WritesLines := ⟨by decide, by decide⟩
  have hsecond : second.WritesLines := ⟨by decide, by decide⟩
  have hsame := source_lossless (List.cons_ne_nil _ _) (by decide) true true hfirst hsecond hc hd
    hsource
  exact ⟨hc, hd, hsource, hsame.2.2.2.2⟩

end Java
end Pseudocode
