import Pseudocode.Proofs.Declarations
import Mathlib.Data.List.Nodup

/-!
# The invariant of a scan

Whatever lines have been read, a scan has one class for each name, stands in a class that is known
or has seen nothing but blank lines, and has read every header as one of three forms: a
constructor of the name of its class, a method with a return type, or a stand-in for a header that
cannot be read. Fields that differ are written differently, so that no line of source is repeated.
-/

namespace Pseudocode

/-- A header of the class `owner` in one of the forms that headers are read in. -/
structure Signature.IsOf (owner : Text) (s : Signature) : Prop where
  owner_eq : s.owner = owner
  isConstructor : s.diagnostic = none → (s.kind = .constructor ↔ s.name = owner)
  returnType : s.diagnostic = none → (s.returnType = none ↔ s.kind = .constructor)
  unreadable : s.diagnostic ≠ none → s.kind = .method ∧ s.name = "unknownMethod".toList ∧
    s.returnType = some "void".toList ∧ s.parameters = []

lemma Signature.ReadFrom.isOf {owner header : Text} {s : Signature} (h : ReadFrom owner header s) :
    s.IsOf owner := by
  cases h with
  | unreadable => exact ⟨rfl, fun hnone => absurd hnone (Option.some_ne_none _),
      fun hnone => absurd hnone (Option.some_ne_none _), fun _ => ⟨rfl, rfl, rfl, rfl⟩⟩
  | constructor =>
    exact ⟨rfl, fun _ => iff_of_true rfl rfl, fun _ => iff_of_true rfl rfl,
      fun hne => absurd rfl hne⟩
  | method hne =>
    exact ⟨rfl, fun _ => iff_of_false MethodKind.noConfusion hne,
      fun _ => iff_of_false (Option.some_ne_none _) MethodKind.noConfusion,
      fun hne => absurd rfl hne⟩

/-- The class that is open at a place. -/
def Place.active? : Place → Option Text
  | outside => none
  | inClass name => some name
  | inMethod name _ _ => some name

/-- What holds of a scan after the given lines. -/
structure Scan.Invariant (lines : List Text) (scan : Scan) : Prop where
  nodup : scan.outline.names.Nodup
  stored : ∀ c ∈ scan.outline.classes, scan.outline.find? c.name = some c
  active : ∀ name ∈ scan.place.active?, name ∈ scan.outline.names
  signature : ∀ name s body, scan.place = .inMethod name s body → s.IsOf name
  outside : scan.place = .outside ↔ ∀ line ∈ lines, Text.isBlank line = true
  fields : ∀ c ∈ scan.outline.classes, c.fields.Nodup ∧ (c.fields.map FieldEntry.render).Nodup
  methods : ∀ c ∈ scan.outline.classes, ∀ m ∈ c.methods, m.signature.IsOf c.name

variable {book : Rulebook} {defaultClass : Text}

/-! ### Fields without repetition -/

namespace ClassOutline

lemma nodup_offer {fields : List FieldEntry} (h : fields.Nodup) (entry : FieldEntry) :
    (offer fields entry).Nodup := by
  unfold offer
  split_ifs with hmem
  · exact h
  · exact List.nodup_append.mpr ⟨h, List.pairwise_singleton _ _, fun f hf e he hfe =>
      hmem (List.mem_singleton.mp he ▸ hfe ▸ hf)⟩

lemma nodup_fields_apply {c : ClassOutline} (h : c.fields.Nodup) (change : Change) :
    (change.apply c).fields.Nodup := by
  cases change with
  | field entry =>
    rw [Change.apply, addField_eq]
    exact nodup_offer h entry
  | parent | method | statement => exact h

lemma IsFrom.nodup_render {isLine : Text → Prop} {c : ClassOutline}
    (h : c.IsFrom book defaultClass isLine) (hfields : c.fields.Nodup) :
    (c.fields.map FieldEntry.render).Nodup := by
  refine List.Nodup.map_on (fun f hf g hg hfg => ?_) hfields
  obtain ⟨line, -, rfl⟩ := h.fields f hf
  obtain ⟨other, -, rfl⟩ := h.fields g hg
  exact FieldEntry.ofLine_eq_of_render_eq hfg

end ClassOutline

lemma Outline.nodup_fields_ofLines {lines : List Text} :
    ∀ c ∈ (ofLines book defaultClass lines).classes, c.fields.Nodup := by
  rw [ofLines_eq_replay]
  exact forall_mem_replay (fun e _ => List.nodup_nil)
    (fun e _ c _ hc => ClassOutline.nodup_fields_apply hc e.change)
    (fun c hc => absurd hc List.not_mem_nil)

lemma Method.IsFrom.isOf {isLine : Text → Prop} {owner : Text} {m : Method}
    (h : m.IsFrom book isLine owner) : m.signature.IsOf owner := by
  obtain ⟨line, header, -, -, hs⟩ := h.signature
  rw [hs]
  exact (Signature.readFrom_ofHeader owner header).isOf

/-! ### The open class -/

namespace Place

lemma className_mem_replay_entry {place : Place} {o : Outline}
    (h : ∀ name ∈ place.active?, name ∈ o.names) :
    place.className defaultClass ∈ (o.replay (place.entry defaultClass)).names := by
  cases place with
  | outside => exact (Outline.mem_names_apply o _ defaultClass).mpr (.inr rfl)
  | inClass name => exact h name rfl
  | inMethod name signature body => exact h name rfl

lemma active?_inClass (name other : Text) : other ∈ (inClass name).active? ↔ other = name := by
  simp [active?, eq_comm]

lemma active?_inMethod (name other : Text) (signature : Signature) (body : List Text) :
    other ∈ (inMethod name signature body).active? ↔ other = name := by
  simp [active?, eq_comm]

/-- A move leads to a class that is known after its edits. -/
lemma Moves.active {place next : Place} {line : Text} {edits : List Edit} {o : Outline}
    (h : Moves book defaultClass place line edits next)
    (hplace : ∀ name ∈ place.active?, name ∈ o.names) :
    ∀ name ∈ next.active?, name ∈ (o.replay edits).names := by
  have hentry : place.className defaultClass ∈ (o.replay (place.entry defaultClass)).names :=
    className_mem_replay_entry hplace
  intro name hname
  cases h with
  | blank => exact hplace name hname
  | classHeader =>
    rw [(active?_inClass _ _).mp hname]
    exact (Outline.mem_names_apply o _ _).mpr (.inr rfl)
  | methodHeader =>
    rw [(active?_inMethod _ _ _ _).mp hname]
    exact hentry
  | bareHeader =>
    rw [(active?_inMethod _ _ _ _).mp hname]
    exact hentry
  | content =>
    rw [(active?_inClass _ _).mp hname, Outline.replay_append]
    exact (Outline.mem_names_apply _ _ _).mpr (.inr rfl)
  | close =>
    rw [(active?_inClass _ _).mp hname]
    exact (Outline.mem_names_apply o _ _).mpr (.inr rfl)
  | body => exact hplace name hname

lemma active_reach {place : Place} {o : Outline} (lines : List Text)
    (hplace : ∀ name ∈ place.active?, name ∈ o.names) :
    ∀ name ∈ (reach book defaultClass place lines).active?,
      name ∈ (o.replay (log book defaultClass place lines)).names := by
  induction lines generalizing place o with
  | nil => exact hplace
  | cons line rest ih =>
    rw [log, reach, Outline.replay_append]
    exact ih ((moves_move book defaultClass place (Text.trim line)).active hplace)

lemma reach_outside_iff (lines : List Text) :
    reach book defaultClass .outside lines = .outside ↔
      ∀ line ∈ lines, Text.isBlank line = true := by
  constructor
  · intro h line hline
    by_contra hblank
    rw [← Text.trim_eq_nil_iff] at hblank
    exact reach_ne_outside (.inl ⟨line, hline, hblank⟩) h
  · intro h
    induction lines with
    | nil => rfl
    | cons line rest ih =>
      obtain ⟨hline, hrest⟩ := List.forall_mem_cons.mp h
      rw [reach, (Text.trim_eq_nil_iff line).mpr hline, (Moves.blank .outside).move_eq]
      exact ih hrest

end Place

namespace Scan

/-- Every scan satisfies the invariant, whatever the rules, the default class and the lines. -/
theorem invariant_after (book : Rulebook) (defaultClass : Text) (lines : List Text) :
    (Scan.after book defaultClass lines).Invariant lines := by
  have hstart : Place.outside.IsFrom book defaultClass fun _ => True := trivial
  have hlines : ∀ line ∈ lines, True := fun _ _ => trivial
  obtain ⟨hlog, hreach⟩ := Place.isFrom_log hlines hstart
  have hclasses : ∀ c ∈ (Outline.ofLines book defaultClass lines).classes,
      c.IsFrom book defaultClass fun _ => True :=
    Outline.isFrom_ofLines fun _ _ => trivial
  have hfields : ∀ c ∈ (Outline.ofLines book defaultClass lines).classes, c.fields.Nodup :=
    Outline.nodup_fields_ofLines
  have hnodup : (Outline.ofLines book defaultClass lines).names.Nodup :=
    Outline.nodup_names_ofLines lines
  have hplace : (Scan.after book defaultClass lines).place =
      Place.reach book defaultClass .outside lines := by
    rw [after_eq]
  refine ⟨hnodup, fun c hc => Outline.find?_eq_some_of_mem hnodup hc, ?_, ?_, ?_,
    fun c hc => ⟨hfields c hc, (hclasses c hc).nodup_render (hfields c hc)⟩,
    fun c hc m hm => ((hclasses c hc).methods m hm).isOf⟩
  · rw [after_eq]
    exact Place.active_reach lines fun name hname => absurd hname (by simp [Place.active?])
  · intro name s body hopen
    rw [← hplace, hopen] at hreach
    exact hreach.2.isOf
  · rw [hplace]
    exact Place.reach_outside_iff lines

end Scan
end Pseudocode
