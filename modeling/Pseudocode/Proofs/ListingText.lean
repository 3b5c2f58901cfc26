import Pseudocode.Command.Run
import Pseudocode.Proofs.Declarations
import Pseudocode.Proofs.JsonText

/-!
# Listings lose nothing

Each part of an outline is determined by its value in the listing, and the listing by its text, so
that two conversions are shown as the same listing only if their outlines are the same.
-/

namespace Pseudocode

lemma Json.record_injective : Function.Injective record := by
  intro members others h
  refine List.map_injective_iff.mpr ?_ (object.inj h)
  rintro ⟨name, value⟩ ⟨other, value'⟩ hmember
  obtain ⟨hname, rfl⟩ := Prod.mk.inj hmember
  rw [String.toList_inj.mp hname]

lemma Json.ofOption_injective : Function.Injective ofOption := by
  intro t t' h
  cases t with
  | none =>
    cases t' with
    | none => rfl
    | some _ => cases h
  | some _ =>
    cases t' with
    | none => cases h
    | some _ => rw [string.inj h]

lemma Json.map_string_injective : Function.Injective (List.map Json.string) :=
  List.map_injective_iff.mpr fun _ _ => string.inj

lemma FieldEntry.toJson_injective : Function.Injective toJson := by
  intro entry other h
  cases entry with
  | declared field =>
    cases other with
    | declared field' =>
      obtain ⟨visibility, ty, name⟩ := field
      obtain ⟨visibility', ty', name'⟩ := field'
      have hmembers := Json.record_injective h
      simp only [List.cons.injEq, Prod.mk.injEq, Json.string.injEq, true_and, and_true] at hmembers
      obtain ⟨hvisibility, rfl, rfl⟩ := hmembers
      rw [FieldEntry.word_injective hvisibility]
    | unreadable line => cases congrArg List.length (Json.record_injective h)
  | unreadable line =>
    cases other with
    | declared field => cases congrArg List.length (Json.record_injective h)
    | unreadable line' =>
      have hmembers := Json.record_injective h
      simp only [List.cons.injEq, Prod.mk.injEq, Json.string.injEq, true_and, and_true] at hmembers
      rw [hmembers]

lemma Parameter.toJson_injective : Function.Injective toJson := by
  intro p q h
  cases p with
  | typed ty name =>
    cases q with
    | typed ty' name' =>
      have hmembers := Json.record_injective h
      simp only [List.cons.injEq, Prod.mk.injEq, Json.string.injEq, true_and, and_true] at hmembers
      rw [hmembers.1, hmembers.2]
    | raw text => cases h
  | raw text =>
    cases q with
    | typed ty name => cases h
    | raw text' => rw [Json.string.inj h]

lemma MethodKind.word_injective : Function.Injective word := by
  intro kind kind' h
  cases kind with
  | constructor =>
    cases kind' with
    | constructor => rfl
    | method => exact absurd h (by decide)
  | method =>
    cases kind' with
    | constructor => exact absurd h (by decide)
    | method => rfl

lemma Signature.toJson_injective : Function.Injective toJson := by
  intro s s' h
  obtain ⟨owner, kind, name, returnType, parameters, diagnostic⟩ := s
  obtain ⟨owner', kind', name', returnType', parameters', diagnostic'⟩ := s'
  obtain ⟨hmembers, hlast⟩ := List.append_inj (Json.record_injective h) rfl
  simp only [List.cons.injEq, Prod.mk.injEq, Json.string.injEq, Json.array.injEq, true_and,
    and_true] at hmembers
  obtain ⟨rfl, hkind, rfl, hreturn, hparameters⟩ := hmembers
  have hdiagnostic : diagnostic = diagnostic' := by
    -- the member is left out if there is no diagnostic
    cases diagnostic with
    | none =>
      cases diagnostic' with
      | none => rfl
      | some _ => cases hlast
    | some _ =>
      cases diagnostic' with
      | none => cases hlast
      | some _ =>
        simp only [List.cons.injEq, Prod.mk.injEq, Json.string.injEq, true_and, and_true] at hlast
        rw [hlast]
  rw [MethodKind.word_injective hkind, Json.ofOption_injective hreturn,
    List.map_injective_iff.mpr Parameter.toJson_injective hparameters, hdiagnostic]

lemma Method.toJson_injective : Function.Injective toJson := by
  intro m m' h
  obtain ⟨signature, body⟩ := m
  obtain ⟨signature', body'⟩ := m'
  have hmembers := Json.record_injective h
  simp only [List.cons.injEq, Prod.mk.injEq, Json.array.injEq, true_and, and_true] at hmembers
  rw [Signature.toJson_injective hmembers.1, Json.map_string_injective hmembers.2]

lemma ClassOutline.toJson_injective : Function.Injective toJson := by
  intro c c' h
  obtain ⟨name, parent, fields, methods, statements⟩ := c
  obtain ⟨name', parent', fields', methods', statements'⟩ := c'
  have hmembers := Json.record_injective h
  simp only [List.cons.injEq, Prod.mk.injEq, Json.string.injEq, Json.array.injEq, true_and,
    and_true] at hmembers
  obtain ⟨rfl, hparent, hfields, hmethods, hstatements⟩ := hmembers
  rw [Json.ofOption_injective hparent,
    List.map_injective_iff.mpr FieldEntry.toJson_injective hfields,
    List.map_injective_iff.mpr Method.toJson_injective hmethods,
    Json.map_string_injective hstatements]

lemma Outline.toJson_injective : Function.Injective toJson := by
  intro o o' h
  obtain ⟨classes⟩ := o
  obtain ⟨classes'⟩ := o'
  have hclass : Function.Injective fun c : ClassOutline => (c.name, c.toJson) := by
    intro c c' hmember
    exact ClassOutline.toJson_injective (Prod.mk.inj hmember).2
  exact congrArg Outline.mk (List.map_injective_iff.mpr hclass (Json.object.inj h))

lemma Outline.listing_injective : Function.Injective listing :=
  (Json.write_injective 0).comp toJson_injective

namespace Command

lemma render_model_inj {k k' : Conversion} :
    Format.render k .model = Format.render k' .model ↔ k.outline = k'.outline := by
  constructor
  · intro h
    exact Outline.listing_injective (List.append_cancel_right h)
  · intro h
    rw [Format.render, Format.render, h]

lemma output_convert_model (start : Starter) (s : Settings) (c : Converter) (h : Host)
    (input : List UInt8) (path : Text) :
    (doTask start s c h input (.convert path .model)).output =
      ((c.convertFile h path).toOption.map fun k => Format.render k .model).getD [] := by
  simp only [doTask, withConversion]
  cases c.convertFile h path <;> rfl

/-- The listing of an outline is shown in full. Two conversions of files show the same listing only
if the outlines are the same, and one that fails shows nothing, which is no listing. -/
theorem output_convert_model_inj (start start' : Starter) (s s' : Settings) (c c' : Converter)
    (h h' : Host) (input input' : List UInt8) (path path' : Text) :
    (doTask start s c h input (.convert path .model)).output =
        (doTask start' s' c' h' input' (.convert path' .model)).output ↔
      (c.convertFile h path).toOption.map (·.outline) =
        (c'.convertFile h' path').toOption.map (·.outline) := by
  have hnonempty (k : Conversion) : Format.render k .model ≠ [] :=
    List.append_ne_nil_of_right_ne_nil _ (List.cons_ne_nil _ _)
  rw [output_convert_model, output_convert_model]
  cases (c.convertFile h path).toOption with
  | none =>
    cases (c'.convertFile h' path').toOption with
    | none => exact iff_of_true rfl rfl
    | some k' => exact iff_of_false (hnonempty k').symm (Option.some_ne_none _).symm
  | some k =>
    cases (c'.convertFile h' path').toOption with
    | none => exact iff_of_false (hnonempty k) (Option.some_ne_none _)
    | some k' => exact render_model_inj.trans Option.some_inj.symm

end Command
end Pseudocode
