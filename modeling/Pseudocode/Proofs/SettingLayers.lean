import Pseudocode.Proofs.SettingsTable
import Pseudocode.Proofs.Utf8
import Mathlib

/-!
# Layers of settings

Settings are loaded from files and single keys that are named in any order. Each setting has the
value that was given to it last: by a single key if there is one, else by a file, else by the
standard settings. What is given to one setting does not matter for another, even one of the same
section, since tables are merged and not replaced. This is so however the documents are read.
-/

namespace Pseudocode
namespace Settings

open Toml (Value)

/-! ### Settings from their values -/

def ofTexts (text : Setting → Text) : Settings where
  rulesPath := text .rulesPath
  defaultClass := text .defaultClass
  indent := text .indent
  workDirectory := text .workDirectory
  compiler := text .compiler
  runtime := text .runtime

lemma get_ofTexts (text : Setting → Text) (k : Setting) : (ofTexts text).get k = text k := by
  cases k <;> rfl

lemma sectionTexts_table {entries : Table} {ks : List Setting} {text : Setting → Text}
    (h : ∀ k ∈ ks, ∃ v, entries.lookup k.name = some v ∧ textOf v = .ok (text k)) :
    sectionTexts (ks.map Setting.name) (.table entries) = .ok (ks.map text) := by
  refine mapM_map_eq_ok fun k hk => ?_
  obtain ⟨v, hlookup, htext⟩ := h k hk
  rw [hlookup]
  exact htext

lemma exists_section {t : Table} {k : Setting} {v : Value} (h : t.valueOf k = some v) :
    ∃ entries, t.lookup k.sectionName = some (.table entries) ∧
      ∀ k' : Setting, k'.sectionName = k.sectionName →
        t.valueOf k' = entries.lookup k'.name := by
  rw [Table.valueOf] at h
  obtain ⟨section', hsection, hvalue⟩ := Option.bind_eq_some_iff.mp h
  cases section' with
  | table entries =>
    refine ⟨entries, hsection, fun k' hk' => ?_⟩
    rw [Table.valueOf, hk', hsection]
    rfl
  | string | integer | boolean | float | date | array => cases hvalue

lemma sectionTexts_eq {t : Table} {text : Setting → Text}
    (htext : ∀ k, ∃ v, t.valueOf k = some v ∧ textOf v = .ok (text k)) (k : Setting)
    (ks : List Setting) (hks : ∀ k' ∈ ks, k'.sectionName = k.sectionName) :
    sectionTexts (ks.map Setting.name) ((t.lookup k.sectionName).getD Table.unset) =
      .ok (ks.map text) := by
  obtain ⟨v, hv, -⟩ := htext k
  obtain ⟨entries, hsection, hvalues⟩ := exists_section hv
  rw [hsection, Option.getD_some]
  refine sectionTexts_table fun k' hk' => ?_
  rw [← hvalues k' (hks k' hk')]
  exact htext k'

lemma ofTable_eq {t : Table} {text : Setting → Text}
    (htext : ∀ k, ∃ v, t.valueOf k = some v ∧ textOf v = .ok (text k)) :
    ofTable t = .ok (ofTexts text) := by
  have hrules : sectionTexts ["path".toList] ((t.lookup "rules".toList).getD Table.unset) =
      .ok [text .rulesPath] :=
    sectionTexts_eq htext .rulesPath [.rulesPath] (by decide)
  have hgeneration : sectionTexts ["default_class".toList, "indent".toList]
      ((t.lookup "generation".toList).getD Table.unset) =
        .ok [text .defaultClass, text .indent] :=
    sectionTexts_eq htext .indent [.defaultClass, .indent] (by decide)
  have hbuild : sectionTexts ["work_dir".toList, "compiler".toList, "runtime".toList]
      ((t.lookup "build".toList).getD Table.unset) =
        .ok [text .workDirectory, text .compiler, text .runtime] :=
    sectionTexts_eq htext .runtime [.workDirectory, .compiler, .runtime] (by decide)
  rw [ofTable]
  simp only [hrules, hgeneration, hbuild]
  rfl

/-! ### Loading -/

variable {read? : Text → Option Table} {h : Host} {k : Setting}

/-- What a file of settings gives to a setting, if it is there. -/
def Layer.givenTo (read? : Text → Option Table) (h : Host) (k : Setting) (layer : Layer) :
    Option Value :=
  (layerText? h layer).bind fun text =>
    (read? text).bind fun entries => Table.givenTo entries k

lemma layerText?_eq_some {layer : Layer} {path text : Text}
    (hpath : filePath? h layer.path = some path)
    (hcontents : h.contents path = .ok (Text.encode text)) : layerText? h layer = some text := by
  have htext : h.text path = .ok text := by
    simp only [Host.text, hcontents, bind, Except.bind, Text.decode?_eq_some_iff.mpr rfl]
  rw [layerText?, hpath, Option.bind_some, htext]
  rfl

lemma Layer.givenTo_eq {layer : Layer} {text : Text} {entries : Table}
    (htext : layerText? h layer = some text) (hread : read? text = some entries) (k : Setting) :
    layer.givenTo read? h k = Table.givenTo entries k := by
  rw [givenTo, htext, Option.bind_some, hread, Option.bind_some]

lemma Layer.givenTo_of_absent {layer : Layer} (habsent : layerText? h layer = none)
    (k : Setting) : layer.givenTo read? h k = none := by
  rw [givenTo, habsent, Option.bind_none]

/-- A file of settings is there if it must be, and if it is there it is a document of settings. -/
structure Layer.IsUsable (read? : Text → Option Table) (h : Host) (layer : Layer) : Prop where
  isSome_of_required : layer.required = true → (layerText? h layer).isSome
  exists_document : ∀ text, layerText? h layer = some text →
    ∃ entries, read? text = some entries ∧ Table.IsDocument entries

lemma Layer.isUsable_of_sections {layer : Layer} {text : Text} {given : List (Setting × Value)}
    (hgiven : ∀ g ∈ given, IsScalar g.2) (htext : layerText? h layer = some text)
    (hread : read? text = some (Table.sections given)) : layer.IsUsable read? h where
  isSome_of_required _ := Option.isSome_of_eq_some htext
  exists_document _ hother :=
    ⟨_, Option.some.inj (htext.symm.trans hother) ▸ hread, Table.isDocument_sections hgiven⟩

lemma Layer.isUsable_of_absent {layer : Layer} (hoptional : layer.required = false)
    (habsent : layerText? h layer = none) : layer.IsUsable read? h where
  isSome_of_required hrequired := Bool.noConfusion (hoptional.symm.trans hrequired)
  exists_document _ htext := nomatch habsent.symm.trans htext

lemma Layer.IsUsable.required_eq_false {layer : Layer} (husable : layer.IsUsable read? h)
    (habsent : layerText? h layer = none) : layer.required = false := by
  have hpresent := husable.isSome_of_required
  rw [habsent] at hpresent
  exact Bool.eq_false_iff.mpr fun hrequired => Bool.noConfusion (hpresent hrequired)

lemma Layer.IsUsable.addLayer_eq {layer : Layer} (husable : layer.IsUsable read? h) (t : Table) :
    ∃ t', addLayer read? h t layer = .ok t' ∧
      ∀ k, t'.valueOf k = (layer.givenTo read? h k).or (t.valueOf k) := by
  cases htext : layerText? h layer with
  | none =>
    refine ⟨t, ?_, fun k => ?_⟩
    · simp only [addLayer, htext, husable.required_eq_false htext, Bool.false_eq_true, if_false]
    · rw [Layer.givenTo_of_absent htext, Option.none_or]
  | some text =>
    obtain ⟨entries, hread, hdocument⟩ := husable.exists_document text htext
    refine ⟨Table.layer entries t, ?_, fun k => ?_⟩
    · simp only [addLayer, htext, hread]
    · rw [Layer.givenTo_eq htext hread, Table.valueOf_layer hdocument]

lemma Layer.IsUsable.isScalar {layer : Layer} (husable : layer.IsUsable read? h) {v : Value}
    (hv : layer.givenTo read? h k = some v) : IsScalar v := by
  obtain ⟨text, htext, -⟩ := Option.bind_eq_some_iff.mp hv
  obtain ⟨entries, hread, hdocument⟩ := husable.exists_document text htext
  rw [Layer.givenTo_eq htext hread] at hv
  exact Table.isScalar_of_givenTo hdocument hv

lemma foldlM_addLayer {layers : List Layer} (husable : ∀ layer ∈ layers, layer.IsUsable read? h)
    (t : Table) : ∃ t', layers.foldlM (addLayer read? h) t = .ok t' ∧
      ∀ k, t'.valueOf k = (lastSome (Layer.givenTo read? h k) layers).or (t.valueOf k) := by
  induction layers generalizing t with
  | nil => exact ⟨t, rfl, fun k => rfl⟩
  | cons layer layers ih =>
    obtain ⟨hlayer, hlayers⟩ := List.forall_mem_cons.mp husable
    obtain ⟨t₁, hadd, hvalue⟩ := hlayer.addLayer_eq t
    obtain ⟨t₂, hfold, hvalues⟩ := ih hlayers t₁
    refine ⟨t₂, ?_, fun k => ?_⟩
    · rw [List.foldlM_cons, hadd]
      exact hfold
    · rw [hvalues, hvalue, lastSome_cons, Option.or_assoc]

/-- What a single key gives to a setting. -/
def overrideTo (k : Setting) (o : Setting × Value) : Option Value :=
  if k = o.1 then some o.2 else none

/-- The key of a setting with its steps. -/
def settingKey (k : Setting) : Key := ⟨k.sectionName, [.name k.name]⟩

lemma foldl_set {f : Table → Key × Value → Table} (hf : ∀ t key v, f t (key, v) = t.set key v)
    {overrides : List (Setting × Value)} (hscalar : ∀ o ∈ overrides, IsScalar o.2) (t : Table) :
    ((overrides.map fun o => (settingKey o.1, o.2)).foldl f t).valueOf k =
      (lastSome (overrideTo k) overrides).or (t.valueOf k) := by
  induction overrides generalizing t with
  | nil => rfl
  | cons o overrides ih =>
    obtain ⟨ho, hoverrides⟩ := List.forall_mem_cons.mp hscalar
    rw [List.map_cons, List.foldl_cons, ih hoverrides, lastSome_cons, Option.or_assoc, hf,
      settingKey, Table.valueOf_set_key o.1 ho, overrideTo]
    congr 1
    split_ifs <;> rfl

lemma mapM_key {f : Text × Value → Except SettingsFault (Key × Value)}
    (hf : ∀ (k : Setting) v, f (k.key, v) = .ok (settingKey k, v))
    (overrides : List (Setting × Value)) : (overrides.map fun o => (o.1.key, o.2)).mapM f =
      .ok (overrides.map fun o => (settingKey o.1, o.2)) :=
  mapM_map_eq_ok fun o _ => hf o.1 o.2

lemma valueOf_standard (k : Setting) :
    (Table.layer standard.toTable []).valueOf k = some (.string (standard.get k)) := by
  cases k <;> rfl

/-- What is given to a setting last, in files and single keys. -/
def lastGiven (read? : Text → Option Table) (h : Host) (layers : List Layer)
    (overrides : List (Setting × Value)) (k : Setting) : Value :=
  ((lastSome (overrideTo k) overrides).or (lastSome (Layer.givenTo read? h k) layers)).getD
    (.string (standard.get k))

lemma isScalar_lastGiven {layers : List Layer} {overrides : List (Setting × Value)}
    (husable : ∀ layer ∈ layers, layer.IsUsable read? h) (hscalar : ∀ o ∈ overrides, IsScalar o.2)
    (k : Setting) : IsScalar (lastGiven read? h layers overrides k) := by
  rw [lastGiven]
  cases hoverride : lastSome (overrideTo k) overrides with
  | some v =>
    obtain ⟨o, ho, hv⟩ := exists_of_lastSome_eq_some hoverride
    rw [overrideTo] at hv
    split_ifs at hv
    exact Option.some.inj hv ▸ hscalar o ho
  | none =>
    rw [Option.none_or]
    cases hlayer : lastSome (Layer.givenTo read? h k) layers with
    | some v =>
      obtain ⟨layer, hmem, hv⟩ := exists_of_lastSome_eq_some hlayer
      exact (husable layer hmem).isScalar hv
    | none => exact ⟨_, rfl⟩

/-- Settings are loaded from usable files and keys, and each is the last that was given to it. -/
lemma loadWith_eq {layers : List Layer} {overrides : List (Setting × Value)}
    (husable : ∀ layer ∈ layers, layer.IsUsable read? h) (hscalar : ∀ o ∈ overrides, IsScalar o.2) :
    ∃ s, loadWith read? h layers (overrides.map fun o => (o.1.key, o.2)) = .ok s ∧
      ∀ k, textOf (lastGiven read? h layers overrides k) = .ok (s.get k) := by
  obtain ⟨t, hfold, hvalues⟩ := foldlM_addLayer husable (Table.layer standard.toTable [])
  choose text htext using isScalar_lastGiven husable hscalar
  refine ⟨ofTexts text, ?_, fun k => (get_ofTexts text k).symm ▸ htext k⟩
  rw [loadWith, mapM_key fun k v => by simp only [k.read?_key, settingKey], hfold]
  refine ofTable_eq fun k => ⟨_, ?_, htext k⟩
  rw [foldl_set (fun _ _ _ => rfl) hscalar, hvalues, valueOf_standard, lastGiven, ← Option.or_assoc,
    Option.or_some]

/-! ### Sources in any order -/

/-- A source of settings: a file, or a single key with its value. -/
inductive Source where
  | layer (layer : Layer)
  | override (k : Setting) (v : Value)

namespace Source

def layer? : Source → Option Layer
  | layer l => some l
  | override .. => none

def override? : Source → Option (Setting × Value)
  | layer _ => none
  | override k v => some (k, v)

def IsUsable (read? : Text → Option Table) (h : Host) : Source → Prop
  | layer l => l.IsUsable read? h
  | override _ v => IsScalar v

end Source

def layersOf (sources : List Source) : List Layer := sources.filterMap Source.layer?

/-- The single keys among sources, as they are written. -/
def overridesOf (sources : List Source) : List (Text × Value) :=
  (sources.filterMap Source.override?).map fun o => (o.1.key, o.2)

variable {sources before after : List Source}

lemma mem_layersOf {layer : Layer} : layer ∈ layersOf sources ↔ .layer layer ∈ sources := by
  rw [layersOf, List.mem_filterMap]
  constructor
  · rintro ⟨source, hsource, hlayer⟩
    cases source with
    | layer l => exact Option.some.inj hlayer ▸ hsource
    | override => cases hlayer
  · exact fun h => ⟨_, h, rfl⟩

lemma mem_overrides {o : Setting × Value} :
    o ∈ sources.filterMap Source.override? ↔ .override o.1 o.2 ∈ sources := by
  rw [List.mem_filterMap]
  constructor
  · rintro ⟨source, hsource, ho⟩
    cases source with
    | layer => cases ho
    | override k v => exact Option.some.inj ho ▸ hsource
  · exact fun h => ⟨_, h, rfl⟩

lemma overrideTo_eq_none (hnone : ∀ w, .override k w ∉ sources) :
    ∀ o ∈ sources.filterMap Source.override?, overrideTo k o = none := by
  intro o ho
  rw [overrideTo, if_neg]
  rintro rfl
  exact hnone o.2 (mem_overrides.mp ho)

lemma layersOf_append_cons (layer : Layer) (before after : List Source) :
    layersOf (before ++ .layer layer :: after) = layersOf before ++ layer :: layersOf after :=
  List.filterMap_append

lemma foldlM_addLayer_absent {layer : Layer} (hoptional : layer.required = false)
    (habsent : layerText? h layer = none) (before after : List Layer) (t : Table) :
    (before ++ layer :: after).foldlM (addLayer read? h) t =
      (before ++ after).foldlM (addLayer read? h) t := by
  have hskip (t : Table) : addLayer read? h t layer = .ok t := by
    simp only [addLayer, habsent, hoptional, Bool.false_eq_true, if_false]
  rw [List.foldlM_append, List.foldlM_append]
  refine bind_congr fun t => ?_
  rw [List.foldlM_cons, hskip]
  rfl

/-- However documents are read: each setting has the value of the last single key for it, wherever
that key stands among the sources. Without one it has the value in the last file that gives it one,
and without such a file it has the standard value. A file that may be missing and is missing has no
effect. -/
theorem loadWith_lastWins (read? : Text → Option Table) (h : Host) (sources : List Source)
    (husable : ∀ source ∈ sources, source.IsUsable read? h) :
    (∃ s, loadWith read? h (layersOf sources) (overridesOf sources) = .ok s ∧ ∀ k,
      (∀ before v after, sources = before ++ .override k v :: after →
        (∀ w, .override k w ∉ after) → textOf v = .ok (s.get k)) ∧
      ((∀ w, .override k w ∉ sources) → ∀ before layer after v,
        sources = before ++ .layer layer :: after → layer.givenTo read? h k = some v →
        (∀ other, .layer other ∈ after → other.givenTo read? h k = none) → textOf v = .ok (s.get k)) ∧
      ((∀ w, .override k w ∉ sources) →
        (∀ layer, .layer layer ∈ sources → layer.givenTo read? h k = none) →
        s.get k = standard.get k)) ∧
    ∀ before layer after, sources = before ++ .layer layer :: after → layerText? h layer = none →
      loadWith read? h (layersOf (before ++ after)) (overridesOf (before ++ after)) =
        loadWith read? h (layersOf sources) (overridesOf sources) := by
  have hlayers : ∀ layer ∈ layersOf sources, layer.IsUsable read? h :=
    fun layer hlayer => husable _ (mem_layersOf.mp hlayer)
  have hscalar : ∀ o ∈ sources.filterMap Source.override?, IsScalar o.2 :=
    fun o ho => husable _ (mem_overrides.mp ho)
  constructor
  · obtain ⟨s, hload, hvalues⟩ := loadWith_eq hlayers hscalar
    refine ⟨s, hload, fun k => ⟨?_, fun hnone => ?_, fun hnone habsent => ?_⟩⟩
    · rintro before v after rfl hafter
      have hlast : lastSome (overrideTo k)
          ((before ++ .override k v :: after).filterMap Source.override?) = some v := by
        rw [List.filterMap_append]
        exact lastSome_append_cons (if_pos rfl) (overrideTo_eq_none hafter)
      have hvalue := hvalues k
      rwa [lastGiven, hlast] at hvalue
    · rintro before layer after v rfl hgiven hafter
      have hlast : lastSome (Layer.givenTo read? h k)
          (layersOf (before ++ .layer layer :: after)) = some v := by
        rw [layersOf_append_cons]
        exact lastSome_append_cons hgiven fun other hother => hafter other (mem_layersOf.mp hother)
      have hvalue := hvalues k
      rwa [lastGiven, lastSome_eq_none_iff.mpr (overrideTo_eq_none hnone), hlast] at hvalue
    · have hlayer : lastSome (Layer.givenTo read? h k) (layersOf sources) = none :=
        lastSome_eq_none_iff.mpr fun layer hmem => habsent layer (mem_layersOf.mp hmem)
      have hvalue := hvalues k
      rw [lastGiven, lastSome_eq_none_iff.mpr (overrideTo_eq_none hnone), hlayer] at hvalue
      exact (Except.ok.inj hvalue).symm
  · rintro before layer after rfl habsent
    have hoptional : layer.required = false :=
      (hlayers layer (by simp [layersOf_append_cons])).required_eq_false habsent
    have hoverrides : overridesOf (before ++ .layer layer :: after) =
        overridesOf (before ++ after) := by
      rw [overridesOf, overridesOf, List.filterMap_append, List.filterMap_append]
      rfl
    have hjoin : layersOf (before ++ after) = layersOf before ++ layersOf after :=
      List.filterMap_append
    rw [hoverrides, loadWith, loadWith, hjoin, layersOf_append_cons]
    simp only [foldlM_addLayer_absent hoptional habsent]

theorem loadWith_lastWins_project :
    let user := "[build]\ncompiler = 'a'\n[generation]\nindent = '\t'\n".toList
    let project := "[build]\nruntime = 'b'\n".toList
    let h : Host := ⟨[(["user.toml".toList], .file (Text.encode user) false),
      (["nova.toml".toList], .file (Text.encode project) false)], []⟩
    let sources : List Source := [.override .runtime (.string "r".toList),
      .override .runtime (.boolean true), .layer ⟨"user".toList, true⟩,
      .layer ⟨"nova.toml".toList, false⟩, .layer ⟨"gone".toList, false⟩]
    (∀ source ∈ sources, source.IsUsable Toml.read? h) ∧
      ∃ s, load h (layersOf sources) (overridesOf sources) = .ok s ∧ s.runtime = "true".toList ∧
        s.compiler = "a".toList ∧ s.indent = "\t".toList ∧ s.defaultClass = "Main".toList := by
  have hreadUser : Toml.read? "[build]\ncompiler = 'a'\n[generation]\nindent = '\t'\n".toList =
      some (Table.sections [(.compiler, .string "a".toList), (.indent, .string "\t".toList)]) := by
    dsimp only [Table.sections, List.map_cons, List.map_nil, Setting.sectionName, Setting.name]
    cbv
  have hreadProject : Toml.read? "[build]\nruntime = 'b'\n".toList =
      some (Table.sections [(.runtime, .string "b".toList)]) := by
    dsimp only [Table.sections, List.map_cons, List.map_nil, Setting.sectionName, Setting.name]
    cbv
  intro user project h sources
  have huser : layerText? h ⟨"user".toList, true⟩ = some user :=
    layerText?_eq_some (show filePath? h _ = some "user.toml".toList by decide) rfl
  have hproject : layerText? h ⟨"nova.toml".toList, false⟩ = some project :=
    layerText?_eq_some (show filePath? h _ = some "nova.toml".toList by decide) rfl
  have hgone : layerText? h ⟨"gone".toList, false⟩ = none := by
    rw [layerText?, show filePath? h "gone".toList = none by decide]
    rfl
  have husable : ∀ source ∈ sources, source.IsUsable Toml.read? h := by
    simp only [sources, List.forall_mem_cons, Source.IsUsable]
    refine ⟨⟨_, rfl⟩, ⟨_, rfl⟩, ?user, ?project, Layer.isUsable_of_absent rfl hgone, by simp⟩
    case user =>
      refine Layer.isUsable_of_sections ?_ huser hreadUser
      exact List.forall_mem_cons.mpr ⟨⟨_, rfl⟩, List.forall_mem_singleton.mpr ⟨_, rfl⟩⟩
    case project =>
      refine Layer.isUsable_of_sections ?_ hproject hreadProject
      exact List.forall_mem_singleton.mpr ⟨_, rfl⟩
  refine ⟨husable, ?_⟩
  obtain ⟨⟨s, hload, hlast⟩, -⟩ := loadWith_lastWins Toml.read? h sources husable
  have hfirst := Layer.givenTo_eq huser hreadUser
  have hsecond := Layer.givenTo_eq hproject hreadProject
  have hafter : ∀ k, k ≠ .runtime → ∀ layer, .layer layer ∈ sources.drop 3 →
      layer.givenTo Toml.read? h k = none := by
    intro k hk layer hlayer
    rcases List.mem_pair.mp hlayer with heq | heq <;> cases heq
    · rw [hsecond]
      cases k <;> first | rfl | exact absurd rfl hk
    · exact Layer.givenTo_of_absent hgone k
  have hnone : ∀ k, k ≠ .runtime → ∀ w, .override k w ∉ sources := by
    intro k hk w hmem
    have hvalues : k = .runtime ∧ w = .string "r".toList ∨ k = .runtime ∧ w = .boolean true := by
      simpa [sources] using hmem
    exact hk (hvalues.elim And.left And.left)
  have hruntime := (hlast .runtime).1 [_] _ [_, _, _] rfl (by simp)
  have hcompiler := (hlast .compiler).2.1 (hnone _ (by decide)) [_, _] _ [_, _] _ rfl (hfirst _)
    (hafter _ (by decide))
  have hindent := (hlast .indent).2.1 (hnone _ (by decide)) [_, _] _ [_, _] _ rfl (hfirst _)
    (hafter _ (by decide))
  have hdefault := (hlast .defaultClass).2.2 (hnone _ (by decide)) fun layer hlayer => by
    have hmem : .layer layer ∈ sources.drop 2 := by simpa [sources] using hlayer
    rcases List.mem_cons.mp hmem with heq | hlater
    · cases heq
      exact hfirst _
    · exact hafter _ (by decide) layer hlater
  exact ⟨s, hload, (Except.ok.inj hruntime).symm, (Except.ok.inj hcompiler).symm,
    (Except.ok.inj hindent).symm, hdefault⟩

end Settings
end Pseudocode
