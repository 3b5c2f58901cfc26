import Pseudocode.Proofs.Results
import Pseudocode.Settings.Basic
import Mathlib

/-!
# Settings in a table

The six settings stand in tables within a table. Tables are merged entry by entry: a document of
settings changes the values that it gives and no others, and so does a single key.
-/

namespace Pseudocode

/-- A setting by its name. -/
inductive Setting where
  | rulesPath
  | defaultClass
  | indent
  | workDirectory
  | compiler
  | runtime
deriving DecidableEq

namespace Setting

def sectionName : Setting → Text
  | rulesPath => "rules".toList
  | defaultClass | indent => "generation".toList
  | workDirectory | compiler | runtime => "build".toList

def name : Setting → Text
  | rulesPath => "path".toList
  | defaultClass => "default_class".toList
  | indent => "indent".toList
  | workDirectory => "work_dir".toList
  | compiler => "compiler".toList
  | runtime => "runtime".toList

/-- The key with its dot. -/
def key (k : Setting) : Text := k.sectionName ++ '.' :: k.name

end Setting

def Settings.get (s : Settings) : Setting → Text
  | .rulesPath => s.rulesPath
  | .defaultClass => s.defaultClass
  | .indent => s.indent
  | .workDirectory => s.workDirectory
  | .compiler => s.compiler
  | .runtime => s.runtime

namespace Settings

open Toml (Value)

def IsScalar (v : Value) : Prop := ∃ t, textOf v = .ok t

namespace Table

variable {t entries inner : Table} {v : Value} {name other : Text}

lemma lookup_cons (n : Text) (v : Value) (t : Table) (other : Text) :
    List.lookup other ((n, v) :: t) = if other = n then some v else t.lookup other := by
  by_cases h : other = n
  · rw [if_pos h, h, List.lookup_cons_self]
  · rw [if_neg h, List.lookup_cons, beq_false_of_ne h]

lemma lookup_put (name : Text) (v : Value) (t : Table) (other : Text) :
    (put name v t).lookup other = if other = name then some v else t.lookup other := by
  induction t with
  | nil => exact lookup_cons name v [] other
  | cons entry t ih =>
    obtain ⟨n, old⟩ := entry
    rw [put]
    by_cases hn : n = name
    · subst hn
      rw [if_pos rfl, lookup_cons, lookup_cons]
      split_ifs <;> rfl
    · rw [if_neg hn, lookup_cons, lookup_cons, ih]
      by_cases h : other = n
      · rw [if_pos h, if_pos h, if_neg fun heq => hn (h.symm.trans heq)]
      · rw [if_neg h, if_neg h]

lemma lookup_put_self (name : Text) (v : Value) (t : Table) :
    (put name v t).lookup name = some v := by
  rw [lookup_put, if_pos rfl]

lemma lookup_put_of_ne (h : other ≠ name) (v : Value) (t : Table) :
    (put name v t).lookup other = t.lookup other := by
  rw [lookup_put, if_neg h]

lemma lookup_merge_of_ne (h : other ≠ Text.lower name) (v : Value) (t : Table) :
    (merge name v t).lookup other = t.lookup other := by
  unfold merge
  split
  · split_ifs
    · rfl
    · exact lookup_put_of_ne h _ t
  · exact lookup_put_of_ne h _ t
  · exact lookup_put_of_ne h _ t

lemma merge_of_isScalar (h : IsScalar v) (name : Text) (t : Table) :
    merge name v t = put (Text.lower name) v t := by
  obtain ⟨shown, h⟩ := h
  cases v with
  | array | table => cases h
  | string | integer | boolean | float | date => rw [merge] <;> simp

/-- What entries give to a name. -/
def given (entries : Table) (name : Text) : Option Value :=
  lastSome (fun entry => if entry.1 = name then some entry.2 else none) entries

lemma lookup_mergeAll (hname : Text.lower name = name)
    (hentries : ∀ entry ∈ inner, Text.lower entry.1 = name → entry.1 = name ∧ IsScalar entry.2)
    (t : Table) : (mergeAll inner t).lookup name = (given inner name).or (t.lookup name) := by
  induction inner generalizing t with
  | nil => rfl
  | cons entry inner ih =>
    obtain ⟨n, v⟩ := entry
    obtain ⟨hentry, hentries⟩ := List.forall_mem_cons.mp hentries
    rw [mergeAll, ih hentries, given, given, lastSome_cons, Option.or_assoc]
    congr 1
    by_cases h : n = name
    · obtain ⟨-, hscalar⟩ := hentry (h ▸ hname)
      rw [if_pos h, h, merge_of_isScalar hscalar, hname, lookup_put_self, Option.some_or]
    · rw [if_neg h, Option.none_or, lookup_merge_of_ne]
      exact fun heq => h (hentry heq.symm).1

def valueOf (t : Table) (k : Setting) : Option Value :=
  (t.lookup k.sectionName).bind fun v => (ofValue v).lookup k.name

end Table

end Settings

namespace Setting

open Settings (Table Key)
open Toml (Value)

lemma lower_sectionName (k : Setting) : Text.lower k.sectionName = k.sectionName := by
  cases k <;> decide

lemma lower_name (k : Setting) : Text.lower k.name = k.name := by
  cases k <;> decide

lemma read?_sectionName (k : Setting) : Key.read? k.sectionName = some ⟨k.sectionName, []⟩ := by
  cases k <;> decide

lemma read?_key (k : Setting) : Key.read? k.key = some ⟨k.sectionName, [.name k.name]⟩ := by
  cases k <;> decide

lemma eq_of_name_eq {k k' : Setting} (h : k.name = k'.name) : k = k' := by
  revert h
  cases k <;> cases k' <;> decide

end Setting

namespace Settings

open Toml (Value)

namespace Table

variable {t entries inner : Table} {v : Value} {name : Text} {k : Setting}

lemma valueOf_put_self (k : Setting) (v : Value) (t : Table) :
    (put k.sectionName v t).valueOf k = (ofValue v).lookup k.name := by
  rw [valueOf, lookup_put_self, Option.bind_some]

lemma valueOf_congr {t' : Table} (h : t'.lookup k.sectionName = t.lookup k.sectionName) :
    t'.valueOf k = t.valueOf k := by
  rw [valueOf, valueOf, h]

lemma lookup_ofValue_section (t : Table) (k : Setting) :
    (ofValue ((t.lookup k.sectionName).getD unset)).lookup k.name = t.valueOf k := by
  rw [valueOf]
  cases t.lookup k.sectionName <;> rfl

/-- The names of settings in a section have the case of the settings, and are given scalars. -/
def IsSection (inner : Table) (name : Text) : Prop :=
  ∀ entry ∈ inner, ∀ k : Setting, k.sectionName = name → Text.lower entry.1 = k.name →
    entry.1 = k.name ∧ IsScalar entry.2

lemma valueOf_merge_table (h : IsSection inner k.sectionName) (t : Table) :
    (merge k.sectionName (.table inner) t).valueOf k =
      (given inner k.name).or (t.valueOf k) := by
  cases inner with
  | nil =>
    have hnone : (given [] k.name).or (t.valueOf k) = t.valueOf k := rfl
    rw [merge, k.lower_sectionName, hnone]
    split_ifs with hsection
    · rfl
    · rw [Option.not_isSome_iff_eq_none] at hsection
      rw [valueOf_put_self, valueOf, hsection]
      rfl
  | cons entry inner =>
    rw [merge, k.lower_sectionName, valueOf_put_self, ofValue,
      lookup_mergeAll k.lower_name (fun entry hentry => h entry hentry k rfl),
      lookup_ofValue_section]

lemma valueOf_set_key (k' : Setting) (h : IsScalar v) (t : Table) :
    (t.set ⟨k'.sectionName, [.name k'.name]⟩ v).valueOf k =
      if k = k' then some v else t.valueOf k := by
  have hset : t.set ⟨k'.sectionName, [.name k'.name]⟩ v = put k'.sectionName
      (.table (put k'.name v (ofValue ((t.lookup k'.sectionName).getD unset)))) t := by
    rw [set, k'.lower_sectionName]
    simp only [setWithin]
    rw [merge_of_isScalar h, k'.lower_name]
  rw [hset]
  by_cases hk : k = k'
  · subst hk
    rw [if_pos rfl, valueOf_put_self, ofValue, lookup_put_self]
  · rw [if_neg hk]
    by_cases hsection : k.sectionName = k'.sectionName
    · have hname : k.name ≠ k'.name := fun heq => hk (Setting.eq_of_name_eq heq)
      rw [← hsection, valueOf_put_self, ofValue, lookup_put_of_ne hname, lookup_ofValue_section]
    · exact valueOf_congr (lookup_put_of_ne hsection _ t)

/-- The key that the name of an entry stands for. -/
def keyOf (name : Text) : Key := (Key.read? name).getD ⟨name, []⟩

/-- A document that gives scalars to settings. What else it holds stands under other names. -/
def IsDocument (entries : Table) : Prop :=
  ∀ entry ∈ entries, ∀ k : Setting, (entry.1 = k.sectionName →
      ∃ inner, entry.2 = .table inner ∧ IsSection inner entry.1) ∧
    (entry.1 ≠ k.sectionName → Text.lower (keyOf entry.1).root ≠ k.sectionName)

/-- What a document gives to a setting. -/
def givenTo (entries : Table) (k : Setting) : Option Value :=
  lastSome (fun entry => if entry.1 = k.sectionName then given (ofValue entry.2) k.name else none)
    entries

lemma valueOf_set_of_ne {key : Key} (h : k.sectionName ≠ Text.lower key.root) (v : Value)
    (t : Table) : (t.set key v).valueOf k = t.valueOf k := by
  refine valueOf_congr ?_
  unfold set
  split
  · exact lookup_merge_of_ne h v t
  · exact lookup_put_of_ne h _ t

lemma layer_cons (entry : Text × Value) (entries t : Table) :
    t.layer (entry :: entries) = (t.set (keyOf entry.1) entry.2).layer entries := rfl

lemma valueOf_layer (h : IsDocument entries) (t : Table) :
    (layer entries t).valueOf k = (givenTo entries k).or (t.valueOf k) := by
  induction entries generalizing t with
  | nil => rfl
  | cons entry entries ih =>
    obtain ⟨hentry, hentries⟩ := List.forall_mem_cons.mp h
    obtain ⟨hsection, hother⟩ := hentry k
    rw [layer_cons, ih hentries, givenTo, givenTo, lastSome_cons, Option.or_assoc]
    congr 1
    by_cases hname : entry.1 = k.sectionName
    · obtain ⟨inner, hinner, hproper⟩ := hsection hname
      rw [if_pos hname, hinner, ofValue, hname, keyOf, k.read?_sectionName]
      exact valueOf_merge_table (hname ▸ hproper) t
    · rw [if_neg hname, Option.none_or]
      exact valueOf_set_of_ne (hother hname).symm _ _

/-- The document that has a section of its own for each value that it gives. -/
def sections (given : List (Setting × Value)) : Table :=
  given.map fun (k, v) => (k.sectionName, .table [(k.name, v)])

lemma isDocument_sections {given : List (Setting × Value)} (h : ∀ g ∈ given, IsScalar g.2) :
    IsDocument (sections given) := by
  intro entry hentry k
  obtain ⟨⟨k', v⟩, hg, rfl⟩ := List.mem_map.mp hentry
  refine ⟨fun _ => ⟨_, rfl, fun field hfield k'' _ hlower => ?_⟩, fun hne => ?_⟩
  · obtain rfl := List.mem_singleton.mp hfield
    exact ⟨k'.lower_name.symm.trans hlower, h _ hg⟩
  · rw [keyOf, k'.read?_sectionName, Option.getD_some, k'.lower_sectionName]
    exact hne

lemma isScalar_of_givenTo (h : IsDocument entries) (hv : givenTo entries k = some v) :
    IsScalar v := by
  obtain ⟨entry, hentry, hgiven⟩ := exists_of_lastSome_eq_some hv
  split_ifs at hgiven with hname
  obtain ⟨inner, hinner, hproper⟩ := (h entry hentry k).1 hname
  rw [hinner, ofValue] at hgiven
  obtain ⟨field, hfield, hvalue⟩ := exists_of_lastSome_eq_some hgiven
  split_ifs at hvalue with hfieldName
  obtain rfl := Option.some.inj hvalue
  exact (hproper field hfield k hname.symm (hfieldName ▸ k.lower_name)).2

end Table

end Settings
end Pseudocode
