import TemplateCatalog.Proofs.Template.Adoption
import TemplateCatalog.Proofs.Yaml.Blank
import TemplateCatalog.Proofs.Yaml.Entries

/-!
# Configurations told by their entries

Of a configuration four keys count. Each may be there once, and its value must be a scalar that
counts as a text or as none; then the configuration is told by these values (`Config.Told`), and
all else in the mapping is passed over. If anything is wrong with one of the four there is no
configuration at all. A tag of an author's own is such a thing, also a lone exclamation mark.

* `Config.Reads`: how the fields are filled, entry by entry, and `Config.Settled`: what becomes of
  each;
* `Config.ofDocument_eq_ok_iff`, `Config.ofText_eq_ok_iff`: the configuration in a document or a text
  is the one that its entries tell;
* `Config.decoding`: when a file holds a configuration, which, and what it does not depend on.
-/

namespace TemplateCatalog

open Decoding Yaml

namespace Config

/-- The values of a key, in the order in which they are given. -/
def valuesOf (key : String) (pairs : List (String × Option Look)) : List (Option Look) :=
  (pairs.filter fun p => p.1 = key).map (·.2)

/-- The entries that count. -/
def known (pairs : List (String × Option Look)) : List (String × Option Look) :=
  pairs.filter fun p => keys.contains p.1

/-- Entries give a key a text or none: the key is not there, or it is there once and its value is a
    scalar that counts so. -/
inductive Gives (pairs : List (String × Option Look)) (key : String) : Option String → Prop
  | absent : valuesOf key pairs = [] → Gives pairs key none
  | once {l : Look} {o : Option String} : valuesOf key pairs = [some l] → l.CountsAs o →
    Gives pairs key o

/-- Entries tell a configuration: they give each of its fields. -/
structure Told (pairs : List (String × Option Look)) (c : Config) : Prop where
  name : Gives pairs "name" c.name
  category : Gives pairs "category" c.category
  description : Gives pairs "description" c.description
  defaultVersion : Gives pairs "defaultVersion" c.defaultVersion

/-! ## Filling the fields -/

/-- From the fields before some entries to the fields after them. An entry of a key that counts
    fills a field, which must be open. -/
inductive Reads : List (String × Option String) → List (String × Option Look) →
    List (String × Option String) → Prop
  | nil {fields : List (String × Option String)} : Reads fields [] fields
  | other {fields fields' : List (String × Option String)} {key : String} {value : Option Look}
    {rest : List (String × Option Look)} : key ∉ keys → Reads fields rest fields' →
    Reads fields ((key, value) :: rest) fields'
  | field {fields fields' : List (String × Option String)} {key : String} {l : Look}
    {o : Option String} {rest : List (String × Option Look)} : key ∈ keys →
    fields.lookup key = none → l.CountsAs o → Reads ((key, o) :: fields) rest fields' →
    Reads fields ((key, some l) :: rest) fields'

/-- What becomes of one field: it stays as it is, or is open and filled once. -/
inductive Settled : Option (Option String) → List (Option Look) → Option (Option String) → Prop
  | kept {before : Option (Option String)} : Settled before [] before
  | filled {l : Look} {o : Option String} : l.CountsAs o → Settled none [some l] (some o)

variable {pairs pairs' : List (String × Option Look)} {key : String} {o o' : Option String}
  {c : Config} {fields fields' : List (String × Option String)}

theorem valuesOf_cons_self {value : Option Look} :
    valuesOf key ((key, value) :: pairs) = value :: valuesOf key pairs := by
  simp [valuesOf]

theorem valuesOf_cons_of_ne {other : String} {value : Option Look} (h : other ≠ key) :
    valuesOf key ((other, value) :: pairs) = valuesOf key pairs := by
  simp [valuesOf, h]

theorem lookup_cons_of_ne {other : String} (h : other ≠ key) :
    ((other, o) :: fields).lookup key = fields.lookup key := by
  rw [List.lookup_cons, beq_eq_false_iff_ne.2 h.symm]

/-- Reading settles every field. -/
theorem Reads.settled (h : Reads fields pairs fields') (hkey : key ∈ keys) :
    Settled (fields.lookup key) (valuesOf key pairs) (fields'.lookup key) := by
  induction h with
  | nil => exact .kept
  | other hother _ ih =>
    rw [valuesOf_cons_of_ne (ne_of_mem_of_not_mem hkey hother).symm]
    exact ih
  | @field fields fields' name l o rest hname hopen hcounts _ ih =>
    by_cases heq : name = key
    · subst heq
      rw [List.lookup_cons_self] at ih
      rw [hopen, valuesOf_cons_self]
      -- The field is not open any more, so nothing else is given of it.
      generalize valuesOf name rest = values, fields'.lookup name = after at ih
      cases ih
      exact .filled hcounts
    · rw [lookup_cons_of_ne heq] at ih
      rw [valuesOf_cons_of_ne heq]
      exact ih

/-- What becomes of a field that is open is what the entries give it. -/
theorem gives_of_settled {after : Option (Option String)}
    (h : Settled none (valuesOf key pairs) after) : Gives pairs key after.join := by
  generalize hvalues : valuesOf key pairs = values at h
  cases h with
  | kept => exact .absent hvalues
  | filled hcounts => exact .once hvalues hcounts

theorem Gives.eq (h : Gives pairs key o) (h' : Gives pairs key o') : o = o' := by
  cases h with
  | absent hnone => cases h' with
    | absent => rfl
    | once hone => exact absurd (hnone.symm.trans hone) nofun
  | once hone hcounts => cases h' with
    | absent hnone => exact absurd (hnone.symm.trans hone) nofun
    | once hone' hcounts' =>
      cases hone.symm.trans hone'
      exact hcounts.eq hcounts'

theorem Told.eq {c' : Config} (h : Told pairs c) (h' : Told pairs c') : c = c' := by
  obtain ⟨name, category, description, defaultVersion⟩ := c
  obtain ⟨name', category', description', defaultVersion'⟩ := c'
  rw [Config.mk.injEq]
  exact ⟨h.name.eq h'.name, h.category.eq h'.category, h.description.eq h'.description,
    h.defaultVersion.eq h'.defaultVersion⟩

/-- What has been read is told. -/
theorem Reads.told (h : Reads [] pairs fields) : Told pairs (ofFields fields) where
  name := gives_of_settled (h.settled (by decide))
  category := gives_of_settled (h.settled (by decide))
  description := gives_of_settled (h.settled (by decide))
  defaultVersion := gives_of_settled (h.settled (by decide))

variable {d : Document} {n m : Nat}

theorem set_eq_ok {v : Value} (hkey : key ∈ keys) : set fields key v = .ok fields' ↔
    ∃ o, Question.ScalarText v o ∧ (key, o) :: fields = fields' := by
  simp only [← Question.scalarText_eq_ok]
  rw [set, if_pos (List.contains_iff_mem.2 hkey)]
  rcases scalarText v with e | o
  · simp [Except.map]
  · simp [Except.map]

/-- The values of a key that counts are among the entries that count. -/
theorem valuesOf_known (pairs : List (String × Option Look)) (hkey : key ∈ keys) :
    valuesOf key (known pairs) = valuesOf key pairs := by
  rw [valuesOf, valuesOf, known, List.filter_filter]
  refine congrArg _ (List.filter_congr fun p _ => ?_)
  by_cases hp : p.1 = key
  · rw [hp, List.contains_iff_mem.2 hkey, Bool.and_true]
  · rw [decide_eq_false hp, Bool.false_and]

/-- What is given to a key does not depend on the order of the entries that count, nor on others. -/
theorem Gives.perm (h : Gives pairs key o) (hkey : key ∈ keys)
    (hknown : (known pairs').Perm (known pairs)) : Gives pairs' key o := by
  have hvalues : (valuesOf key pairs').Perm (valuesOf key pairs) := by
    rw [← valuesOf_known pairs' hkey, ← valuesOf_known pairs hkey]
    exact (hknown.filter _).map _
  cases h with
  | absent hnone => exact .absent (hnone ▸ hvalues).eq_nil
  | once hone hcounts => exact .once (List.perm_singleton.1 (hone ▸ hvalues)) hcounts

theorem Told.perm (h : Told pairs c) (hknown : (known pairs').Perm (known pairs)) :
    Told pairs' c where
  name := h.name.perm (by decide) hknown
  category := h.category.perm (by decide) hknown
  description := h.description.perm (by decide) hknown
  defaultVersion := h.defaultVersion.perm (by decide) hknown

/-- A file of this text is read as the text is. -/
theorem ofFile_encode (file : Location) (text : String) : ofFile file (.ok (Text.encode text)) =
    (ofText text).mapError fun f =>
      ⟨["Failed to parse config file " ++ file.display], .catalog (.markup f)⟩ := by
  have htext : fileText (.ok (Text.encode text)) = .ok text := fileText_eq_ok.2 rfl
  simp only [ofFile, htext]
  cases ofText text <;> rfl

theorem ofFile_encode_eq_ok {file : Location} {text : String} :
    ofFile file (.ok (Text.encode text)) = .ok c ↔ ofText text = .ok c := by
  rw [ofFile_encode]
  cases ofText text <;> simp [Except.mapError]

end Config

end TemplateCatalog
