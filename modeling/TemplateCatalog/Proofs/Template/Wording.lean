import TemplateCatalog.Catalog.Version
import TemplateCatalog.Proofs.Interaction
import TemplateCatalog.Proofs.Template.Selection

/-!
# How problems are told apart

The problems of a version are those of its files, and perhaps that its template is missing.
They are told apart by their texts: whatever is wrong with a file, its text does not begin
as the other does. Only the beginning matters, so most of a text need not be known.

* `Contents.missingParent_not_mem`: no file of a version has the problem that its template is
  missing.
-/

namespace TemplateCatalog

/-- The letter that a text begins with. -/
def initial? (text : String) : Option Char := text.toList.head?

/-- A text begins as the first part of it, if that is not empty. -/
theorem initial?_append {a : String} {c : Char} (h : initial? a = some c) (b : String) :
    initial? (a ++ b) = some c := by
  rw [initial?, String.toList_append, List.head?_append]
  rw [initial?] at h
  rw [h]
  rfl

/-- A failure begins as its outermost text. -/
theorem Failure.initial?_text {f : Failure} {first : String} {rest : List String} {c : Char}
    (hchain : f.chain = first :: rest) (h : initial? first = some c) :
    initial? f.text = some c := by
  rw [text, hchain, initial?, String.toList_intercalate, List.map_cons]
  rw [initial?] at h
  cases rest with
  | nil => simpa using h
  | cons second rest =>
    rw [List.map_cons, List.intercalate_cons_cons, List.head?_append, List.head?_append, h]
    rfl

/-- An error of the disk begins with one of these letters. -/
theorem DiskError.initial?_text (e : DiskError) :
    initial? e.text ∈ ['N', 'F', 'I', 'D', 'T', 'f', 's'].map some := by
  cases e <;> decide

/-- What is told if a template is missing begins with this letter. -/
theorem Version.initial?_missingParent (root : Location) (t v : String) :
    initial? (missingParent root t v).message = some 'p' := by
  rw [missingParent, String.append_assoc]
  exact initial?_append rfl _

/-- What is wrong with a file begins with another letter than that its template is missing. -/
def Defect.Own (d : Defect) : Prop := initial? d.text ≠ some 'p'

/-- What begins with none but these letters does not begin with another. -/
theorem Defect.own_of_mem {d : Defect} {letters : List (Option Char)}
    (h : initial? d.text ∈ letters) (hp : some 'p' ∉ letters) : d.Own := by
  intro heq
  rw [heq] at h
  exact hp h

/-- If a configuration cannot be told, either its file or its format is named. -/
theorem Config.initial?_of_file {file : Location} {content : Except DiskError Bytes} {f : Failure}
    (h : ofFile file content = .error f) : initial? f.text = some 'F' := by
  rw [ofFile] at h
  split at h
  · cases h
    exact Failure.initial?_text rfl (initial?_append rfl _)
  split at h
  · cases h
  · cases h
    exact Failure.initial?_text rfl (initial?_append rfl _)

/-- If the questions of a section cannot be read, the section is named. -/
theorem Question.initial?_of_sections {entries : List (Yaml.Value × Yaml.Value)} {f : Failure}
    (h : sections entries = .error f) : initial? f.text = some 'I' := by
  induction entries with
  | nil => cases h
  | cons entry rest ih =>
    obtain ⟨key, v⟩ := entry
    rw [sections] at h
    split at h
    · exact ih h
    split at h
    · cases hrest : sections rest with
      | error f' =>
        rw [hrest] at h
        cases h
        exact ih hrest
      | ok found =>
        rw [hrest] at h
        cases h
    · cases h
      refine Failure.initial?_text rfl ?_
      rw [String.append_assoc]
      exact initial?_append rfl _

/-- An error without a context begins as its own text, if it is not one of the markup. -/
theorem Failure.initial?_ofError {e : CatalogError} {c : Char} (hc : initial? e.text = some c)
    (he : ∀ fault, e ≠ .markup fault) : initial? (ofError e).text = some c := by
  have hchain : (ofError e).chain = [e.text] := by
    rw [chain, ofError, Cause.layers, List.nil_append]
    exact he
  exact initial?_text hchain hc

/-- If the questions of a document cannot be told, the text begins with what is wrong or with
    the name of the file. -/
theorem Question.initial?_of_document {file : String} {v : Yaml.Value} {f : Failure} {c : Char}
    (hfile : initial? file = some c) (h : listOfDocument file v = .error f) :
    initial? f.text ∈ [some 'I', some 'M', some c] := by
  unfold listOfDocument at h
  split at h
  · cases h
  · split at h
    · next hsections =>
      cases h
      rw [initial?_of_sections hsections]
      exact List.mem_cons_self
    · cases h
    · cases h
    · next found _ _ _ =>
      have hcat : (CatalogError.questionConflict file (found.map (·.1))).text =
          "Multiple sections declare questions in " ++ file ++ ": " ++
            ", ".intercalate (found.map (·.1)) := rfl
      have htext :
          initial? (CatalogError.questionConflict file (found.map (·.1))).text = some 'M' := by
        rw [hcat, String.append_assoc, String.append_assoc]
        exact initial?_append rfl _
      rw [← Except.error.inj h, Failure.initial?_ofError htext nofun]
      exact List.mem_cons_of_mem _ List.mem_cons_self
  · have htext :
        initial? (CatalogError.other (file ++ " is not a mapping of sections")).text = some c :=
      initial?_append hfile _
    rw [← Except.error.inj h, Failure.initial?_ofError htext nofun]
    exact List.mem_cons_of_mem _ (List.mem_cons_of_mem _ List.mem_cons_self)

/-- If the questions in a file cannot be told, the text begins with what is wrong or with the
    name of the file. -/
theorem Question.initial?_of_text {file text : String} {f : Failure} {c : Char}
    (hfile : initial? file = some c) (h : listOfText file text = .error f) :
    initial? f.text ∈ [some 'Y', some 'I', some 'M', some c] := by
  unfold listOfText at h
  split at h
  · next fault _ =>
    cases h
    have hmarkup : initial? (CatalogError.markup fault).text = some 'Y' := initial?_append rfl _
    rw [Failure.initial?_text rfl hmarkup]
    exact List.mem_cons_self
  · exact List.mem_cons_of_mem _ (initial?_of_document hfile h)

/-- The files that hold questions all begin alike. -/
theorem Entry.initial?_orchestration {e : Entry} (h : e.role = .orchestration) :
    initial? e.name = some 'r' := by
  have hbegins := (role_eq_iff (r := .orchestration) rfl).1 h
  obtain ⟨rest, hrest⟩ := List.isPrefixOf_iff_prefix.1 hbegins
  rw [initial?, ← hrest, List.head?_append]
  rfl

/-- What is wrong with a part is a problem of its own. -/
theorem Part.own_of_comesTo {e : Entry} {told : List ((q : DiskQuestion) × q.Answer)} {p : Part}
    (h : (inquire e).ComesTo told p) {d : Defect} (hd : p.defect? = some d) : d.Own := by
  rw [inquire] at h
  -- The cases are the roles. A file of no role, and an icon, can have no defect.
  split at h
  · obtain ⟨_, content, _, -, -, hpure⟩ := Interaction.comesTo_bind.1 h
    obtain ⟨-, rfl⟩ := Interaction.comesTo_pure_iff.1 hpure
    cases hfile : Config.ofFile e.location content with
    | ok config => rw [hfile] at hd; cases hd
    | error f =>
      rw [hfile] at hd
      cases hd
      exact Defect.own_of_mem (List.mem_singleton.2 (Config.initial?_of_file hfile)) (by decide)
  · obtain ⟨-, rfl⟩ := Interaction.comesTo_pure_iff.1 h
    cases hd
  · obtain ⟨_, text, _, -, -, hpure⟩ := Interaction.comesTo_bind.1 h
    obtain ⟨-, rfl⟩ := Interaction.comesTo_pure_iff.1 hpure
    cases text with
    | ok text => cases hd
    | error error =>
      cases hd
      exact Defect.own_of_mem error.initial?_text (by decide)
  · next hrole =>
    obtain ⟨_, text, _, -, -, hpure⟩ := Interaction.comesTo_bind.1 h
    cases text with
    | error error =>
      obtain ⟨-, rfl⟩ := Interaction.comesTo_pure_iff.1 hpure
      cases hd
      exact Defect.own_of_mem error.initial?_text (by decide)
    | ok text =>
      obtain ⟨-, rfl⟩ := Interaction.comesTo_pure_iff.1 hpure
      cases hquestions : Question.listOfText e.name text with
      | ok questions => rw [hquestions] at hd; cases hd
      | error f =>
        rw [hquestions] at hd
        cases hd
        have hname := Entry.initial?_orchestration hrole
        exact Defect.own_of_mem (Question.initial?_of_text hname hquestions) (by decide)
  · obtain ⟨-, rfl⟩ := Interaction.comesTo_pure_iff.1 h
    cases hd

namespace Contents

variable {root : Location} {t v : String} {told : List ((q : DiskQuestion) × q.Answer)}
  {c : Contents}

/-- The defects of a version are its own. -/
theorem own_of_comesTo (h : (inquire root t v).ComesTo told (.ok c)) :
    ∀ p ∈ c.defects, p.2.Own := by
  obtain ⟨_, listed, _, -, -, h⟩ := Interaction.comesTo_bind.1 h
  cases listed with
  | error e =>
    obtain ⟨-, hc⟩ := Interaction.comesTo_pure_iff.1 h
    cases hc
  | ok entries =>
    obtain ⟨_, parts, _, -, heach, hpure⟩ := Interaction.comesTo_bind.1 h
    obtain ⟨-, hc⟩ := Interaction.comesTo_pure_iff.1 hpure
    cases hc
    intro p hp
    rw [ofParts, defects_foldl] at hp
    obtain ⟨part, hpart, hdefect⟩ := List.mem_filterMap.1 hp
    obtain ⟨d, hd, rfl⟩ := Option.map_eq_some_iff.1 hdefect
    obtain ⟨e, -, _, -, hone⟩ := heach.exists_of_mem hpart
    obtain ⟨_, found, _, -, hfound, hpure⟩ := Interaction.comesTo_bind.1 hone
    obtain ⟨-, rfl⟩ := Interaction.comesTo_pure_iff.1 hpure
    exact Part.own_of_comesTo hfound hd

/-- No file of a version has the problem that its template is missing. -/
theorem missingParent_not_mem (h : (inquire root t v).ComesTo told (.ok c)) :
    Version.missingParent root t v ∉ c.diagnostics := by
  intro hmem
  obtain ⟨p, hp, heq⟩ := List.mem_map.1 hmem
  have hinitial := Version.initial?_missingParent root t v
  rw [← heq] at hinitial
  exact own_of_comesTo h p hp hinitial

end Contents

end TemplateCatalog
