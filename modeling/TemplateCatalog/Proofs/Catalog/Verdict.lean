import TemplateCatalog.Disk.Tree
import TemplateCatalog.Proofs.Catalog.Lookup

/-!
# What decides a lookup

Whether a version is found is decided by two names and two directories, and by nothing
else. A lookup reads and parses every file of the version on its way, but whatever is
wrong with a file is a problem of the detail that is given, never a failure; and what is
published is asked only when there is a detail to give.

* `Version.verdict`: the verdict, told by the names and by whether the two directories are
  there;
* `Version.run_version`: a lookup ends as the verdict says, if directories can be listed;
* `Version.lookup_typed`: the four ways in which it ends, and that nothing else changes
  which of them it is.
-/

namespace TemplateCatalog

/-- Every directory can be listed. -/
def Disk.Listable (d : Disk) : Prop := ∀ l, d.isDirectory l = true → ∃ names, d.names l = .ok names

/-- All directories of a file tree can be listed, however links lead to them. -/
theorem Volume.listable (v : Volume) : v.disk.Listable := by
  intro l h
  have h : (v.get l).toOption.any Tree.isDirectory = true := h
  cases hget : v.get l with
  | error e =>
    rw [hget] at h
    cases h
  | ok t =>
    rw [hget] at h
    cases t with
    | directory entries =>
      refine ⟨entries.map (·.1), ?_⟩
      show v.disk (.names l) = _
      rw [disk, hget]
    | _ => cases h

/-- A text names exactly one directory in another: it is not empty, it does not lead back,
    and it holds no separator of any system and no character that ends names. -/
def NamesOne (s : String) : Prop :=
  s ≠ "" ∧ s ≠ "." ∧ s ≠ ".." ∧ '/' ∉ s.toList ∧ '\\' ∉ s.toList ∧ '\x00' ∉ s.toList

theorem isIdentifier_iff {s : String} : isIdentifier s = true ↔ NamesOne s := by
  simp only [isIdentifier, NamesOne, Bool.not_eq_true', Bool.or_eq_false_iff,
    String.isEmpty_eq_false_iff, decide_eq_false_iff_not, List.any_eq_false, Bool.or_eq_true,
    decide_eq_true_eq, not_or]
  constructor
  · rintro ⟨⟨⟨hempty, hdot⟩, hdots⟩, hchars⟩
    exact ⟨hempty, hdot, hdots, fun h => (hchars _ h).1.1 rfl, fun h => (hchars _ h).1.2 rfl,
      fun h => (hchars _ h).2 rfl⟩
  · rintro ⟨hempty, hdot, hdots, hslash, hback, hnul⟩
    refine ⟨⟨⟨hempty, hdot⟩, hdots⟩, fun c hc => ⟨⟨?_, ?_⟩, ?_⟩⟩
    · rintro rfl; exact hslash hc
    · rintro rfl; exact hback hc
    · rintro rfl; exact hnul hc

theorem Failure.ofError_inj {e e' : CatalogError} : ofError e = ofError e' ↔ e = e' := by
  constructor
  · intro h
    cases h
    rfl
  · rintro rfl
    rfl

namespace Version

/-- How a lookup ends, the detail left out: told by the two names, and by whether there are
    the two directories. -/
def verdict (t v : String) (template version : Bool) : Except Failure Unit :=
  if isIdentifier t = false then .error (.ofError (.invalidIdentifier t))
  else if isIdentifier v = false then .error (.ofError (.invalidIdentifier v))
  else if version then .ok ()
  else if template then .error (.ofError (.versionNotFound t v))
  else .error (.ofError (.templateNotFound t))

variable {d : Disk} {t v : String}

/-- A lookup ends as the names and the two directories say. No file is asked for it, and
    neither is the catalog. -/
theorem run_version (hd : d.Listable) (root : Location) (s : Snapshot) (t v : String) :
    ((s.version root t v).run d).map (fun _ => ()) =
      verdict t v (d.isDirectory (root.child t)) (d.isDirectory ((root.child t).child v)) := by
  rw [Snapshot.version, Interaction.run_bind, run_inquire, verdict]
  split
  · rfl
  split
  · rfl
  split
  · next hdir =>
    -- The directory can be listed, so its contents are told, with all problems of its files.
    obtain ⟨names, hnames⟩ := hd _ hdir
    obtain ⟨entries, hentries⟩ := Disk.exists_entries.2 ⟨names, hnames⟩
    rw [Contents.run_inquire, hentries]
    rfl
  · split <;> rfl

/-- How a lookup of a version ends. -/
structure Typed (d : Disk) (root : Location) (t v : String) (r : Except Failure Version) :
    Prop where
  /-- An invalid name is told, that of the template before that of the version. -/
  invalid : ∀ value, r = .error (.ofError (.invalidIdentifier value)) ↔
    ¬ NamesOne t ∧ value = t ∨ NamesOne t ∧ ¬ NamesOne v ∧ value = v
  /-- A detail is given exactly if there is the directory of the version. -/
  found : NamesOne t → NamesOne v →
    ((∃ detail, r = .ok detail) ↔ d.isDirectory ((root.child t).child v) = true)
  versionNotFound : NamesOne t → NamesOne v → (r = .error (.ofError (.versionNotFound t v)) ↔
    d.isDirectory ((root.child t).child v) = false ∧ d.isDirectory (root.child t) = true)
  templateNotFound : NamesOne t → NamesOne v → (r = .error (.ofError (.templateNotFound t)) ↔
    d.isDirectory ((root.child t).child v) = false ∧ d.isDirectory (root.child t) = false)
  /-- There is no other way to fail. -/
  only : ∀ f, r = .error f → (∃ value, f = .ofError (.invalidIdentifier value)) ∨
    f = .ofError (.versionNotFound t v) ∨ f = .ofError (.templateNotFound t)
  /-- It is the last two that say that something is not there. -/
  notFound : ∀ e, r = .error (.ofError e) →
    (e.isNotFound = true ↔ e = .versionNotFound t v ∨ e = .templateNotFound t)

theorem eq_error_iff {r : Except Failure Version} {f : Failure} :
    r = .error f ↔ r.map (fun _ => ()) = .error f := by
  cases r <;> simp [Except.map]

theorem exists_eq_ok_iff {r : Except Failure Version} :
    (∃ detail, r = .ok detail) ↔ r.map (fun _ => ()) = .ok () := by
  cases r <;> simp [Except.map]

/-- An invalid name decides a lookup at once. -/
theorem verdict_eq_invalid {template version : Bool} {value : String} :
    verdict t v template version = .error (.ofError (.invalidIdentifier value)) ↔
      ¬ NamesOne t ∧ value = t ∨ NamesOne t ∧ ¬ NamesOne v ∧ value = v := by
  rw [← isIdentifier_iff, ← isIdentifier_iff, verdict]
  cases isIdentifier t <;> cases isIdentifier v <;> cases version <;> cases template <;>
    simp [Failure.ofError_inj, eq_comm]

/-- With valid names, the two directories decide it. -/
theorem verdict_of_namesOne (ht : NamesOne t) (hv : NamesOne v) (template version : Bool) :
    verdict t v template version =
      if version then .ok ()
      else if template then .error (.ofError (.versionNotFound t v))
      else .error (.ofError (.templateNotFound t)) := by
  rw [verdict, isIdentifier_iff.2 ht, isIdentifier_iff.2 hv]
  rfl

/-- There are three ways to fail. -/
theorem error_of_verdict {template version : Bool} {f : Failure}
    (h : verdict t v template version = .error f) :
    (∃ value, f = .ofError (.invalidIdentifier value)) ∨
      f = .ofError (.versionNotFound t v) ∨ f = .ofError (.templateNotFound t) := by
  rw [verdict] at h
  split at h
  · cases h; exact .inl ⟨t, rfl⟩
  split at h
  · cases h; exact .inl ⟨v, rfl⟩
  split at h
  · cases h
  split at h
  · cases h; exact .inr (.inl rfl)
  · cases h; exact .inr (.inr rfl)

/-- **Typed lookups**: if directories can be listed, a lookup ends in one of four ways, which
    the two names and the two directories decide. On any other disk with these directories,
    whatever its files hold and whatever is published, the lookup ends in the same way. -/
theorem lookup_typed (hd : d.Listable) (root : Location) (s : Snapshot) (t v : String) :
    Typed d root t v ((s.version root t v).run d) ∧
      ∀ (d' : Disk) (s' : Snapshot), d'.Listable →
        d'.isDirectory (root.child t) = d.isDirectory (root.child t) →
        d'.isDirectory ((root.child t).child v) = d.isDirectory ((root.child t).child v) →
        ((s'.version root t v).run d').map (fun _ => ()) =
          ((s.version root t v).run d).map (fun _ => ()) := by
  have hrun := run_version hd root s t v
  have honly (f : Failure) (hf : (s.version root t v).run d = .error f) :
      (∃ value, f = .ofError (.invalidIdentifier value)) ∨
        f = .ofError (.versionNotFound t v) ∨ f = .ofError (.templateNotFound t) := by
    rw [eq_error_iff, hrun] at hf
    exact error_of_verdict hf
  -- Up to its detail a run is the verdict, so each way to end is read off that.
  refine ⟨⟨fun value => ?_, fun ht hv => ?_, fun ht hv => ?_, fun ht hv => ?_, honly, ?_⟩, ?_⟩
  · rw [eq_error_iff, hrun, verdict_eq_invalid]
  · rw [exists_eq_ok_iff, hrun, verdict_of_namesOne ht hv]
    cases d.isDirectory ((root.child t).child v) <;> cases d.isDirectory (root.child t) <;> simp
  · rw [eq_error_iff, hrun, verdict_of_namesOne ht hv]
    cases d.isDirectory ((root.child t).child v) <;> cases d.isDirectory (root.child t) <;>
      simp [Failure.ofError_inj]
  · rw [eq_error_iff, hrun, verdict_of_namesOne ht hv]
    cases d.isDirectory ((root.child t).child v) <;> cases d.isDirectory (root.child t) <;>
      simp [Failure.ofError_inj]
  · intro e he
    obtain ⟨value, h⟩ | h | h := honly _ he
    · rw [Failure.ofError_inj.1 h]
      simp [CatalogError.isNotFound]
    · rw [Failure.ofError_inj.1 h]
      simp [CatalogError.isNotFound]
    · rw [Failure.ofError_inj.1 h]
      simp [CatalogError.isNotFound]
  · intro d' s' hd' htemplate hversion
    rw [hrun, run_version hd' root s' t v, htemplate, hversion]

/-- The directories of the small disk can be listed. -/
theorem shelf_listable : Disk.shelf.Listable := by
  intro l h
  have h : l ∈ [Location.ofString "shelf", .ofString "shelf/mysql", .ofString "shelf/mysql/1"] :=
    of_decide_eq_true h
  simp only [List.mem_cons, List.not_mem_nil, or_false] at h
  rcases h with rfl | rfl | rfl
  · exact ⟨_, rfl⟩
  · exact ⟨_, rfl⟩
  · exact ⟨_, rfl⟩

/-- The small disk with all its files spoiled: none of them holds a text. -/
def spoiled : Disk
  | .content _ => .ok [0xFF]
  | .isDirectory l => Disk.shelf.isDirectory l
  | .isPresent l => Disk.shelf.isPresent l
  | .names l => Disk.shelf.names l

/-- On the shelf one version is found and another is not; and if all its files are spoiled
    and nothing is published, the one is found still. -/
theorem lookup_typed_spoiled :
    Disk.shelf.Listable ∧ spoiled.Listable ∧
      (Snapshot.empty.version (.ofString "shelf") "mysql" "2").run Disk.shelf =
        .error (.ofError (.versionNotFound "mysql" "2")) ∧
      ∃ detail,
        (Snapshot.empty.version (.ofString "shelf") "mysql" "1").run spoiled = .ok detail := by
  have hspoiled : spoiled.Listable := shelf_listable
  have hname : NamesOne "mysql" := isIdentifier_iff.1 (by decide)
  obtain ⟨hmissing, -⟩ := lookup_typed shelf_listable (.ofString "shelf") Snapshot.empty "mysql" "2"
  obtain ⟨hfound, hsame⟩ :=
    lookup_typed shelf_listable (.ofString "shelf") Snapshot.empty "mysql" "1"
  refine ⟨shelf_listable, hspoiled, ?_, ?_⟩
  · exact (hmissing.versionNotFound hname (isIdentifier_iff.1 (by decide))).2 ⟨by decide, by decide⟩
  · have hone := (hfound.found hname (isIdentifier_iff.1 (by decide))).2 (by decide)
    rw [exists_eq_ok_iff] at hone ⊢
    rw [hsame spoiled Snapshot.empty hspoiled rfl rfl, hone]

end Version

end TemplateCatalog
