import TemplateCatalog.Proofs.Catalog.Confinement
import TemplateCatalog.Proofs.Template.Complaint

/-!
# Lookups on a disk that changes

A lookup takes one step after another: it looks whether the directory of the version is there,
lists it, looks at its entries and reads its files. While it does so others may change the disk, so
that each step sees a state of its own (`Interaction.Follows`). What comes of a lookup depends on
two of them: the directory must be there at the first step, and be listed at the second. What is
missed later is missing in the detail, and told there.

* `Refusal`: the failures that name what is wrong with a request;
* `Contents.unread_reported`: a file that is gone when it comes to be read is a problem, not a
  failure;
* `Version.lookup_among_changes`: what comes of a lookup, whatever becomes of the disk meanwhile;
* `Version.not_wakeful_fading`: it does not watch the directory once it has been listed.
-/

namespace TemplateCatalog

/-! ## States, one at each step -/

namespace Interaction

variable {Q : Type} {A : Q → Type} {α : Type}

/-- Each answer was given by the state of its own step. -/
def Follows (state : Nat → ∀ q, A q) (told : List ((q : Q) × A q)) : Prop :=
  ∀ n x, told[n]? = some x → x.2 = state n x.1

theorem follows_nil (state : Nat → ∀ q, A q) : Follows state [] := nofun

/-- The first answer was given by the first state, and the others by those after it. -/
theorem follows_cons_iff {state : Nat → ∀ q, A q} {x : (q : Q) × A q}
    {told : List ((q : Q) × A q)} :
    Follows state (x :: told) ↔ x.2 = state 0 x.1 ∧ Follows (fun n => state (n + 1)) told := by
  constructor
  · intro h
    exact ⟨h 0 x rfl, fun n y hy => h (n + 1) y hy⟩
  · rintro ⟨hfirst, hrest⟩ n y hy
    cases n with
    | zero =>
      cases hy
      exact hfirst
    | succ n => exact hrest n y hy

/-- However the states follow one another, an interaction comes to its end. -/
theorem exists_follows (state : Nat → ∀ q, A q) (i : Interaction Q A α) :
    ∃ told a, i.ComesTo told a ∧ Follows state told := by
  induction i generalizing state with
  | done a => exact ⟨[], a, .done a, follows_nil state⟩
  | ask q next ih =>
    obtain ⟨told, a, hcomes, hfollows⟩ := ih (state 0 q) fun n => state (n + 1)
    exact ⟨_, a, .ask (state 0 q) hcomes, follows_cons_iff.2 ⟨rfl, hfollows⟩⟩

end Interaction

/-- A directory is there at one of so many steps, and is gone at a later one. -/
def Disk.Vanishes (state : Nat → Disk) (steps : Nat) (l : Location) : Prop :=
  ∃ m n, m < n ∧ n < steps ∧ (state m).isDirectory l = true ∧ (state n).isDirectory l = false

/-! ## Files that are gone -/

/-- A file that cannot be read has a defect that says why. -/
theorem Part.Read.defect (f : Part.Read) {l : Location} {error : DiskError}
    (h : ⟨.content l, .error error⟩ ∈ f.told) :
    l = f.entry.location ∧
      ∃ x, f.part.defect? = some x ∧ error.text.toList <:+ x.text.toList := by
  obtain ⟨d, hpart, htold⟩ := comesTo_inquire f.comesTo
  rw [htold] at h
  split at h
  case isFalse => cases h
  next hasks =>
  obtain ⟨hquestion, hread⟩ := Sigma.mk.inj (List.mem_singleton.1 h)
  obtain rfl := DiskQuestion.content.inj hquestion
  have hread : d.content f.entry.location = .error error := (eq_of_heq hread).symm
  refine ⟨rfl, ?_⟩
  have hunread : d.Unreadable f.entry.location error := .inl hread
  simp only [hpart, Contents.defect?_part, Disk.defect?_eq_some]
  cases hkind : f.entry.role with
  | configuration =>
    refine ⟨_, .unreadable ((Entry.role_eq_iff rfl).1 hkind) hunread, ?_⟩
    exact ⟨_, (String.toList_append ..).symm⟩
  | deployment => exact ⟨_, .deployment ((Entry.role_eq_iff rfl).1 hkind) hunread, List.suffix_rfl⟩
  | orchestration =>
    exact ⟨_, .orchestration ((Entry.role_eq_iff rfl).1 hkind) hunread, List.suffix_rfl⟩
  | icon | none =>
    rw [asks, hkind] at hasks
    cases hasks

/-- To read a file takes one step, if it is asked for its content. -/
theorem Part.Read.length_told (f : Part.Read) : f.told.length = if asks f.entry then 1 else 0 := by
  obtain ⟨d, -, htold⟩ := comesTo_inquire f.comesTo
  rw [htold]
  split <;> rfl

namespace Contents

/-- The files of a directory take a step for each that is asked, in whatever order they come. -/
theorem length_told {dir : Location} {l : List (Bytes × Bool)} {reads : List Part.Read}
    (h : reads.map (·.entry) = filesTold dir l) :
    (reads.flatMap (·.told)).length =
      ((l.map (Entry.ofTold dir)).filter fun e => !e.isDirectory).countP Part.asks := by
  have hcount : (reads.flatMap (·.told)).length = (reads.map (·.entry)).countP Part.asks := by
    clear h
    induction reads with
    | nil => rfl
    | cons f reads ih =>
      rw [List.flatMap_cons, List.length_append, ih, f.length_told, List.map_cons,
        List.countP_cons, Nat.add_comm]
  rw [hcount, h]
  exact ((List.mergeSort_perm _ _).filter _).countP_eq _

/-- A file that could not be read when its turn came is a problem of the version, and says why. -/
theorem unread_reported {reads : List Part.Read} {l : Location} {error : DiskError}
    (h : ⟨.content l, .error error⟩ ∈ reads.flatMap (·.told)) (path : String) :
    ∃ problem ∈ (ofParts path (reads.map fun f => (f.entry, f.part))).diagnostics,
      problem.location = l ∧ error.text.toList <:+ problem.message.toList := by
  obtain ⟨f, hf, hunread⟩ := List.mem_flatMap.1 h
  obtain ⟨rfl, x, hdefect, hwhy⟩ := f.defect hunread
  refine ⟨⟨f.entry.location, x.text⟩, ?_, rfl, hwhy⟩
  rw [diagnostics, ofParts, defects_foldl]
  refine List.mem_map.2 ⟨(f.entry.location, x), List.mem_append_right _ ?_, rfl⟩
  refine List.mem_filterMap.2 ⟨_, List.mem_map_of_mem hf, ?_⟩
  rw [hdefect]
  rfl

end Contents

/-! ## Lookups -/

/-- The failures of a lookup that name what is wrong with what it was asked for. -/
inductive Refusal (t v : String) : Failure → Prop
  | identifier {bad : String} : isIdentifier bad = false → bad = t ∨ bad = v →
    Refusal t v (.ofError (.invalidIdentifier bad))
  | template : Refusal t v (.ofError (.templateNotFound t))
  | version : Refusal t v (.ofError (.versionNotFound t v))

/-- A shelf with a version of two manifests, of which the first is empty, as long as it is there. -/
def Disk.fading (there : Bool) : Disk
  | .isDirectory l =>
    l ∈ [.ofString "shelf", .ofString "shelf/mysql"] ∨ there = true ∧ l = .ofString "shelf/mysql/1"
  | .isPresent _ => there
  | .names l =>
    if there = true ∧ l = .ofString "shelf/mysql/1" then
      .ok [Text.encode "docker-compose.yml", Text.encode "rancher-compose.yml"]
    else .error .notFound
  | .content l =>
    if there = true ∧ l = .ofString "shelf/mysql/1/docker-compose.yml" then .ok []
    else .error .notFound

/-- The states of that shelf if the version is taken away after so many steps. -/
def Disk.fadingAfter (steps n : Nat) : Disk := Disk.fading (n < steps)

namespace Version

/-- What one might expect of a lookup on a disk that changes: to find the version only if its
    directory stays there all the time. -/
structure Wakeful (root : Location) (t v : String) (state : Nat → Disk)
    (told : List ((q : DiskQuestion) × q.Answer)) (r : Except Failure Version) : Prop where
  /-- It fails only with a refusal. -/
  typed : ∀ f, r = .error f → Refusal t v f
  /-- A directory that vanishes is not found. -/
  vanishing : Disk.Vanishes state told.length ((root.child t).child v) →
    r = .error (.ofError (.versionNotFound t v)) ∨ r = .error (.ofError (.templateNotFound t))

/-- What comes of a lookup on a disk that changes. -/
structure Steadfast (root : Location) (t v : String) (state : Nat → Disk)
    (told : List ((q : DiskQuestion) × q.Answer)) (r : Except Failure Version) : Prop where
  /-- The first name that is no identifier is refused before the first step. -/
  refused : ∀ bad, FirstRefused t v bad →
    told = [] ∧ r = .error (.ofError (.invalidIdentifier bad))
  /-- A directory that is gone at the first step is not found; the second tells whether that of the
      template is there. -/
  gone : isIdentifier t = true → isIdentifier v = true →
    (state 0).isDirectory ((root.child t).child v) = false →
    r = .error (.ofError (if (state 1).isDirectory (root.child t) then .versionNotFound t v
      else .templateNotFound t))
  /-- One that is there, and is listed at the second step, is found, whatever becomes of it. Each
      file that could not be read any more is a problem, and says why. -/
  listed : isIdentifier t = true → isIdentifier v = true →
    (state 0).isDirectory ((root.child t).child v) = true →
    ∀ names, (state 1).names ((root.child t).child v) = .ok names →
      ∃ detail, r = .ok detail ∧ ∀ l error, ⟨.content l, .error error⟩ ∈ told →
        ∃ problem ∈ detail.diagnostics,
          problem.location = l ∧ error.text.toList <:+ problem.message.toList
  /-- So a lookup fails only with a refusal, unless the directory was there at the first step and
      could not be listed at the second. -/
  typed : ∀ f, r = .error f → Refusal t v f ∨
    (state 0).isDirectory ((root.child t).child v) = true ∧
      ∃ error, (state 1).names ((root.child t).child v) = .error error

variable {root : Location} {s : Snapshot} {t v : String} {state : Nat → Disk}
  {told : List ((q : DiskQuestion) × q.Answer)} {r : Except Failure Version}

/-- Each course is settled by the states of the first two steps. -/
theorem Course.steadfast (h : Course root s t v told r)
    (hfollows : Interaction.Follows state told) : Steadfast root t v state told r := by
  cases h with
  | @refused bad hbad =>
    refine
      { refused := fun bad' hbad' => ⟨rfl, by rw [hbad.unique hbad']⟩
        gone := fun ht hv => (hbad.false ht hv).elim
        listed := fun ht hv => (hbad.false ht hv).elim
        typed := ?_ }
    rintro _ ⟨⟩
    rcases hbad with ⟨ht, rfl⟩ | ⟨-, hv, rfl⟩
    · exact .inl (.identifier ht (.inl rfl))
    · exact .inl (.identifier hv (.inr rfl))
  | missing there ht hv =>
    obtain ⟨hfirst, hrest⟩ := Interaction.follows_cons_iff.1 hfollows
    obtain ⟨hsecond, -⟩ := Interaction.follows_cons_iff.1 hrest
    have hfirst : false = (state 0).isDirectory ((root.child t).child v) := hfirst
    have hsecond : there = (state 1).isDirectory (root.child t) := hsecond
    refine
      { refused := fun bad hbad => (hbad.false ht hv).elim
        gone := fun _ _ _ => by rw [hsecond]
        listed := fun _ _ hthere => absurd (hfirst.trans hthere) Bool.false_ne_true
        typed := ?_ }
    rintro _ ⟨⟩
    cases there with
    | true => exact .inl .version
    | false => exact .inl .template
  | unlisted e ht hv =>
    obtain ⟨hfirst, hrest⟩ := Interaction.follows_cons_iff.1 hfollows
    obtain ⟨hsecond, -⟩ := Interaction.follows_cons_iff.1 hrest
    have hfirst : true = (state 0).isDirectory ((root.child t).child v) := hfirst
    have hsecond : .error e = (state 1).names ((root.child t).child v) := hsecond
    exact
      { refused := fun bad hbad => (hbad.false ht hv).elim
        gone := fun _ _ hgone => absurd (hgone.symm.trans hfirst.symm) Bool.false_ne_true
        listed := fun _ _ _ names hnames => by rw [← hsecond] at hnames; cases hnames
        typed := fun _ _ => .inr ⟨hfirst.symm, e, hsecond.symm⟩ }
  | @read l reads ht hv =>
    obtain ⟨hfirst, -⟩ := Interaction.follows_cons_iff.1 hfollows
    have hfirst : true = (state 0).isDirectory ((root.child t).child v) := hfirst
    refine
      { refused := fun bad hbad => (hbad.false ht hv).elim
        gone := fun _ _ hgone => absurd (hgone.symm.trans hfirst.symm) Bool.false_ne_true
        listed := fun _ _ _ _ _ => ⟨_, rfl, fun location error herror => ?_⟩
        typed := nofun }
    -- All that is told before the files are read answers questions of other kinds.
    have hread : ⟨.content location, .error error⟩ ∈ reads.flatMap (·.told) := by
      rcases List.mem_append.1 ((List.mem_cons.1 herror).resolve_left nofun) with hlisting | hread
      · obtain ⟨e, -, he⟩ := List.mem_map.1 ((List.mem_cons.1 hlisting).resolve_left nofun)
        cases he
      · exact hread
    obtain ⟨problem, hproblem, hlocation, hwhy⟩ :=
      Contents.unread_reported hread (Contents.pathOf t v)
    exact ⟨problem, List.mem_append_left _ hproblem, hlocation, hwhy⟩

/-- **Lookups among changes**: whatever becomes of the disk from one step to the next, a lookup
    comes to its end, and what comes of it is settled by the first two steps. -/
theorem lookup_among_changes (root : Location) (s : Snapshot) (t v : String) (state : Nat → Disk) :
    (∃ told r, (s.version root t v).ComesTo told r ∧ Interaction.Follows state told) ∧
    ∀ told r, (s.version root t v).ComesTo told r → Interaction.Follows state told →
      Steadfast root t v state told r :=
  ⟨Interaction.exists_follows state _, fun _ _ h => (course_of_comesTo h).steadfast⟩

/-- A version that is there for five steps is found, and one that is gone before is not. -/
theorem lookup_among_changes_fading :
    (∃ told detail,
      (Snapshot.empty.version (.ofString "shelf") "mysql" "1").ComesTo told (.ok detail) ∧
      Interaction.Follows (Disk.fadingAfter 5) told) ∧
    ∃ told,
      (Snapshot.empty.version (.ofString "shelf") "mysql" "1").ComesTo told
        (.error (.ofError (.versionNotFound "mysql" "1"))) ∧
      Interaction.Follows (Disk.fadingAfter 0) told := by
  constructor
  · obtain ⟨⟨told, r, h, hfollows⟩, hsteadfast⟩ :=
      lookup_among_changes (.ofString "shelf") Snapshot.empty "mysql" "1" (Disk.fadingAfter 5)
    obtain ⟨detail, rfl, -⟩ :=
      (hsteadfast told r h hfollows).listed (by decide) (by decide) (by decide) _ rfl
    exact ⟨told, detail, h, hfollows⟩
  · obtain ⟨⟨told, r, h, hfollows⟩, hsteadfast⟩ :=
      lookup_among_changes (.ofString "shelf") Snapshot.empty "mysql" "1" (Disk.fadingAfter 0)
    obtain rfl := (hsteadfast told r h hfollows).gone (by decide) (by decide) (by decide)
    exact ⟨told, h, hfollows⟩

/-- The version is found all the same if it is taken away while its files are read, when the first
    has been read and the second has not; and if it is taken away before it is listed, the failure
    is no refusal. -/
theorem not_wakeful_fading :
    (∃ told detail,
      (Snapshot.empty.version (.ofString "shelf") "mysql" "1").ComesTo told (.ok detail) ∧
      Interaction.Follows (Disk.fadingAfter 5) told ∧
      ¬ Wakeful (.ofString "shelf") "mysql" "1" (Disk.fadingAfter 5) told (.ok detail)) ∧
    ∃ told f,
      (Snapshot.empty.version (.ofString "shelf") "mysql" "1").ComesTo told (.error f) ∧
      Interaction.Follows (Disk.fadingAfter 1) told ∧
      ¬ Wakeful (.ofString "shelf") "mysql" "1" (Disk.fadingAfter 1) told (.error f) := by
  constructor
  · obtain ⟨told, r, h, hfollows⟩ := Interaction.exists_follows (Disk.fadingAfter 5)
      (Snapshot.empty.version (.ofString "shelf") "mysql" "1")
    cases course_of_comesTo h with
    | refused hbad => exact (hbad.false (by decide) (by decide)).elim
    | missing => exact absurd (hfollows 0 _ rfl) (by decide +kernel)
    | unlisted => cases hfollows 1 _ rfl
    | @read l reads ht hv hfiles =>
      have hnames : .ok (l.map (·.1)) =
          (Except.ok [Text.encode "docker-compose.yml", Text.encode "rancher-compose.yml"] :
            Except DiskError (List Bytes)) := hfollows 1 _ rfl
      obtain ⟨⟨_, x⟩, rest, rfl, rfl, hrest⟩ := List.map_eq_cons_iff.1 (Except.ok.inj hnames)
      obtain ⟨⟨_, y⟩, none, rfl, rfl, hnone⟩ := List.map_eq_cons_iff.1 hrest
      obtain rfl := List.map_eq_nil_iff.1 hnone
      -- The two are files, as they were still there when they were looked at.
      have hx : x = (Disk.fading true).isDirectory
        (.ofString "shelf/mysql/1/docker-compose.yml") := hfollows 2 _ rfl
      have hy : y = (Disk.fading true).isDirectory
        (.ofString "shelf/mysql/1/rancher-compose.yml") := hfollows 3 _ rfl
      obtain rfl : x = false := hx.trans (by decide)
      obtain rfl : y = false := hy.trans (by decide)
      have htwo : (reads.flatMap (·.told)).length = 2 := by
        rw [Contents.length_told hfiles]
        decide +kernel
      refine ⟨_, _, h, hfollows, fun hwakeful => ?_⟩
      rcases hwakeful.vanishing
        ⟨0, 5, by decide, by simp [Location.listing, htwo], by decide, by decide⟩ with
        hfailed | hfailed <;> cases hfailed
  · obtain ⟨told, r, h, hfollows⟩ := Interaction.exists_follows (Disk.fadingAfter 1)
      (Snapshot.empty.version (.ofString "shelf") "mysql" "1")
    cases course_of_comesTo h with
    | refused hbad => exact (hbad.false (by decide) (by decide)).elim
    | missing => exact absurd (hfollows 0 _ rfl) (by decide +kernel)
    | unlisted =>
      refine ⟨_, _, h, hfollows, fun hwakeful => ?_⟩
      cases hwakeful.typed _ rfl
    | read => cases hfollows 1 _ rfl

end Version

end TemplateCatalog
