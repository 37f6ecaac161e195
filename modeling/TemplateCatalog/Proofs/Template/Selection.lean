import TemplateCatalog.Proofs.Disk.Reading

/-!
# Which files count

The parts of a directory are found one after another, and each takes the place of an
earlier one of its kind. So the last of a kind counts (`foldl_last`), and what an inquiry
comes to is what the directory says, told at once.

* `Contents.run_inquire`: the directory of a version;
* `Summary.run_inquire`: the directory of a template.
-/

namespace TemplateCatalog

/-- If every step either sets a part of the state anew or leaves it, the last that set it
    counts. -/
theorem foldl_last {σ α β : Type} (part : σ → β) (new : α → Option β) {step : σ → α → σ}
    (h : ∀ s a, part (step s a) = (new a).getD (part s)) (l : List α) (s : σ) :
    part (l.foldl step s) = (l.filterMap new).getLast?.getD (part s) := by
  induction l generalizing s with
  | nil => rfl
  | cons a l ih =>
    rw [List.foldl_cons, ih, h, List.filterMap_cons]
    cases new a with
    | none => rfl
    | some b => simp [List.getLast?_cons]

/-- The same for a part that is not there at first. -/
theorem foldl_last? {σ α β : Type} (part : σ → Option β) (new : α → Option β) {step : σ → α → σ}
    (h : ∀ s a, part (step s a) = (new a).or (part s)) (l : List α) {s : σ} (hs : part s = none) :
    part (l.foldl step s) = (l.filterMap new).getLast? := by
  rw [foldl_last part (fun a => (new a).map some) (fun s a => by rw [h]; cases new a <;> rfl), hs,
    ← List.map_filterMap, List.getLast?_map]
  cases (l.filterMap new).getLast? <;> rfl

/-! ## Parts of a version -/

/-- What an entry comes to. -/
def Disk.part (d : Disk) (e : Entry) : Part :=
  match e.role with
  | .configuration => .configuration (Config.ofFile e.location (d.content e.location))
  | .icon => .icon
  | .deployment => .deployment (fileText (d.content e.location))
  | .orchestration =>
    .orchestration ((fileText (d.content e.location)).map fun text =>
      (text, Question.listOfText e.name text))
  | .none => .none

/-- What an inquiry finds of an entry is what the entry comes to. -/
@[simp] theorem Part.run_inquire (d : Disk) (e : Entry) : (Part.inquire e).run d = d.part e := by
  rw [Part.inquire, Disk.part]
  cases e.role with
  | orchestration =>
    rw [Interaction.run_bind]
    have htext : (Inquiry.text e.location).run d = fileText (d.content e.location) := rfl
    rw [htext]
    cases fileText (d.content e.location) <;> rfl
  | _ => rfl

/-- What a part is for. -/
def Part.role : Part → Role
  | configuration _ => .configuration
  | icon => .icon
  | deployment _ => .deployment
  | orchestration _ => .orchestration
  | none => .none

/-- An entry comes to a part of its own kind. -/
theorem Disk.role_part (d : Disk) (e : Entry) : (d.part e).role = e.role := by
  rw [Disk.part]
  cases e.role <;> rfl

namespace Contents

variable (d : Disk) (path : String)

/-- What an entry newly says of the configuration. -/
def newConfig (e : Entry × Part) : Option Config :=
  match e.2 with
  | .configuration (.ok config) => some config
  | _ => none

/-- What an entry newly says of the icon. -/
def newIcon (e : Entry × Part) : Option String :=
  match e.2 with
  | .icon => some (path ++ "/" ++ e.1.name)
  | _ => none

/-- What an entry newly says of the deployment manifest. -/
def newDeployment (e : Entry × Part) : Option String :=
  match e.2 with
  | .deployment (.ok text) => some text
  | _ => none

/-- What an entry newly says of the orchestration manifest and its questions. -/
def newOrchestration (e : Entry × Part) : Option (String × List Question) :=
  match e.2 with
  | .orchestration (.ok (text, questions)) => some (text, questions.toOption.getD [])
  | _ => none

/-- The contents with what an entry comes to, field by field. -/
theorem add_eq (c : Contents) (e : Entry × Part) :
    add path c e =
      { config := (newConfig e).or c.config
        iconPath := (newIcon path e).or c.iconPath
        dockerManifest := (newDeployment e).or c.dockerManifest
        orchestrationManifest := ((newOrchestration e).map (·.1)).or c.orchestrationManifest
        questions := ((newOrchestration e).map (·.2)).getD c.questions
        defects := c.defects ++ (e.2.defect?.map (e.1.location, ·)).toList } := by
  obtain ⟨e, p⟩ := e
  cases p with
  | configuration r => cases r <;> rfl
  | icon => rfl
  | deployment r => cases r <;> rfl
  | orchestration r =>
    rcases r with error | ⟨text, questions⟩
    · rfl
    · cases questions <;> rfl
  | none => rfl

/-- The defects are kept in the order in which they are found. -/
theorem defects_foldl (parts : List (Entry × Part)) (c : Contents) :
    (parts.foldl (add path) c).defects =
      c.defects ++ parts.filterMap fun e => e.2.defect?.map (e.1.location, ·) := by
  induction parts generalizing c with
  | nil => exact (List.append_nil _).symm
  | cons e parts ih =>
    rw [List.foldl_cons, ih, add_eq, List.filterMap_cons, List.append_assoc]
    cases e.2.defect? <;> rfl

/-- If only the entries of one kind say something new, it is said by the files whose names
    begin with the stem of that kind. -/
theorem filterMap_parts {β : Type} {new : Entry × Part → Option β} (got : Entry → Option β)
    {r : Role} {stem : String} (hr : r.stem? = some stem)
    (hnew : ∀ e, e.role = r → new (e, d.part e) = got e)
    (hnone : ∀ e p, p.role ≠ r → new (e, p) = none) (files : List Entry) :
    (files.map fun e => (e, d.part e)).filterMap new =
      (files.filter fun e => e.begins stem).filterMap got := by
  rw [List.filterMap_map, List.filterMap_filter]
  congr 1
  funext e
  by_cases h : e.begins stem = true
  · rw [if_pos h]
    exact hnew e ((Entry.role_eq_iff hr).2 h)
  · -- The entry is of another kind, and so is what it comes to.
    rw [if_neg h]
    refine hnone e _ fun he => h ((Entry.role_eq_iff hr).1 ?_)
    rw [← d.role_part, he]

/-- The files of a directory with what they come to. -/
def partsOf (dir : Location) : List (Entry × Part) := (d.files dir).map fun e => (e, d.part e)

/-- The configuration of a version is that of the last file that holds one. -/
theorem config_ofParts (dir : Location) :
    (ofParts path (partsOf d dir)).config = d.config? dir := by
  refine (foldl_last? (fun c : Contents => c.config) newConfig (fun c e => ?_) _ rfl).trans ?_
  · simp only [add_eq]
  rw [partsOf, filterMap_parts d (fun e => d.configIn? e.location) (r := .configuration) rfl]
  · rfl
  · intro e he
    rw [newConfig, Disk.part, he, Disk.configIn?]
    cases Config.ofFile e.location (d.content e.location) <;> rfl
  · intro e p h
    cases p with
    | configuration r => exact absurd rfl h
    | _ => rfl

/-- The icon of a version is the last of its icons. -/
theorem iconPath_ofParts (dir : Location) :
    (ofParts path (partsOf d dir)).iconPath = (d.icon? dir).map (path ++ "/" ++ ·) := by
  refine (foldl_last? (fun c : Contents => c.iconPath) (newIcon path) (fun c e => ?_) _ rfl).trans ?_
  · simp only [add_eq]
  rw [partsOf, filterMap_parts d (fun e => some (path ++ "/" ++ e.name)) (r := .icon) rfl]
  · rw [Disk.icon?, Option.map_map, List.filterMap_eq_map', List.getLast?_map]
    rfl
  · intro e he
    rw [newIcon, Disk.part, he]
  · intro e p h
    cases p with
    | icon => exact absurd rfl h
    | _ => rfl

/-- The deployment manifest of a version is the last that is a text. -/
theorem dockerManifest_ofParts (dir : Location) :
    (ofParts path (partsOf d dir)).dockerManifest = d.manifest? dir "docker-compose" := by
  refine (foldl_last? (fun c : Contents => c.dockerManifest) newDeployment
    (fun c e => ?_) _ rfl).trans ?_
  · simp only [add_eq]
  rw [partsOf, filterMap_parts d (fun e => (d.textIn? e).map (·.2)) (r := .deployment) rfl]
  · rw [Disk.manifest?, Disk.manifestEntry?, ← List.getLast?_map, List.map_filterMap]
    rfl
  · intro e he
    rw [newDeployment, Disk.part, he, Disk.textIn?]
    cases fileText (d.content e.location) <;> rfl
  · intro e p h
    cases p with
    | deployment r => exact absurd rfl h
    | _ => rfl

/-- The questions that a manifest holds; none if it is malformed. -/
def questionsIn (m : Entry × String) : List Question :=
  (Question.listOfText m.1.name m.2).toOption.getD []

/-- What the orchestration manifests say newly, in the order of their names. -/
theorem newOrchestration_parts (dir : Location) :
    (partsOf d dir).filterMap newOrchestration =
      ((d.filesOf dir "rancher-compose").filterMap d.textIn?).map fun m => (m.2, questionsIn m) := by
  rw [partsOf, filterMap_parts d (fun e => (d.textIn? e).map fun m => (m.2, questionsIn m))
    (r := .orchestration) rfl]
  · rw [List.map_filterMap]
    rfl
  · intro e he
    rw [newOrchestration, Disk.part, he, Disk.textIn?]
    cases fileText (d.content e.location) <;> rfl
  · intro e p h
    cases p with
    | orchestration r => exact absurd rfl h
    | _ => rfl

/-- The orchestration manifest of a version is the last that is a text. -/
theorem orchestrationManifest_ofParts (dir : Location) :
    (ofParts path (partsOf d dir)).orchestrationManifest = d.manifest? dir "rancher-compose" := by
  refine (foldl_last? (fun c : Contents => c.orchestrationManifest)
    (fun e => (newOrchestration e).map (·.1)) (fun c e => ?_) _ rfl).trans ?_
  · simp only [add_eq]
  rw [← List.map_filterMap, newOrchestration_parts, List.map_map, List.getLast?_map]
  rfl

/-- The questions of a version are those of the manifest that is kept. -/
theorem questions_ofParts (dir : Location) :
    (ofParts path (partsOf d dir)).questions = d.questions dir := by
  refine (foldl_last (fun c : Contents => c.questions)
    (fun e => (newOrchestration e).map (·.2)) (fun c e => ?_) _ empty).trans ?_
  · simp only [add_eq]
  rw [← List.map_filterMap, newOrchestration_parts, List.map_map, List.getLast?_map, Disk.questions,
    Disk.manifestEntry?]
  cases ((d.filesOf dir "rancher-compose").filterMap d.textIn?).getLast? <;> rfl

/-- The defect of what an entry comes to is what is wrong with it. -/
theorem defect?_part (e : Entry) : (d.part e).defect? = d.defect? e := by
  rw [Disk.part, Disk.defect?, Entry.begins_eq (r := .configuration) rfl,
    Entry.begins_eq (r := .deployment) rfl, Entry.begins_eq (r := .orchestration) rfl]
  cases e.role with
  | configuration =>
    cases Config.ofFile e.location (d.content e.location) <;> rfl
  | deployment =>
    cases fileText (d.content e.location) <;> rfl
  | orchestration =>
    cases fileText (d.content e.location) with
    | error => rfl
    | ok text => cases h : Question.listOfText e.name text <;> simp [Part.defect?, Except.map, h]
  | _ => rfl

/-- The defects of a version are those of its files. -/
theorem defects_ofParts (dir : Location) :
    (ofParts path (partsOf d dir)).defects = d.defects dir := by
  rw [ofParts, defects_foldl, partsOf, List.filterMap_map, Disk.defects]
  simp only [Function.comp_def, defect?_part]
  rfl

/-- What an inquiry finds in the directory of a version is what the directory says. -/
theorem run_inquire (root : Location) (t v : String) :
    (inquire root t v).run d =
      match d.entries ((root.child t).child v) with
      | .error e =>
        .error ⟨["Failed to list version directory " ++ ((root.child t).child v).display], .disk e⟩
      | .ok _ => .ok (d.contents ((root.child t).child v) (pathOf t v)) := by
  rw [inquire, Interaction.run_bind, Entry.run_listOf]
  generalize hdir : (root.child t).child v = dir
  cases h : d.entries dir with
  | error e => rfl
  | ok entries =>
    simp only [Interaction.run_bind, Interaction.run_each, Part.run_inquire, Interaction.run_pure]
    -- The parts are those of all files, and each field of the contents is told by them.
    have hfiles : entries.filter (fun e => !e.isDirectory) = d.files dir := by
      rw [Disk.files, h]
      rfl
    rw [hfiles]
    refine congrArg Except.ok ?_
    rw [Disk.contents, ← config_ofParts d (pathOf t v) dir, ← iconPath_ofParts,
      ← dockerManifest_ofParts d (pathOf t v) dir, ← orchestrationManifest_ofParts d (pathOf t v) dir,
      ← questions_ofParts d (pathOf t v) dir, ← defects_ofParts d (pathOf t v) dir]
    rfl

end Contents

/-! ## The directory of a template -/

/-- What an inquiry finds of the configuration of a template: what its file holds, or the empty one
    with the problem of the file. -/
theorem Config.run_inquire (d : Disk) (dir : Location) : (Config.inquire dir).run d =
    match ofFile (dir.child "config.yml") (d.content (dir.child "config.yml")) with
    | .ok config => ⟨config, []⟩
    | .error f => ⟨.empty, [⟨dir.child "config.yml", f.text⟩]⟩ := by
  rw [Config.inquire, Interaction.run_bind]
  have hcontent : (Inquiry.content (dir.child "config.yml")).run d =
    d.content (dir.child "config.yml") := rfl
  rw [hcontent]
  cases ofFile (dir.child "config.yml") (d.content (dir.child "config.yml")) <;> rfl

namespace Summary

/-- What an entry newly says of the icon of a template. -/
def newIcon (id : String) (e : Entry) : Option String :=
  if !e.isDirectory && e.begins "catalogIcon" then some (id ++ "/" ++ e.name) else none

/-- The version that an entry of the directory of a template is. -/
def newVersion (id : String) (e : Entry) : Option (String × String) :=
  if e.isDirectory && !e.isHidden then some (e.name, id ++ "/" ++ e.name) else none

/-- A version is a directory that is shown, under its own name. -/
theorem newVersion_eq_some {id v path : String} {e : Entry} :
    newVersion id e = some (v, path) ↔
      (e.isDirectory = true ∧ e.isHidden = false) ∧ e.name = v ∧ path = id ++ "/" ++ v := by
  rw [newVersion, Option.ite_none_right_eq_some, Bool.and_eq_true, Bool.not_eq_true',
    Option.some_inj, Prod.mk.injEq]
  refine and_congr_right fun _ => and_congr_right fun hname => ?_
  rw [hname, eq_comm]

/-- The summary with what an entry says, field by field. -/
theorem addEntry_eq (s : Summary) (e : Entry) :
    s.addEntry e =
      { s with
        iconPath := (newIcon s.id e).or s.iconPath
        versionLinks := (newVersion s.id e).toList.foldl (fun d l => d.insert l.1 l.2) s.versionLinks } := by
  rw [addEntry, newIcon, newVersion]
  cases hd : e.isDirectory with
  | true =>
    cases hh : e.isHidden <;> rfl
  | false =>
    rw [Entry.begins_eq (r := .icon) rfl]
    by_cases hr : e.role = .icon
    · simp [hr]
    · simp [hr]

/-- The summary with what all entries say, field by field. -/
theorem foldl_addEntry (entries : List Entry) (s : Summary) :
    entries.foldl addEntry s =
      { s with
        iconPath := (entries.filterMap (newIcon s.id)).getLast?.or s.iconPath
        versionLinks := (entries.filterMap (newVersion s.id)).foldl (fun d l => d.insert l.1 l.2)
          s.versionLinks } := by
  induction entries generalizing s with
  | nil => rfl
  | cons e entries ih =>
    -- An icon gives way to any that comes later.
    have hlast (new : String) (later : List String) :
        later.getLast?.or (some new) = (new :: later).getLast? := by
      rw [List.getLast?_cons]
      cases later.getLast? <;> rfl
    rw [List.foldl_cons, ih, addEntry_eq, List.filterMap_cons, List.filterMap_cons]
    cases newIcon s.id e with
    | none => cases newVersion s.id e <;> rfl
    | some icon =>
      simp only [Option.some_or, ← hlast]
      cases newVersion s.id e <;> cases (entries.filterMap (newIcon s.id)).getLast? <;> rfl

/-- The icons among entries, each by its path. -/
theorem filterMap_newIcon (id : String) (entries : List Entry) :
    entries.filterMap (newIcon id) =
      ((entries.filter fun e => !e.isDirectory).filter fun e => e.begins "catalogIcon").map
        ((id ++ "/" ++ ·) ∘ (·.name)) := by
  rw [List.filter_filter, ← List.filterMap_eq_map', List.filterMap_filter]
  congr 1
  funext e
  rw [newIcon, Bool.and_comm]
  rfl

/-- What an inquiry finds in the directory of a template is what the directory says. -/
theorem run_inquire (d : Disk) (root : Location) (t : String) :
    ((inquire root t).run d).map (·.value) =
      match d.entries (root.child t) with
      | .error e =>
        .error ⟨["Failed to list template directory " ++ (root.child t).display], .disk e⟩
      | .ok _ => .ok (d.summary (root.child t) t) := by
  rw [inquire, Interaction.run_bind, Entry.run_listOf]
  generalize root.child t = dir
  cases h : d.entries dir with
  | error e => rfl
  | ok entries =>
    simp only [Interaction.run_bind, Interaction.run_pure]
    refine congrArg Except.ok ?_
    have hconfig : ((Config.inquire dir).run d).value = d.rootConfig dir := by
      rw [Config.run_inquire, Disk.rootConfig, Disk.configIn?]
      cases Config.ofFile (dir.child "config.yml") (d.content (dir.child "config.yml")) <;> rfl
    have hicon : (entries.filterMap (newIcon t)).getLast? = (d.icon? dir).map (t ++ "/" ++ ·) := by
      rw [Disk.icon?, Disk.filesOf, Disk.files, h, Option.map_map, ← List.getLast?_map]
      exact congrArg List.getLast? (filterMap_newIcon t entries)
    rw [hconfig, ofEntries, foldl_addEntry, Disk.summary, Disk.versions, h, ← hicon]
    simp only [Summary.withConfig, ofId, Option.or_none]
    rfl

end Summary

end TemplateCatalog
