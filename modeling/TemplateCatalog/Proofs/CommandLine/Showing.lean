import TemplateCatalog.CommandLine.Program
import TemplateCatalog.Proofs.Catalog.Containment
import TemplateCatalog.Proofs.Catalog.Inheritance
import TemplateCatalog.Proofs.CommandLine.Console
import TemplateCatalog.Proofs.Service.Startup
import TemplateCatalog.Proofs.Template.Adoption

/-!
# Showing a version

What the program prints if it is asked for a version, after the service has started. A file that
cannot be read or understood only adds a problem to the detail, and in text a detail is printed
whatever the problems are. In JSON it is printed only if the location of every problem is a text
(`Version.Legible`), so one file whose name is no text can hide the whole version.

* `Version.toJson?_isSome_iff`: which details have a JSON form;
* `Service.legible_iff`: which names spoil it;
* `CommandLine.show_iff`: what showing a version comes to.
-/

namespace TemplateCatalog

/-! ## What is wrong with files -/

namespace Disk

/-- A file that is listed under this name has a defect. -/
def Defective (d : Disk) (dir : Location) (name : Bytes) : Prop :=
  d.isDirectory (dir.join name) = false ∧ (d.defect? (d.entry dir name)).isSome = true

variable {d : Disk} {dir : Location} {names : List Bytes}

/-- The problems with the files of a directory are with those that have a defect. -/
theorem exists_mem_problems_iff (h : d.names dir = .ok names) {l : Location} :
    (∃ p ∈ d.problems dir, p.location = l) ↔
      ∃ name ∈ names, d.Defective dir name ∧ dir.join name = l := by
  constructor
  · rintro ⟨p, hp, rfl⟩
    obtain ⟨⟨l, defect⟩, hdefect, rfl⟩ := List.mem_map.1 hp
    obtain ⟨e, he, hread⟩ := List.mem_filterMap.1 hdefect
    obtain ⟨name, hname, rfl, hfile⟩ := (mem_files_iff h).1 he
    obtain ⟨_, hsome, heq⟩ := Option.map_eq_some_iff.1 hread
    cases heq
    exact ⟨name, hname, ⟨hfile, Option.isSome_iff_exists.2 ⟨_, hsome⟩⟩, rfl⟩
  · rintro ⟨name, hname, ⟨hfile, hdefect⟩, rfl⟩
    obtain ⟨defect, hsome⟩ := Option.isSome_iff_exists.1 hdefect
    have he : d.entry dir name ∈ d.files dir := (mem_files_iff h).2 ⟨name, hname, rfl, hfile⟩
    have hread : (d.defect? (d.entry dir name)).map ((d.entry dir name).location, ·) =
        some (dir.join name, defect) := by
      rw [hsome]
      rfl
    exact ⟨_, List.mem_map.2 ⟨_, List.mem_filterMap.2 ⟨_, he, hread⟩, rfl⟩, rfl⟩

end Disk

/-! ## What is shown -/

/-- All problems of a detail are with files or directories whose locations are texts. -/
def Version.Legible (v : Version) : Prop := ∀ p ∈ v.diagnostics, Text.IsText p.location.bytes

/-- A list of values exists exactly if all of them do. -/
theorem mapM_isSome_iff {α β : Type} {f : α → Option β} {l : List α} :
    (l.mapM f).isSome = true ↔ ∀ a ∈ l, (f a).isSome = true := by
  induction l with
  | nil => simp
  | cons a l ih =>
    rw [List.mapM_cons, List.forall_mem_cons, ← ih]
    cases f a with
    | none => simp
    | some b => cases l.mapM f <;> simp

/-- A detail has a JSON form exactly if it is legible. -/
theorem Version.toJson?_isSome_iff {v : Version} : v.toJson?.isSome = true ↔ v.Legible := by
  have hone (p : Diagnostic) : p.toJson?.isSome = true ↔ Text.IsText p.location.bytes := by
    rw [Diagnostic.toJson?, Option.isSome_map, Location.text?, Text.isSome_decode?_iff]
  have hall : (v.diagnostics.mapM Diagnostic.toJson?).isSome = true ↔ v.Legible := by
    rw [mapM_isSome_iff]
    exact forall_congr' fun p => forall_congr' fun _ => hone p
  rw [← hall, Version.toJson?]
  cases v.diagnostics.mapM Diagnostic.toJson? <;> rfl

namespace Service

variable {s : Service} {t v : String}

/-- A request for a version asks the disk what a lookup asks, and comes to the same. -/
theorem comesTo_version {told : List Deed} {r : Except Failure Version}
    (h : (s.version t v).ComesTo told r) :
    (s.published.version s.root t v).ComesTo (Deed.answers told) r := by
  obtain ⟨told₁, found, told₂, rfl, hask, hrest⟩ := Interaction.comesTo_bind.1 h
  obtain ⟨asked, rfl, hfound⟩ := Procedure.comesTo_ofInquiry.1 hask
  -- What follows only makes notes, so it is told nothing by the disk.
  have hquiet : Deed.answers told₂ = [] ∧
      r = found.map (Version.resolve s.root t v (s.published.find? t)) := by
    cases found with
    | error f =>
      obtain ⟨rfl, rfl⟩ := Interaction.comesTo_pure_iff.1 hrest
      exact ⟨rfl, rfl⟩
    | ok c =>
      obtain ⟨told₃, _, told₄, rfl, hnotes, hparent⟩ := Interaction.comesTo_bind.1 hrest
      obtain rfl := Procedure.comesTo_noteAll.1 hnotes
      dsimp only at hparent
      split at hparent
      · obtain ⟨told₅, _, told₆, rfl, hnote, hpure⟩ := Interaction.comesTo_bind.1 hparent
        obtain rfl := Interaction.comesTo_question_iff.1 hnote
        obtain ⟨rfl, rfl⟩ := Interaction.comesTo_pure_iff.1 hpure
        exact ⟨by rw [Deed.answers_append, Deed.answers_ofNote]; rfl, rfl⟩
      · obtain ⟨rfl, rfl⟩ := Interaction.comesTo_pure_iff.1 hparent
        exact ⟨by rw [Deed.answers_append, Deed.answers_ofNote]; rfl, rfl⟩
  obtain ⟨hanswers, rfl⟩ := hquiet
  rw [Deed.answers_append, Deed.answers_ofAnswer, hanswers]
  exact Interaction.comesTo_bind.2 ⟨asked, found, [], rfl, hfound,
    Interaction.comesTo_pure_iff.2 ⟨rfl, rfl⟩⟩

/-- The detail of a version whose directory can be listed. -/
def detail (s : Service) (d : Disk) (t v : String) : Version :=
  Version.resolve s.root t v (s.published.find? t)
    (d.contents ((s.root.child t).child v) (Contents.pathOf t v))

variable {d : Disk} {names : List Bytes}

/-- The problem with a file that has a defect is told. -/
theorem exists_mem_diagnostics (hnames : d.names ((s.root.child t).child v) = .ok names)
    {name : Bytes} (hname : name ∈ names)
    (hdefect : d.Defective ((s.root.child t).child v) name) :
    ∃ p ∈ (s.detail d t v).diagnostics,
      p.location = ((s.root.child t).child v).join name := by
  obtain ⟨p, hp, hlocation⟩ :=
    (Disk.exists_mem_problems_iff hnames).2 ⟨name, hname, hdefect, rfl⟩
  exact ⟨p, List.mem_append_left _ hp, hlocation⟩

/-- Every problem that is told is with the directory of the version, or with a file in it that has
    a defect. -/
theorem location_of_mem_diagnostics (hnames : d.names ((s.root.child t).child v) = .ok names)
    {p : Diagnostic} (hp : p ∈ (s.detail d t v).diagnostics) :
    p.location = (s.root.child t).child v ∨ ∃ name ∈ names,
      d.Defective ((s.root.child t).child v) name ∧
        ((s.root.child t).child v).join name = p.location := by
  rw [detail, Version.diagnostics_resolve] at hp
  rcases List.mem_append.1 hp with hp | hp
  · exact .inr ((Disk.exists_mem_problems_iff hnames).1 ⟨p, hp, rfl⟩)
  · split at hp
    · rw [List.mem_singleton] at hp
      exact .inl (hp ▸ rfl)
    · cases hp

/-- A detail is legible exactly if nothing is wrong, or the root is at a text and every file that
    has a defect has a text for a name. -/
theorem legible_iff (hd : d.Coherent) (ht : isIdentifier t = true) (hv : isIdentifier v = true)
    (hnames : d.names ((s.root.child t).child v) = .ok names) :
    (s.detail d t v).Legible ↔ (s.detail d t v).diagnostics = [] ∨
      Text.IsText s.root.bytes ∧
        ∀ name ∈ names, d.Defective ((s.root.child t).child v) name → Text.IsText name := by
  -- The directory of the version is named by texts, so it is at a text if the root is.
  have hdir : Text.IsText ((s.root.child t).child v).bytes ↔ Text.IsText s.root.bytes := by
    rw [Location.child, (plainName_of_isIdentifier hv).isText_join,
      and_iff_left (Text.isText_encode v), Location.child,
      (plainName_of_isIdentifier ht).isText_join, and_iff_left (Text.isText_encode t)]
  have hfile {name : Bytes} (hname : name ∈ names) :
      Text.IsText (((s.root.child t).child v).join name).bytes ↔
        Text.IsText s.root.bytes ∧ Text.IsText name := by
    rw [(hd.plain hnames name hname).isText_join, hdir]
  constructor
  · intro h
    refine or_iff_not_imp_left.2 fun hne => ⟨?_, fun name hname hdefect => ?_⟩
    · obtain ⟨p, hp⟩ := List.exists_mem_of_ne_nil _ hne
      have htext := h p hp
      rcases location_of_mem_diagnostics hnames hp with heq | ⟨name, hname, -, heq⟩
      · exact hdir.1 (heq ▸ htext)
      · exact ((hfile hname).1 (heq ▸ htext)).1
    · obtain ⟨p, hp, heq⟩ := exists_mem_diagnostics hnames hname hdefect
      exact ((hfile hname).1 (heq ▸ h p hp)).2
  · rintro (hnil | ⟨hroot, htexts⟩) p hp
    · rw [hnil] at hp
      cases hp
    · rcases location_of_mem_diagnostics hnames hp with heq | ⟨name, hname, hdefect, heq⟩
      · exact heq ▸ hdir.2 hroot
      · exact heq ▸ (hfile hname).2 ⟨hroot, htexts name hname hdefect⟩

end Service

namespace CommandLine

/-- What showing a version does and comes to, while a disk stays as it is. -/
structure Shows (colors : Bool) (format : Format) (d : Disk) (s : Service) (t v : String)
    (told : List Gesture) (r : Except Failure Ending) : Prop where
  /-- It succeeds exactly for a version whose directory can be listed, whatever is in that; but in
      JSON only if all problems are with locations that are texts. -/
  succeeds : (∃ ending, r = .ok ending) ↔
    d.Readable s.root t v ∧ (format = .json → (s.detail d t v).Legible)
  /-- Then the detail is printed, once, and nothing else. -/
  prints : ∀ ending, r = .ok ending → ending = .exited 0 ∧
    ∃ text, versionAnswer colors format (s.detail d t v) = .ok text ∧ Gesture.printed told = [text]
  /-- Otherwise nothing is printed. -/
  silent : ∀ f, r = .error f → Gesture.printed told = []
  /-- What is wrong with a version that cannot be shown in JSON. -/
  illegible : ∀ f, r = .error f → d.Readable s.root t v →
    f = .ofCause (.message "path contains invalid UTF-8 characters")

variable {colors : Bool} {g : Logging} {settings : Settings} {d : Disk} {s : Service}
  {t v : String} {format : Format} {told : List Gesture} {r : Except Failure Ending}

/-- There is an answer exactly if the detail is legible or is wanted as text. -/
theorem exists_versionAnswer_iff (colors : Bool) (format : Format) (detail : Version) :
    (∃ text, versionAnswer colors format detail = .ok text) ↔
      (format = .json → detail.Legible) := by
  cases format with
  | text => exact ⟨fun _ => nofun, fun _ => ⟨_, rfl⟩⟩
  | json =>
    rw [← Version.toJson?_isSome_iff]
    simp only [versionAnswer]
    cases detail.toJson? <;> simp

/-- If there is none, it is because of a path. -/
theorem versionAnswer_eq_error {detail : Version} {f : Failure}
    (h : versionAnswer colors format detail = .error f) :
    f = .ofCause (.message "path contains invalid UTF-8 characters") := by
  cases format with
  | text => cases h
  | json =>
    simp only [versionAnswer] at h
    split at h
    · cases h
    · cases h
      rfl

/-- An answer ends in one of three ways: there is nothing to show, it cannot be shown, or it is
    printed. -/
theorem comesTo_answerVersion (h : (answerVersion colors g s t v format).ComesTo told r)
    (hd : ∀ x ∈ Gesture.answers told, x.2 = d x.1) :
    (¬ d.Readable s.root t v ∧ Gesture.printed told = [] ∧ ∃ f, r = .error f) ∨
      d.Readable s.root t v ∧
        ((Gesture.printed told = [] ∧
            ∃ f, versionAnswer colors format (s.detail d t v) = .error f ∧ r = .error f) ∨
          ∃ text, versionAnswer colors format (s.detail d t v) = .ok text ∧
            Gesture.printed told = [text] ∧ r = .ok (.exited 0)) := by
  obtain ⟨told₁, found, told₂, rfl, hversion, hrest⟩ := Interaction.comesTo_bind.1 h
  obtain ⟨deeds, hdeeds, hanswers, hquiet⟩ := Console.comesTo_ofProcedure hversion
  rw [Gesture.answers_append, hanswers] at hd
  have hfound := (Service.comesTo_version hdeeds).eq_run fun x hx =>
    hd x (List.mem_append_left _ hx)
  rw [Gesture.printed_append, hquiet, List.nil_append]
  -- The lookup prints nothing, so all that is printed is printed after it.
  cases found with
  | error f =>
    obtain ⟨rfl, rfl⟩ := Interaction.comesTo_pure_iff.1 hrest
    refine .inl ⟨fun hreadable => ?_, rfl, f, rfl⟩
    rw [Version.run_version_eq_ok.2 ⟨hreadable, rfl⟩] at hfound
    cases hfound
  | ok detail =>
    obtain ⟨hreadable, hdetail⟩ := Version.run_version_eq_ok.1 hfound.symm
    obtain rfl : detail = s.detail d t v := hdetail
    obtain ⟨told₃, _, told₄, rfl, hnotes, hanswer⟩ := Interaction.comesTo_bind.1 hrest
    obtain ⟨-, -, -, hnoted⟩ := Console.comesTo_ofProcedure hnotes
    rw [Gesture.printed_append, hnoted, List.nil_append]
    refine .inr ⟨hreadable, ?_⟩
    cases hresult : versionAnswer colors format (s.detail d t v) with
    | error f =>
      rw [hresult] at hanswer
      obtain ⟨rfl, rfl⟩ := Interaction.comesTo_pure_iff.1 hanswer
      exact .inl ⟨rfl, f, rfl, rfl⟩
    | ok text =>
      rw [hresult] at hanswer
      obtain ⟨told₅, _, told₆, rfl, hprint, hpure⟩ := Interaction.comesTo_bind.1 hanswer
      obtain rfl := Interaction.comesTo_question_iff.1 hprint
      obtain ⟨rfl, rfl⟩ := Interaction.comesTo_pure_iff.1 hpure
      exact .inr ⟨text, rfl, rfl, rfl⟩

/-- What a service that has started does and comes to. -/
theorem shows_of_comesTo (h : (answerVersion colors g s t v format).ComesTo told r)
    (hd : ∀ x ∈ Gesture.answers told, x.2 = d x.1) : Shows colors format d s t v told r := by
  have hiff := exists_versionAnswer_iff colors format (s.detail d t v)
  obtain ⟨hunreadable, hprinted, f, rfl⟩ |
    ⟨hreadable, ⟨hprinted, f, hresult, rfl⟩ | ⟨text, hresult, hprinted, rfl⟩⟩ :=
    comesTo_answerVersion h hd
  · exact
      { succeeds := ⟨nofun, fun hr => absurd hr.1 hunreadable⟩
        prints := fun _ => nofun
        silent := fun _ _ => hprinted
        illegible := fun _ _ hr => absurd hr hunreadable }
  · have hnone : ¬ ∃ text, versionAnswer colors format (s.detail d t v) = .ok text := by
      simp [hresult]
    exact
      { succeeds := ⟨nofun, fun hr => absurd (hiff.2 hr.2) hnone⟩
        prints := fun _ => nofun
        silent := fun _ _ => hprinted
        illegible := fun _ hf _ => by cases hf; exact versionAnswer_eq_error hresult }
  · exact
      { succeeds := ⟨fun _ => ⟨hreadable, hiff.1 ⟨text, hresult⟩⟩, fun _ => ⟨_, rfl⟩⟩
        prints := fun _ hr => by cases hr; exact ⟨rfl, text, hresult, hprinted⟩
        silent := fun _ => nofun
        illegible := fun _ => nofun }

/-- What is done after the service has started is to answer. -/
theorem comesTo_show_iff {told₁ : List Gesture}
    (h : (Console.ofProcedure g (Service.start settings)).ComesTo told₁ (.ok s)) :
    (act colors g settings (.show t v format)).ComesTo (told₁ ++ told) r ↔
      (answerVersion colors g s t v format).ComesTo told r :=
  h.bind_append_iff

/-- **Showing a version**: whatever a start has come to, and whatever a disk holds after it, the
    version is shown in text exactly if its directory can be listed, and in JSON exactly if its
    detail is legible, too: if nothing is wrong with it, or the root and all files that have a defect
    have texts for names. -/
theorem show_iff (colors : Bool) (format : Format) (d : Disk) (t v : String)
    {told₁ : List Gesture}
    (hstart : (Console.ofProcedure g (Service.start settings)).ComesTo told₁ (.ok s)) :
    (∃ told r, (act colors g settings (.show t v format)).ComesTo (told₁ ++ told) r ∧
      ∀ x ∈ Gesture.answers told, x.2 = d x.1) ∧
    (∀ told r, (act colors g settings (.show t v format)).ComesTo (told₁ ++ told) r →
      (∀ x ∈ Gesture.answers told, x.2 = d x.1) → Shows colors format d s t v told r) ∧
    ∀ names, d.Coherent → d.Readable s.root t v →
      d.names ((s.root.child t).child v) = .ok names →
        ((s.detail d t v).Legible ↔ (s.detail d t v).diagnostics = [] ∨
          Text.IsText s.root.bytes ∧
            ∀ name ∈ names, d.Defective ((s.root.child t).child v) name → Text.IsText name) := by
  refine ⟨?_, fun told r h hd => shows_of_comesTo ((comesTo_show_iff hstart).1 h) hd,
    fun names hcoherent hreadable hnames =>
      Service.legible_iff hcoherent hreadable.1 hreadable.2.1 hnames⟩
  obtain ⟨told, hcomes, htold⟩ :=
    Console.exists_comesTo_still (answerVersion colors g s t v format) d .timedOut
  exact ⟨told, _, (comesTo_show_iff hstart).2 hcomes, htold⟩

end CommandLine

/-! ## A version with a name that is no text -/

/-- The directories of the jumble that can be listed. -/
theorem Disk.mem_of_jumble_names {l : Location} {names : List Bytes}
    (h : jumble.names l = .ok names) :
    (l, names) ∈ [(Location.ofString "shelf", [Text.encode "mysql"]),
      (.ofString "shelf/mysql", [Text.encode "1"]), (.ofString "shelf/mysql/1", jumbleNames)] := by
  have h : jumble (.names l) = .ok names := h
  rw [jumble] at h
  split at h
  · next hl => cases h; simp [hl]
  split at h
  · next hl => cases h; simp [hl]
  split at h
  · next hl => cases h; simp [hl]
  · cases h

theorem Disk.jumble_coherent : jumble.Coherent :=
  coherent_of_table _ _ (fun _ _ => mem_of_jumble_names) (fun _ h => of_decide_eq_true h)
    (by decide +kernel)

/-- The version of the jumble is read, and the file whose name is no text has a defect. -/
theorem Disk.jumble_readable :
    jumble.Readable (.ofString "shelf") "mysql" "1" ∧
      jumble.names (((Location.ofString "shelf").child "mysql").child "1") = .ok jumbleNames ∧
      jumble.Defective (((Location.ofString "shelf").child "mysql").child "1")
        (Text.encode "docker-compose" ++ [0xFF]) :=
  ⟨⟨by decide, by decide, by decide, exists_entries.2 ⟨_, rfl⟩⟩, rfl, by decide, by decide +kernel⟩

namespace CommandLine

/-- The service of the settings can be started over the jumble. -/
theorem exists_started_jumble (g : Logging) :
    ∃ told s, (Console.ofProcedure g (Service.start Service.shelfSettings)).ComesTo told (.ok s) ∧
      (∀ x ∈ Gesture.answers told, x.2 = Disk.jumble x.1) ∧
      s.root = .ofString "shelf" := by
  obtain ⟨s, hs, hmirror, -⟩ := Service.ofSettings_eq_ok Service.shelfSettings_sound
  obtain ⟨s', hrun⟩ := Service.run_start_still (d := Disk.jumble) hs rfl .timedOut
  obtain ⟨told, hcomes, htold⟩ := Console.exists_comesTo_still
    (Console.ofProcedure g (Service.start Service.shelfSettings)) Disk.jumble .timedOut
  rw [Console.run_ofProcedure, hrun] at hcomes
  obtain ⟨deeds, hdeeds, -⟩ := Console.comesTo_ofProcedure hcomes
  have hstartup := Service.Startup.of_sound Service.shelfSettings_sound hdeeds
  exact ⟨told, s', hcomes, htold, (hstartup.started s' rfl).1⟩

/-- In text the version of the jumble is shown, but its detail is not legible. -/
theorem show_iff_jumble :
    ∃ told₁ s told₂, (Console.ofProcedure ⟨.ofText "info", false, none⟩
        (Service.start Service.shelfSettings)).ComesTo told₁ (.ok s) ∧
      (act false ⟨.ofText "info", false, none⟩ Service.shelfSettings
        (.show "mysql" "1" .text)).ComesTo (told₁ ++ told₂) (.ok (.exited 0)) ∧
      Gesture.printed told₂ = [versionText false (s.detail Disk.jumble "mysql" "1")] ∧
      ¬ (s.detail Disk.jumble "mysql" "1").Legible := by
  obtain ⟨told₁, s, hstart, -, hroot⟩ := exists_started_jumble ⟨.ofText "info", false, none⟩
  obtain ⟨hreadable, hnames, hdefect⟩ := Disk.jumble_readable
  rw [← hroot] at hreadable hnames hdefect
  obtain ⟨⟨told₂, r, hcomes, htold⟩, hshows, hlegible⟩ :=
    show_iff false .text Disk.jumble "mysql" "1" hstart
  have h := hshows told₂ r hcomes htold
  obtain ⟨ending, rfl⟩ := h.succeeds.2 ⟨hreadable, nofun⟩
  obtain ⟨rfl, text, htext, hprinted⟩ := h.prints ending rfl
  cases htext
  refine ⟨told₁, s, told₂, hstart, hcomes, hprinted, fun hl => ?_⟩
  rcases (hlegible _ Disk.jumble_coherent hreadable hnames).1 hl with hnil | ⟨-, htexts⟩
  · obtain ⟨p, hp, -⟩ := Service.exists_mem_diagnostics hnames List.mem_cons_self hdefect
    rw [hnil] at hp
    cases hp
  · exact absurd (htexts _ List.mem_cons_self hdefect) (by decide +kernel)

/-- In JSON it is not, because of the name of one file, though the service has started. -/
theorem show_jumble :
    ∃ told₁ s told₂, (Console.ofProcedure ⟨.ofText "info", false, none⟩
        (Service.start Service.shelfSettings)).ComesTo told₁ (.ok s) ∧
      Disk.jumble.Readable s.root "mysql" "1" ∧
      (∀ x ∈ Gesture.answers (told₁ ++ told₂), x.2 = Disk.jumble x.1) ∧
      (act false ⟨.ofText "info", false, none⟩ Service.shelfSettings
        (.show "mysql" "1" .json)).ComesTo (told₁ ++ told₂)
          (.error (.ofCause (.message "path contains invalid UTF-8 characters"))) ∧
      Gesture.printed told₂ = [] := by
  obtain ⟨told₁, s, hstart, htold₁, hroot⟩ := exists_started_jumble ⟨.ofText "info", false, none⟩
  obtain ⟨hreadable, hnames, hdefect⟩ := Disk.jumble_readable
  rw [← hroot] at hreadable hnames hdefect
  have hillegible : ¬ (s.detail Disk.jumble "mysql" "1").Legible := fun hlegible => by
    obtain ⟨p, hp, hlocation⟩ := Service.exists_mem_diagnostics hnames List.mem_cons_self hdefect
    have htext := hlegible p hp
    rw [hlocation, hroot] at htext
    exact absurd htext (by decide +kernel)
  obtain ⟨told₂, hanswer, htold₂⟩ := Console.exists_comesTo_still
    (answerVersion false ⟨.ofText "info", false, none⟩ s "mysql" "1" .json) Disk.jumble .timedOut
  generalize Interaction.run _ _ = r at hanswer
  have h := shows_of_comesTo hanswer htold₂
  obtain ⟨f, rfl⟩ : ∃ f, r = .error f := by
    cases r with
    | ok ending => exact absurd ((h.succeeds.1 ⟨ending, rfl⟩).2 rfl) hillegible
    | error f => exact ⟨f, rfl⟩
  obtain rfl := h.illegible f rfl hreadable
  refine ⟨told₁, s, told₂, hstart, hreadable, ?_, (comesTo_show_iff hstart).2 hanswer,
    h.silent _ rfl⟩
  rw [Gesture.answers_append]
  exact List.forall_mem_append.2 ⟨htold₁, htold₂⟩

end CommandLine

end TemplateCatalog
