import TemplateCatalog.Proofs.Catalog.Advertised

/-!
# Where a lookup may look

A location is taken apart into its *components*: the root if it is absolute, steps that stay where
they are or lead out, and plain names. An identifier is accepted or refused as a text, by looking at
its characters; but what matters is what it contributes to a location. The two come to the same: an
identifier is what contributes one plain name, itself (`isIdentifier_iff_components`), so the
location of a version has the components of the root and two names more.

* `Location.components_join`: joining a plain name adds one component, and so what is below a
  directory has its components and then names (`Location.Below.components`);
* `Part.Read`: a file of a version that was read, with what was told of it;
* `Version.course_of_comesTo`: the courses that a lookup can take, with all that it is told;
* `Version.confinement`: a lookup refuses all other names at once, and asks for nothing outside of
  the directory of the template, whatever it is answered.
-/

namespace TemplateCatalog

/-! ## Components of locations -/

/-- One component of a location. -/
inductive Component where
  /-- The root, where absolute locations begin. -/
  | root
  /-- The directory where one is, if a location says that it begins there. -/
  | here
  /-- The directory that another stands in. -/
  | up
  | name (bytes : Bytes)
  deriving DecidableEq

/-- What a step contributes to a location, wherever it stands. -/
def Component.ofStep? (step : Bytes) : Option Component :=
  if Location.stays step then none
  else if Location.leavesDirectory step then some .up
  else some (.name step)

namespace Location

/-- What the beginning of a location contributes: a step that stays counts only there. -/
def start (l : Location) : List Component :=
  if l.isAbsolute then [.root] else if l.steps.head? = some [0x2E] then [.here] else []

/-- The components of a location. -/
def components (l : Location) : List Component := l.start ++ l.steps.filterMap Component.ofStep?

variable {l : Location} {name : Bytes}

/-- A step contributes a name exactly if it is one. -/
theorem ofStep?_eq_name (h : separator ∉ name) {bytes : Bytes} :
    Component.ofStep? name = some (.name bytes) ↔ name = bytes ∧ PlainName name := by
  have hstays : stays name = true ↔ name = [] ∨ name = [0x2E] := by
    rw [stays, Bool.or_eq_true, List.isEmpty_iff, decide_eq_true_iff]
  have hleaves : leavesDirectory name = true ↔ name = [0x2E, 0x2E] := by
    rw [leavesDirectory, decide_eq_true_iff]
  rw [Component.ofStep?, PlainName]
  split <;> [skip; split] <;> grind

/-- No step holds a separator. -/
theorem separator_not_mem_of_mem_stepsOf {bytes step : Bytes} (h : step ∈ stepsOf bytes) :
    separator ∉ step := by
  induction bytes generalizing step with
  | nil =>
    obtain rfl := List.mem_singleton.1 h
    exact List.not_mem_nil
  | cons b bytes ih =>
    rw [stepsOf] at h
    split at h
    · rcases List.mem_cons.1 h with rfl | h
      · exact List.not_mem_nil
      · exact ih h
    · next hb =>
      cases hsteps : stepsOf bytes with
      | nil => exact absurd hsteps (stepsOf_ne_nil bytes)
      | cons first rest =>
        rw [hsteps] at h ih
        rcases List.mem_cons.1 h with rfl | h
        · rw [List.mem_cons, not_or]
          exact ⟨Ne.symm hb, ih List.mem_cons_self⟩
        · exact ih (List.mem_cons_of_mem _ h)

/-- The names among the components of a location are plain. -/
theorem plainName_of_mem_components (h : .name name ∈ l.components) : PlainName name := by
  have hstart : .name name ∉ l.start := by
    rw [start]
    split <;> [skip; split] <;> simp
  obtain ⟨step, hstep, hname⟩ := List.mem_filterMap.1 ((List.mem_append.1 h).resolve_left hstart)
  obtain ⟨rfl, hplain⟩ := (ofStep?_eq_name (separator_not_mem_of_mem_stepsOf hstep)).1 hname
  exact hplain

/-- A plain name is a component by itself. -/
theorem components_of_plainName (h : PlainName name) :
    (⟨name⟩ : Location).components = [.name name] := by
  have hsteps : (⟨name⟩ : Location).steps = [name] := stepsOf_eq_singleton h.2.1
  have habsolute : (⟨name⟩ : Location).isAbsolute = false :=
    decide_eq_false fun heq => h.2.1 (List.mem_of_head? heq)
  have hhead : [name].head? ≠ some [0x2E] := fun heq => h.2.2.1 (Option.some.inj heq)
  rw [components, start, habsolute, hsteps, if_neg Bool.false_ne_true, if_neg hhead,
    List.filterMap_cons_some ((ofStep?_eq_name h.2.1).2 ⟨rfl, h⟩)]
  rfl

/-- A plain name adds itself to the components of a directory. -/
theorem components_join (h : PlainName name) :
    (l.join name).components = l.components ++ [.name name] := by
  by_cases hl : l.bytes = []
  · obtain rfl : l = ⟨[]⟩ := congrArg Location.mk hl
    rw [h.join]
    exact components_of_plainName h
  · obtain ⟨steps, hsteps, hjoin, hsame⟩ := Volume.exists_steps_join hl h
    have hstart : (l.join name).start = l.start := by
      have hhead : (steps ++ [name]).head? = some [0x2E] ↔ l.steps.head? = some [0x2E] := by
        cases steps with
        | cons step steps => rcases hsteps with hsteps | hsteps <;> rw [hsteps] <;> rfl
        | nil =>
          refine iff_of_false (fun heq => h.2.2.1 (Option.some.inj heq)) ?_
          rcases hsteps with hsteps | hsteps <;> rw [hsteps] <;> decide
      rw [start, start, hsame, hjoin]
      simp only [hhead]
    have hrest : l.steps.filterMap Component.ofStep? = steps.filterMap Component.ofStep? := by
      rcases hsteps with hsteps | hsteps
      · rw [hsteps]
      · rw [hsteps, List.filterMap_append]
        exact List.append_nil _
    rw [components, components, hstart, hrest, hjoin, List.filterMap_append, List.append_assoc,
      List.filterMap_cons_some ((ofStep?_eq_name h.2.1).2 ⟨rfl, h⟩)]
    rfl

/-- Texts are joined with a separator between them, if the first ends with a name. -/
theorem ofString_join {a b : String} (hname : PlainName name) (ha : name <:+ Text.encode a)
    (hb : PlainName (Text.encode b)) :
    ofString (a ++ "/" ++ b) = (ofString a).join (Text.encode b) := by
  obtain ⟨before, hbefore⟩ := ha
  have hempty : (ofString a).bytes.isEmpty = false := by
    rw [ofString, ← hbefore, List.isEmpty_eq_false_iff]
    exact List.append_ne_nil_of_right_ne_nil _ hname.1
  have hlast : (ofString a).bytes.getLast? ≠ some separator := by
    rw [ofString, ← hbefore, List.getLast?_append_of_ne_nil _ hname.1]
    exact fun h => hname.2.1 (List.mem_of_getLast? h)
  rw [hb.join, hempty, Bool.false_or, if_neg (by simpa using hlast), ofString, ofString,
    Text.encode, Text.encode, Text.encode, String.toList_append, String.toList_append,
    List.flatMap_append, List.flatMap_append, List.append_assoc]
  rfl

/-- What is below a directory has the components of the directory, and then names. -/
theorem Below.components {dir : Location} (h : dir.Below l) :
    ∃ names : List Bytes, (∀ name ∈ names, PlainName name) ∧
      l.components = dir.components ++ names.map Component.name := by
  induction h with
  | here => exact ⟨[], nofun, (List.append_nil _).symm⟩
  | @entry l name _ hname ih =>
    obtain ⟨names, hnames, hl⟩ := ih
    refine ⟨names ++ [name], ?_, ?_⟩
    · exact List.forall_mem_append.2 ⟨hnames, List.forall_mem_singleton.2 hname⟩
    · rw [components_join hname, hl, List.map_append, List.append_assoc]
      rfl

end Location

/-! ## Identifiers -/

/-- A text contributes one name to a location, itself, and no character that is refused. -/
def ContributesOne (s : String) : Prop :=
  (Location.ofString s).components = [.name (Text.encode s)] ∧ '\\' ∉ s.toList ∧ '\x00' ∉ s.toList

instance : DecidablePred ContributesOne := fun s =>
  inferInstanceAs (Decidable ((Location.ofString s).components = _ ∧ _ ∧ _))

/-- **Identifiers**: a text is accepted, by its characters, exactly if it contributes one name to
    a location, itself. -/
theorem isIdentifier_iff_components {s : String} : isIdentifier s = true ↔ ContributesOne s := by
  constructor
  · intro h
    obtain ⟨-, -, -, -, hback, hnul⟩ := isIdentifier_iff.1 h
    exact ⟨Location.components_of_plainName (plainName_of_isIdentifier h), hback, hnul⟩
  · rintro ⟨hone, hback, hnul⟩
    have hplain : Location.PlainName (Text.encode s) := by
      refine Location.plainName_of_mem_components (l := .ofString s) ?_
      rw [hone]
      exact List.mem_singleton_self _
    refine isIdentifier_iff.2 ⟨?_, ?_, ?_, fun hsep => ?_, hback, hnul⟩
    · rintro rfl
      exact hplain.1 (by decide)
    · rintro rfl
      exact hplain.2.2.1 (by decide)
    · rintro rfl
      exact hplain.2.2.2 (by decide)
    · exact hplain.2.1 (List.mem_flatMap.2 ⟨'/', hsep, by decide⟩)

/-! ## What is asked of the directory of a version -/

namespace Part

variable {e : Entry} {told : List ((q : DiskQuestion) × q.Answer)} {p : Part}

/-- A disk on which every file has this content. -/
def holding (content : Except DiskError Bytes) : Disk
  | .isDirectory _ => false
  | .isPresent _ => true
  | .names _ => .error .notDirectory
  | .content _ => content

/-- Whether an entry is asked for its content: its name may say all. -/
def asks (e : Entry) : Bool :=
  match e.role with
  | .icon | .none => false
  | .configuration | .deployment | .orchestration => true

/-- An entry that is asked for its content, or is not asked at all, gives the part that it has on a
    disk with that content. -/
theorem comesTo_inquire (h : (inquire e).ComesTo told p) :
    ∃ d : Disk, p = d.part e ∧
      told = if asks e then [⟨.content e.location, d.content e.location⟩] else [] := by
  have htext {text : Except DiskError String} {told : List ((q : DiskQuestion) × q.Answer)}
      (h : (Inquiry.text e.location).ComesTo told text) :
      ∃ content, told = [⟨.content e.location, content⟩] := by
    obtain ⟨told₁, content, told₂, rfl, hask, hpure⟩ := Interaction.comesTo_bind.1 h
    obtain ⟨rfl, -⟩ := Interaction.comesTo_pure_iff.1 hpure
    obtain rfl := Interaction.comesTo_question_iff.1 hask
    exact ⟨content, rfl⟩
  -- Three of the five roles ask for the content, each of them once.
  have hasked : ∃ content, told = if asks e then [⟨.content e.location, content⟩] else [] := by
    rw [inquire] at h
    rw [asks]
    cases hrole : e.role <;> rw [hrole] at h
    case icon => exact ⟨.ok [], (Interaction.comesTo_pure_iff.1 h).1⟩
    case none => exact ⟨.ok [], (Interaction.comesTo_pure_iff.1 h).1⟩
    case configuration =>
      obtain ⟨told₁, content, told₂, rfl, hask, hpure⟩ := Interaction.comesTo_bind.1 h
      obtain ⟨rfl, -⟩ := Interaction.comesTo_pure_iff.1 hpure
      obtain rfl := Interaction.comesTo_question_iff.1 hask
      exact ⟨content, rfl⟩
    case deployment =>
      obtain ⟨told₁, text, told₂, rfl, hask, hpure⟩ := Interaction.comesTo_bind.1 h
      obtain ⟨rfl, -⟩ := Interaction.comesTo_pure_iff.1 hpure
      rw [List.append_nil]
      exact htext hask
    case orchestration =>
      obtain ⟨told₁, text, told₂, rfl, hask, hpure⟩ := Interaction.comesTo_bind.1 h
      obtain rfl : told₂ = [] := by
        cases text <;> exact (Interaction.comesTo_pure_iff.1 hpure).1
      rw [List.append_nil]
      exact htext hask
  obtain ⟨content, rfl⟩ := hasked
  -- A disk that gives every file this content tells the same.
  refine ⟨holding content, (h.eq_run ?_).trans (run_inquire _ e), rfl⟩
  split
  · exact List.forall_mem_singleton.2 rfl
  · exact List.forall_mem_nil _

/-- A file of a version that was read: what was told of it, and the part that it gave. -/
structure Read where
  entry : Entry
  told : List ((q : DiskQuestion) × q.Answer)
  part : Part
  comesTo : (inquire entry).ComesTo told part

/-- A file gives a part of its own kind. -/
theorem Read.role (f : Read) : f.part.role = f.entry.role := by
  obtain ⟨d, hpart, -⟩ := comesTo_inquire f.comesTo
  rw [hpart, Disk.role_part]

/-- What is asked of a file is its content. -/
theorem Read.asked (f : Read) {x : (q : DiskQuestion) × q.Answer} (hx : x ∈ f.told) :
    x.1 = .content f.entry.location := by
  obtain ⟨d, -, htold⟩ := comesTo_inquire f.comesTo
  rw [htold] at hx
  split at hx
  · rw [List.mem_singleton.1 hx]
  · cases hx

end Part

namespace Contents

/-- Files are read one after another. -/
theorem comesTo_parts {files : List Entry} {told : List ((q : DiskQuestion) × q.Answer)}
    {parts : List (Entry × Part)}
    (h : (Interaction.each (fun e => do return (e, ← Part.inquire e)) files).ComesTo told parts) :
    ∃ reads : List Part.Read, reads.map (·.entry) = files ∧ told = reads.flatMap (·.told) ∧
      parts = reads.map fun f => (f.entry, f.part) := by
  induction files generalizing told parts with
  | nil =>
    obtain ⟨rfl, rfl⟩ := Interaction.comesTo_pure_iff.1 h
    exact ⟨[], rfl, rfl, rfl⟩
  | cons e files ih =>
    obtain ⟨told₁, p, told₂, rfl, hfirst, h⟩ := Interaction.comesTo_bind.1 h
    obtain ⟨told₃, ps, told₄, rfl, hrest, h⟩ := Interaction.comesTo_bind.1 h
    obtain ⟨rfl, rfl⟩ := Interaction.comesTo_pure_iff.1 h
    obtain ⟨told₅, part, told₆, rfl, hask, hpure⟩ := Interaction.comesTo_bind.1 hfirst
    obtain ⟨rfl, rfl⟩ := Interaction.comesTo_pure_iff.1 hpure
    obtain ⟨reads, rfl, rfl, rfl⟩ := ih hrest
    refine ⟨⟨e, told₅, part, hask⟩ :: reads, rfl, ?_, rfl⟩
    rw [List.append_nil, List.append_nil]
    rfl

/-- The files of a directory of which this was told, in the order of their names. -/
def filesTold (dir : Location) (l : List (Bytes × Bool)) : List Entry :=
  (Entry.sorted (l.map (Entry.ofTold dir))).filter fun e => !e.isDirectory

/-- The file of an entry is among what was told. -/
theorem exists_of_mem_filesTold {dir : Location} {l : List (Bytes × Bool)} {e : Entry}
    (h : e ∈ filesTold dir l) : ∃ name, (name, false) ∈ l ∧ e.location = dir.join name := by
  obtain ⟨hsorted, hfile⟩ := List.mem_filter.1 h
  obtain ⟨⟨name, isDir⟩, hname, rfl⟩ := List.mem_map.1 (Entry.mem_sorted.1 hsorted)
  obtain rfl : isDir = false := by simpa [Entry.ofTold] using hfile
  exact ⟨name, hname, rfl⟩

/-- If parts are of the kinds of their entries, the icon is that of the last entry of its kind. -/
theorem iconPath_of_roles {parts : List (Entry × Part)} (h : ∀ p ∈ parts, p.2.role = p.1.role)
    (path : String) :
    (ofParts path parts).iconPath =
      (((parts.map (·.1)).filter fun e => e.begins "catalogIcon").map (·.name)).getLast?.map
        (path ++ "/" ++ ·) := by
  have hlast : (ofParts path parts).iconPath = (parts.filterMap (newIcon path)).getLast? :=
    foldl_last? (fun c : Contents => c.iconPath) (newIcon path) (fun c e => by simp only [add_eq]) _
      rfl
  have hnew : parts.filterMap (newIcon path) = parts.filterMap fun p =>
      if p.1.begins "catalogIcon" then some (path ++ "/" ++ p.1.name) else none := by
    refine List.filterMap_congr fun p hp => ?_
    rw [Entry.begins_eq (r := .icon) rfl, ← h p hp, newIcon]
    cases p.2 <;> rfl
  rw [hlast, hnew, ← List.getLast?_map, List.filter_map, List.map_map, List.map_map,
    ← List.filterMap_eq_map', List.filterMap_filter]
  rfl

variable {root : Location} {t v : String} {told : List ((q : DiskQuestion) × q.Answer)}
  {r : Except Failure Contents}

/-- The directory of a version is listed, and then its files are read in the order of their names.
    If it cannot be listed, nothing more is asked. -/
theorem comesTo_inquire (h : (inquire root t v).ComesTo told r) :
    (∃ e, told = [⟨.names ((root.child t).child v), .error e⟩] ∧
      r = .error ⟨["Failed to list version directory " ++ ((root.child t).child v).display],
        .disk e⟩) ∨
    ∃ (l : List (Bytes × Bool)) (reads : List Part.Read),
      told = ((root.child t).child v).listing l ++ reads.flatMap (·.told) ∧
      reads.map (·.entry) = filesTold ((root.child t).child v) l ∧
      r = .ok (ofParts (pathOf t v) (reads.map fun f => (f.entry, f.part))) := by
  obtain ⟨told₁, listed, told₂, rfl, hlist, hrest⟩ := Interaction.comesTo_bind.1 h
  cases listed with
  | error e =>
    obtain rfl := Entry.comesTo_listOf_error hlist
    obtain ⟨rfl, rfl⟩ := Interaction.comesTo_pure_iff.1 hrest
    exact .inl ⟨e, rfl, rfl⟩
  | ok entries =>
    obtain ⟨l, rfl, rfl⟩ := Entry.comesTo_listOf hlist
    obtain ⟨told₃, parts, told₄, rfl, heach, hpure⟩ := Interaction.comesTo_bind.1 hrest
    obtain ⟨rfl, rfl⟩ := Interaction.comesTo_pure_iff.1 hpure
    obtain ⟨reads, hfiles, rfl, rfl⟩ := comesTo_parts heach
    exact .inr ⟨l, reads, by rw [List.append_nil], hfiles, rfl⟩

/-- The icon is the greatest of those that were listed. -/
theorem iconPath_ofReads {dir : Location} {l : List (Bytes × Bool)} {reads : List Part.Read}
    (h : reads.map (·.entry) = filesTold dir l) (path : String) :
    (ofParts path (reads.map fun f => (f.entry, f.part))).iconPath =
      (Summary.iconNames (Entry.sorted (l.map (Entry.ofTold dir)))).getLast?.map
        (path ++ "/" ++ ·) := by
  rw [iconPath_of_roles (List.forall_mem_map.2 fun f _ => f.role), List.map_map]
  have hentries : reads.map ((·.1) ∘ fun f => (f.entry, f.part)) = filesTold dir l := h
  rw [hentries]
  rfl

end Contents

/-! ## What a lookup asks -/

/-- All names that were listed are those of single entries. -/
def ListsPlain (told : List ((q : DiskQuestion) × q.Answer)) : Prop :=
  ∀ dir names, ⟨.names dir, .ok names⟩ ∈ told → ∀ name ∈ names, Location.PlainName name

/-- An icon of a name that was listed is written as the name of one entry. -/
theorem HasIcon.plainName {l : List (Bytes × Bool)} {name : String} (h : HasIcon l name)
    (hl : ∀ bytes ∈ l.map (·.1), Location.PlainName bytes) :
    Location.PlainName (Text.encode name) := by
  obtain ⟨hbegins, bytes, hbytes, rfl⟩ := h
  have hplain := hl bytes (List.mem_map_of_mem hbytes)
  refine Location.plainName_encode ?_ ?_ ?_ fun hsep => ?_
  · exact fun hempty => hplain.1 (Text.decodeLossy_eq_empty.1 hempty)
  · intro hdot
    rw [hdot] at hbegins
    exact absurd hbegins (by decide)
  · intro hdots
    rw [hdots] at hbegins
    exact absurd hbegins (by decide)
  · exact hplain.2.1 (Text.mem_of_mem_decodeLossy hsep (by decide) (by decide))

namespace Version

/-- What comes of a lookup that has asked something. -/
structure Confined (root : Location) (s : Snapshot) (t v : String)
    (told : List ((q : DiskQuestion) × q.Answer)) (r : Except Failure Version) : Prop where
  /-- Both names contribute one name each. -/
  template : ContributesOne t
  version : ContributesOne v
  /-- So the location of the version is that of the root, and then these two names. -/
  components : ((root.child t).child v).components =
    root.components ++ [.name (Text.encode t), .name (Text.encode v)]
  /-- All questions are about the directory of the version, that of the template, or an entry that
      is listed in the former. -/
  asked : ∀ x ∈ told, x.1.location = (root.child t).child v ∨ x.1.location = root.child t ∨
    ∃ names, ⟨.names ((root.child t).child v), .ok names⟩ ∈ told ∧
      ∃ name ∈ names, x.1.location = ((root.child t).child v).join name
  /-- So nothing else is reached, if the disk lists names of single entries. -/
  below : ListsPlain told → ∀ x ∈ told, (root.child t).Below x.1.location
  /-- If there is an icon among the files of the version, the path of the greatest is given; if
      there is none, that of the template is. -/
  icon : ∀ detail, r = .ok detail → ∃ l, ((root.child t).child v).listing l <:+: told ∧
    (∀ path, detail.iconPath = some path →
      (∃ name, path = t ++ "/" ++ v ++ "/" ++ name ∧ HasIcon l name ∧
        (∀ other, HasIcon l other → other ≤ name) ∧
        (ListsPlain told → (Location.ofString path).components =
          [.name (Text.encode t), .name (Text.encode v), .name (Text.encode name)])) ∨
      (∀ name, ¬ HasIcon l name) ∧ ∃ parent, s.find? t = some parent ∧ parent.iconPath = some path)

variable {root : Location} {t v : String} {told : List ((q : DiskQuestion) × q.Answer)}

/-- Texts that contribute names are joined as names are. -/
theorem ofString_path {name : String} (ht : Location.PlainName (Text.encode t))
    (hv : Location.PlainName (Text.encode v)) (hn : Location.PlainName (Text.encode name)) :
    (Location.ofString (t ++ "/" ++ v ++ "/" ++ name)).components =
      [.name (Text.encode t), .name (Text.encode v), .name (Text.encode name)] := by
  have hpath : Location.ofString (t ++ "/" ++ v) = (Location.ofString t).join (Text.encode v) :=
    Location.ofString_join ht List.suffix_rfl hv
  have hlast : Text.encode v <:+ Text.encode (t ++ "/" ++ v) := by
    show _ <:+ (Location.ofString (t ++ "/" ++ v)).bytes
    rw [hpath]
    exact hv.isSuffix_join _
  rw [Location.ofString_join hv hlast hn, hpath, Location.components_join hn,
    Location.components_join hv, Location.ofString, Location.components_of_plainName ht]
  rfl

/-- A name is the first of two that is no identifier. -/
def FirstRefused (t v bad : String) : Prop :=
  isIdentifier t = false ∧ bad = t ∨ isIdentifier t = true ∧ isIdentifier v = false ∧ bad = v

/-- No name is refused if both are identifiers. -/
theorem FirstRefused.false {bad : String} (h : FirstRefused t v bad) (ht : isIdentifier t = true)
    (hv : isIdentifier v = true) : False := by
  rcases h with ⟨ht', -⟩ | ⟨-, hv', -⟩
  · exact Bool.false_ne_true (ht'.symm.trans ht)
  · exact Bool.false_ne_true (hv'.symm.trans hv)

/-- There is one first name that is refused. -/
theorem FirstRefused.unique {bad bad' : String} (h : FirstRefused t v bad)
    (h' : FirstRefused t v bad') : bad = bad' := by
  rcases h with ⟨ht, rfl⟩ | ⟨ht, hv, rfl⟩ <;> rcases h' with ⟨ht', rfl⟩ | ⟨ht', hv', rfl⟩
  · rfl
  · exact absurd (ht.symm.trans ht') Bool.false_ne_true
  · exact absurd (ht'.symm.trans ht) Bool.false_ne_true
  · rfl

/-- The courses that a lookup can take, with what it is told and what it comes to. -/
inductive Course (root : Location) (s : Snapshot) (t v : String) :
    List ((q : DiskQuestion) × q.Answer) → Except Failure Version → Prop
  /-- A name is refused. -/
  | refused {bad : String} : FirstRefused t v bad →
    Course root s t v [] (.error (.ofError (.invalidIdentifier bad)))
  /-- The directory of the version is not there; that of the template may be. -/
  | missing (there : Bool) : isIdentifier t = true → isIdentifier v = true →
    Course root s t v [⟨.isDirectory ((root.child t).child v), false⟩,
        ⟨.isDirectory (root.child t), there⟩]
      (.error (.ofError (if there then .versionNotFound t v else .templateNotFound t)))
  /-- It is there, but cannot be listed. -/
  | unlisted (e : DiskError) : isIdentifier t = true → isIdentifier v = true →
    Course root s t v [⟨.isDirectory ((root.child t).child v), true⟩,
        ⟨.names ((root.child t).child v), .error e⟩]
      (.error ⟨["Failed to list version directory " ++ ((root.child t).child v).display], .disk e⟩)
  /-- It is listed, and its files are read. -/
  | read {l : List (Bytes × Bool)} {reads : List Part.Read} : isIdentifier t = true →
    isIdentifier v = true →
    reads.map (·.entry) = Contents.filesTold ((root.child t).child v) l →
    Course root s t v (⟨.isDirectory ((root.child t).child v), true⟩ ::
        (((root.child t).child v).listing l ++ reads.flatMap (·.told)))
      (.ok (resolve root t v (s.find? t)
        (Contents.ofParts (Contents.pathOf t v) (reads.map fun f => (f.entry, f.part)))))

variable {s : Snapshot} {r : Except Failure Version}

/-- A name that is refused decides a lookup before anything is asked. -/
theorem version_of_firstRefused (root : Location) (s : Snapshot) {bad : String}
    (h : FirstRefused t v bad) :
    s.version root t v = pure (.error (.ofError (.invalidIdentifier bad))) := by
  rcases h with ⟨ht, rfl⟩ | ⟨ht, hv, rfl⟩
  · rw [Snapshot.version, inquire, ht]
    rfl
  · rw [Snapshot.version, inquire, ht, hv]
    rfl

/-- If no name is refused, both are identifiers. -/
theorem isIdentifier_of_not_firstRefused (h : ∀ bad, ¬ FirstRefused t v bad) :
    isIdentifier t = true ∧ isIdentifier v = true := by
  have ht : isIdentifier t = true := Bool.not_eq_false _ ▸ fun ht => h t (.inl ⟨ht, rfl⟩)
  exact ⟨ht, Bool.not_eq_false _ ▸ fun hv => h v (.inr ⟨ht, hv, rfl⟩)⟩

/-- A lookup takes one of these courses. -/
theorem course_of_comesTo (h : (s.version root t v).ComesTo told r) : Course root s t v told r := by
  by_cases hrefused : ∃ bad, FirstRefused t v bad
  · obtain ⟨bad, hbad⟩ := hrefused
    rw [version_of_firstRefused root s hbad] at h
    obtain ⟨rfl, rfl⟩ := Interaction.comesTo_pure_iff.1 h
    exact .refused hbad
  obtain ⟨ht, hv⟩ := isIdentifier_of_not_firstRefused (not_exists.1 hrefused)
  obtain ⟨told₁, found, nothing, rfl, hfound, hpure⟩ := Interaction.comesTo_bind.1 h
  obtain ⟨rfl, rfl⟩ := Interaction.comesTo_pure_iff.1 hpure
  rw [List.append_nil]
  rw [inquire, ht, hv] at hfound
  obtain ⟨told₂, there, told₃, rfl, hask, hrest⟩ := Interaction.comesTo_bind.1 hfound
  obtain rfl := Interaction.comesTo_question_iff.1 hask
  cases there with
  | true =>
    rcases Contents.comesTo_inquire hrest with ⟨e, rfl, rfl⟩ | ⟨l, reads, rfl, hfiles, rfl⟩
    · exact .unlisted e ht hv
    · exact .read ht hv hfiles
  | false =>
    obtain ⟨told₄, template, told₅, rfl, hask, hend⟩ := Interaction.comesTo_bind.1 hrest
    obtain rfl := Interaction.comesTo_question_iff.1 hask
    obtain ⟨rfl, rfl⟩ : told₅ = [] ∧ found =
        .error (.ofError (if template then .versionNotFound t v else .templateNotFound t)) := by
      cases template <;> exact Interaction.comesTo_pure_iff.1 hend
    exact .missing template ht hv

/-- Whoever asks anything has two identifiers. -/
theorem Course.isIdentifier (h : Course root s t v told r) (hasks : told ≠ []) :
    isIdentifier t = true ∧ isIdentifier v = true := by
  cases h with
  | refused => exact absurd rfl hasks
  | missing _ ht hv => exact ⟨ht, hv⟩
  | unlisted _ ht hv => exact ⟨ht, hv⟩
  | read ht hv => exact ⟨ht, hv⟩

/-- All that is asked is about the directory of the version, that of the template, or an entry that
    is listed in the former. -/
theorem Course.asked (h : Course root s t v told r) :
    ∀ x ∈ told, x.1.location = (root.child t).child v ∨ x.1.location = root.child t ∨
      ∃ names, ⟨.names ((root.child t).child v), .ok names⟩ ∈ told ∧
        ∃ name ∈ names, x.1.location = ((root.child t).child v).join name := by
  cases h with
  | refused => nofun
  | missing =>
    exact List.forall_mem_cons.2 ⟨.inl rfl, List.forall_mem_singleton.2 (.inr (.inl rfl))⟩
  | unlisted => exact List.forall_mem_cons.2 ⟨.inl rfl, List.forall_mem_singleton.2 (.inl rfl)⟩
  | @read l reads _ _ hfiles =>
    have hlisted : (⟨.names ((root.child t).child v), .ok (l.map (·.1))⟩ :
        (q : DiskQuestion) × q.Answer) ∈ ((⟨.isDirectory ((root.child t).child v), true⟩ :
          (q : DiskQuestion) × q.Answer) ::
            (((root.child t).child v).listing l ++ reads.flatMap (·.told))) :=
      List.mem_cons_of_mem _ (List.mem_append_left _ List.mem_cons_self)
    refine List.forall_mem_cons.2 ⟨.inl rfl, List.forall_mem_append.2
      ⟨List.forall_mem_cons.2 ⟨.inl rfl, fun x hx => ?_⟩, fun x hx => ?_⟩⟩
    · obtain ⟨e, he, rfl⟩ := List.mem_map.1 hx
      exact .inr (.inr ⟨_, hlisted, e.1, List.mem_map_of_mem he, rfl⟩)
    · obtain ⟨f, hf, hx⟩ := List.mem_flatMap.1 hx
      obtain ⟨name, hname, hlocation⟩ := Contents.exists_of_mem_filesTold
        (hfiles ▸ List.mem_map_of_mem (f := Part.Read.entry) hf)
      refine .inr (.inr ⟨_, hlisted, name, List.mem_map_of_mem (f := (·.1)) hname, ?_⟩)
      rw [f.asked hx, ← hlocation]
      rfl

/-- **Confinement**: a lookup whose names do not both contribute one plain name refuses the first
    that does not, whatever is published, and asks for nothing; and one that asks anything keeps to
    the directory that the two names lead to below the root, whatever it is answered. -/
theorem confinement (root : Location) (s : Snapshot) (t v : String) :
    (∀ bad, ¬ ContributesOne t ∧ bad = t ∨ ContributesOne t ∧ ¬ ContributesOne v ∧ bad = v →
      s.version root t v = pure (.error (.ofError (.invalidIdentifier bad)))) ∧
    ∀ told r, (s.version root t v).ComesTo told r → told ≠ [] → Confined root s t v told r := by
  constructor
  · intro bad hbad
    rw [← isIdentifier_iff_components, ← isIdentifier_iff_components, Bool.not_eq_true,
      Bool.not_eq_true] at hbad
    exact version_of_firstRefused root s hbad
  intro told r h hasks
  have hcourse := course_of_comesTo h
  obtain ⟨ht, hv⟩ := hcourse.isIdentifier hasks
  have htplain := plainName_of_isIdentifier ht
  have hvplain := plainName_of_isIdentifier hv
  refine
    { template := isIdentifier_iff_components.1 ht
      version := isIdentifier_iff_components.1 hv
      components := ?_
      asked := hcourse.asked
      below := fun hlists x hx => ?_
      icon := fun detail hdetail => ?_ }
  · rw [Location.child, Location.components_join hvplain, Location.child,
      Location.components_join htplain, List.append_assoc]
    rfl
  · have hbelow : (root.child t).Below ((root.child t).child v) := .entry .here hvplain
    rcases hcourse.asked x hx with hx | hx | ⟨names, hnames, name, hname, hx⟩
    · rw [hx]
      exact hbelow
    · rw [hx]
      exact .here
    · rw [hx]
      exact hbelow.entry (hlists _ _ hnames name hname)
  · -- Only the course that reads gives a detail. Its icon is one of the files read, or inherited.
    cases hdetail
    cases hcourse with
    | @read l reads _ _ hfiles =>
    refine ⟨l, ⟨[_], reads.flatMap (·.told), rfl⟩, fun path hpath => ?_⟩
    have hpath : (Contents.ofParts (Contents.pathOf t v)
        (reads.map fun f => (f.entry, f.part))).iconPath.or
          ((s.find? t).bind (·.iconPath)) = some path := hpath
    rw [Contents.iconPath_ofReads hfiles (Contents.pathOf t v)] at hpath
    cases hown : (Summary.iconNames (Entry.sorted
        (l.map (Entry.ofTold ((root.child t).child v))))).getLast? with
    | some name =>
      rw [hown] at hpath
      obtain rfl : Contents.pathOf t v ++ "/" ++ name = path := Option.some.inj hpath
      obtain ⟨hname, hgreatest⟩ := Summary.getLast?_iconNames_eq_some.1 hown
      refine .inl ⟨name, rfl, hname, hgreatest, fun hlists => ?_⟩
      refine ofString_path htplain hvplain (hname.plainName (hlists ((root.child t).child v) _ ?_))
      exact List.mem_cons_of_mem _ (List.mem_append_left _ List.mem_cons_self)
    | none =>
      rw [hown] at hpath
      exact .inr ⟨Summary.getLast?_iconNames_eq_none.1 hown, Option.bind_eq_some_iff.1 hpath⟩

/-- On the shelf, names that lead elsewhere are refused in either place, and the version that is
    found is two names below the root. -/
theorem confinement_shelf :
    (∀ bad ∈ ["", ".", "..", "/", "mysql/..", "/etc", "mysql/1", "a\\b", "a\x00"],
      Snapshot.empty.version (.ofString "shelf") bad "1" =
          pure (.error (.ofError (.invalidIdentifier bad))) ∧
        Snapshot.empty.version (.ofString "shelf") "mysql" bad =
          pure (.error (.ofError (.invalidIdentifier bad)))) ∧
    ∃ told detail,
      (Snapshot.empty.version (.ofString "shelf") "mysql" "1").ComesTo told (.ok detail) ∧
      told ≠ [] ∧ (((Location.ofString "shelf").child "mysql").child "1").components =
        [.name (Text.encode "shelf"), .name (Text.encode "mysql"), .name (Text.encode "1")] := by
  have hconfined := confinement (.ofString "shelf") Snapshot.empty
  refine ⟨fun bad hbad => ?_, ?_⟩
  · have hrefused : ¬ ContributesOne bad := by
      revert bad
      decide
    exact ⟨(hconfined bad "1").1 bad (.inl ⟨hrefused, rfl⟩),
      (hconfined "mysql" bad).1 bad (.inr ⟨by decide, hrefused, rfl⟩)⟩
  · have hreadable : Disk.shelf.Readable (.ofString "shelf") "mysql" "1" :=
      ⟨by decide, by decide, by decide, Disk.exists_entries.2 ⟨_, rfl⟩⟩
    obtain ⟨told, h, -⟩ := Interaction.exists_comesTo_run Disk.shelf
      (Snapshot.empty.version (.ofString "shelf") "mysql" "1")
    rw [run_version_eq_ok.2 ⟨hreadable, rfl⟩] at h
    have hasks : told ≠ [] := by
      rintro rfl
      cases course_of_comesTo h
    have hcomponents := ((hconfined "mysql" "1").2 told _ h hasks).components
    exact ⟨told, _, h, hasks, hcomponents.trans (by decide)⟩

end Version

end TemplateCatalog
