import TemplateCatalog.Disk.Tree
import TemplateCatalog.Proofs.Text.Utf8

/-!
# Coherent disks

A disk answers each question by itself, but its answers belong together, because there is
one tree of directories behind them. Three laws tell how (`Disk.Coherent`): a directory
lists names of single entries, only a directory can be listed, and a directory that is
found under a name is listed under it.

They are laws of every file system that tells names apart byte by byte, and they hold of
volumes (`Volume.coherent`), links and all: a location is followed step by step, so its
last step is taken in the directory that the steps before it lead to (`walk_append`).

Two more laws are about directories alone (`Disk.Anchored`): they stand in directories, and
at locations that a system can be asked for. They hold of all volumes (`Volume.anchored`).
Where a location names a directory of a volume step by step, without a link or a step back
(`Volume.Straight`), that directory is what the volume lists there (`Volume.names_of_get`).
-/

namespace TemplateCatalog

namespace Location

/-- The name of one entry of a directory: not empty, without a separator, and not one of
    the two names that lead back. -/
def PlainName (name : Bytes) : Prop :=
  name ≠ [] ∧ separator ∉ name ∧ name ≠ [0x2E] ∧ name ≠ [0x2E, 0x2E]

instance : DecidablePred PlainName := fun name =>
  inferInstanceAs (Decidable (name ≠ [] ∧ separator ∉ name ∧ name ≠ [0x2E] ∧ name ≠ [0x2E, 0x2E]))

/-- A plain name is not taken for an absolute location. -/
theorem PlainName.join {name : Bytes} (h : PlainName name) (l : Location) :
    l.join name =
      if l.bytes.isEmpty || l.bytes.getLast? = some separator then ⟨l.bytes ++ name⟩
      else ⟨l.bytes ++ separator :: name⟩ := by
  rw [Location.join, if_neg]
  intro hhead
  exact h.2.1 (List.mem_of_head? hhead)

/-- The name of an entry, told from the place of the entry. -/
theorem PlainName.eq_drop {name : Bytes} (h : PlainName name) {l l' : Location}
    (hl : l.bytes.isEmpty = false) (hlast : l.bytes.getLast? ≠ some separator)
    (hjoin : l.join name = l') : name = l'.bytes.drop (l.bytes.length + 1) := by
  rw [h.join, if_neg (by simp [hl, hlast])] at hjoin
  rw [← hjoin]
  simp

/-- The location of an entry continues that of its directory. -/
theorem PlainName.isPrefix_join {name : Bytes} (h : PlainName name) (l : Location) :
    l.bytes <+: (l.join name).bytes := by
  rw [h.join]
  split
  · exact List.prefix_append _ _
  · exact List.prefix_append _ _

/-- The location of an entry ends with its name. -/
theorem PlainName.isSuffix_join {name : Bytes} (h : PlainName name) (l : Location) :
    name <:+ (l.join name).bytes := by
  rw [h.join]
  split
  · exact List.suffix_append _ _
  · exact (List.suffix_cons _ _).trans (List.suffix_append _ _)

/-- The location of an entry is a text exactly if its name is one and the location of its
    directory is. -/
theorem PlainName.isText_join {name : Bytes} (h : PlainName name) (l : Location) :
    Text.IsText (l.join name).bytes ↔ Text.IsText l.bytes ∧ Text.IsText name := by
  have hsep : separator.toNat < 0x80 := by decide
  have hempty : Text.IsText [] := ⟨"", rfl⟩
  rw [h.join]
  split
  · next hjoin =>
    rcases Bool.or_eq_true_iff.1 hjoin with hnil | hlast
    · rw [List.isEmpty_iff.1 hnil]
      exact (and_iff_right hempty).symm
    · obtain ⟨init, hinit⟩ := List.getLast?_eq_some_iff.1 (of_decide_eq_true hlast)
      rw [hinit, List.append_assoc, List.singleton_append, Text.isText_append_cons_iff hsep,
        Text.isText_append_cons_iff hsep, and_iff_left hempty]
  · exact Text.isText_append_cons_iff hsep

/-- A plain name leads away from where it is taken, -/
theorem PlainName.not_stays {name : Bytes} (h : PlainName name) : ¬ stays name = true := by
  simp [stays, h.1, h.2.2.1]

/-- and not out of the directory. -/
theorem PlainName.not_leaves {name : Bytes} (h : PlainName name) :
    ¬ leavesDirectory name = true := by
  simp [leavesDirectory, h.2.2.2]

/-- A text is written as a plain name if it is one. -/
theorem plainName_encode {s : String} (hne : s ≠ "") (hdot : s ≠ ".") (hdots : s ≠ "..")
    (hsep : '/' ∉ s.toList) : PlainName (Text.encode s) := by
  refine ⟨fun h => hne ?_, fun h => hsep ?_, fun h => hdot ?_, fun h => hdots ?_⟩
  · exact Text.encode_inj.1 (h.trans (by decide))
  · exact Text.mem_of_mem_encode (b := separator) (by decide) h
  · exact Text.encode_inj.1 (h.trans (by decide))
  · exact Text.encode_inj.1 (h.trans (by decide))

theorem stepsOf_ne_nil (bytes : Bytes) : stepsOf bytes ≠ [] := by
  cases bytes with
  | nil => exact List.cons_ne_nil _ _
  | cons b rest =>
    rw [stepsOf]
    split
    · exact List.cons_ne_nil _ _
    · split <;> exact List.cons_ne_nil _ _

/-- The steps before a separator, and those after it. -/
theorem stepsOf_append_separator (a b : Bytes) :
    stepsOf (a ++ separator :: b) = stepsOf a ++ stepsOf b := by
  induction a with
  | nil => simp only [List.nil_append, stepsOf, if_true, List.singleton_append]
  | cons x a ih =>
    rw [List.cons_append, stepsOf, stepsOf, ih]
    split
    · rfl
    · cases h : stepsOf a with
      | nil => exact absurd h (stepsOf_ne_nil a)
      | cons step steps => rfl

/-- Without a separator there is one step. -/
theorem stepsOf_eq_singleton {name : Bytes} (h : separator ∉ name) : stepsOf name = [name] := by
  induction name with
  | nil => rfl
  | cons b name ih =>
    rw [List.mem_cons, not_or] at h
    rw [stepsOf, if_neg (Ne.symm h.1), ih h.2]

end Location

/-- The answers of a disk belong together. -/
structure Disk.Coherent (d : Disk) : Prop where
  /-- What is listed are the names of single entries. -/
  plain : ∀ {l names}, d.names l = .ok names → ∀ name ∈ names, Location.PlainName name
  /-- Only a directory can be listed. -/
  listable : ∀ {l names}, d.names l = .ok names → d.isDirectory l = true
  /-- A directory that is found under a name is listed under it. -/
  listed : ∀ {l names name}, d.names l = .ok names → Location.PlainName name →
    d.isDirectory (l.join name) = true → name ∈ names

/-- Directories stand in directories, at locations that the system can be asked for. -/
structure Disk.Anchored (d : Disk) : Prop where
  /-- What a directory stands in is one itself. -/
  nested : ∀ {l name}, l.bytes ≠ [] → Location.PlainName name →
    d.isDirectory (l.join name) = true → d.isDirectory l = true
  /-- No directory stands at a location with the byte that no name may hold. -/
  named : ∀ {l}, d.isDirectory l = true → 0 ∉ l.bytes

/-- If what can be listed and what is a directory is told by two finite tables, coherence
    can be checked: a directory in the table is an entry of a listing under the name that is
    left of its place. -/
theorem Disk.coherent_of_table {d : Disk} (listings : List (Location × List Bytes))
    (places : List Location)
    (hnames : ∀ l names, d.names l = .ok names → (l, names) ∈ listings)
    (hplaces : ∀ l, d.isDirectory l = true → l ∈ places)
    (hcheck : ∀ p ∈ listings, p.1.bytes.isEmpty = false ∧
      p.1.bytes.getLast? ≠ some Location.separator ∧ d.isDirectory p.1 = true ∧
      (∀ name ∈ p.2, Location.PlainName name) ∧
      ∀ l ∈ places, p.1.join (l.bytes.drop (p.1.bytes.length + 1)) = l →
        Location.PlainName (l.bytes.drop (p.1.bytes.length + 1)) →
        l.bytes.drop (p.1.bytes.length + 1) ∈ p.2) : d.Coherent where
  plain h := (hcheck _ (hnames _ _ h)).2.2.2.1
  listable h := (hcheck _ (hnames _ _ h)).2.2.1
  listed {l names name} h hname hdir := by
    obtain ⟨hempty, hlast, -, -, hentries⟩ := hcheck _ (hnames _ _ h)
    have hdrop := hname.eq_drop hempty hlast rfl
    rw [hdrop]
    refine hentries _ (hplaces _ hdir) ?_ ?_
    · rw [← hdrop]
    · rw [← hdrop]
      exact hname

/-! ## Volumes -/

namespace Tree

mutual

/-- All directories in a tree name their entries plainly. -/
def WellNamed : Tree → Prop
  | directory entries => WellNamedEntries entries
  | file _ => True
  | link _ => True
  | pipe _ => True

/-- The entries of a directory are named plainly, and so are those in them. -/
def WellNamedEntries : List (Bytes × Tree) → Prop
  | [] => True
  | (name, t) :: rest => Location.PlainName name ∧ t.WellNamed ∧ WellNamedEntries rest

end

theorem wellNamedEntries_iff {entries : List (Bytes × Tree)} :
    WellNamedEntries entries ↔ ∀ e ∈ entries, Location.PlainName e.1 ∧ e.2.WellNamed := by
  induction entries with
  | nil => simp [WellNamedEntries]
  | cons e entries ih =>
    obtain ⟨name, t⟩ := e
    rw [WellNamedEntries, ih, List.forall_mem_cons, and_assoc]

/-- What stands in a well-named tree is well named. -/
theorem WellNamed.get? {t u : Tree} {names : List Bytes} (h : t.WellNamed)
    (hget : t.get? names = some u) : u.WellNamed := by
  induction names generalizing t with
  | nil =>
    rw [Tree.get?] at hget
    cases hget
    exact h
  | cons name names ih =>
    rw [Tree.get?] at hget
    obtain ⟨below, hlookup, hbelow⟩ := Option.bind_eq_some_iff.1 hget
    obtain ⟨l₁, l₂, hsplit, -⟩ := List.lookup_eq_some_iff.1 hlookup
    cases t with
    | file content => cases hlookup
    | link target => cases hlookup
    | pipe writer => cases hlookup
    | directory entries =>
      refine ih (wellNamedEntries_iff.1 h (name, below) ?_).2 hbelow
      have hsplit : entries = l₁ ++ (name, below) :: l₂ := hsplit
      rw [hsplit]
      simp

/-- What stands below what stands below a tree. -/
theorem get?_append (t : Tree) (names more : List Bytes) :
    t.get? (names ++ more) = (t.get? names).bind (·.get? more) := by
  induction names generalizing t with
  | nil => rfl
  | cons name names ih =>
    rw [List.cons_append, get?, get?, Option.bind_assoc]
    exact congrArg _ (funext fun below => ih below)

end Tree

namespace Volume

section

variable {root : Tree} {follow : Bool} {links : Nat} {dir rest : List Bytes} {step : Bytes}
  {entries : List (Bytes × Tree)}

/-- A step that stays is as good as none. -/
theorem walk_cons_of_stays (hdir : root.get? dir = some (.directory entries))
    (hstays : Location.stays step = true) :
    walk root follow links dir (step :: rest) = walk root follow links dir rest := by
  rw [walk]
  simp only [hdir, hstays, if_true]

/-- A step that leaves a directory leads to the one that it stands in. -/
theorem walk_cons_of_leaves (hdir : root.get? dir = some (.directory entries))
    (hstays : ¬ Location.stays step = true) (hleaves : Location.leavesDirectory step = true) :
    walk root follow links dir (step :: rest) = walk root follow links dir.dropLast rest := by
  rw [walk]
  simp only [hdir, hleaves, if_true, if_neg hstays]

/-- A step to a link is followed by the steps of its target, and one link less is left. -/
theorem walk_cons_of_link (hdir : root.get? dir = some (.directory entries))
    (hstays : ¬ Location.stays step = true) (hleaves : ¬ Location.leavesDirectory step = true)
    (hlong : ¬ nameLimit < step.length) {target : Bytes}
    (hlookup : entries.lookup step = some (.link target)) :
    walk root true (links + 1) dir (step :: rest) =
      walk root true links (if target.head? = some Location.separator then [] else dir)
        (Location.stepsOf target ++ rest) := by
  rw [walk]
  simp only [hdir, if_neg hstays, if_neg hleaves, if_neg hlong, hlookup, Bool.not_true,
    Bool.and_false, Bool.false_eq_true, if_false]

/-- A step to anything else leads there. -/
theorem walk_cons_of_lookup (hdir : root.get? dir = some (.directory entries))
    (hstays : ¬ Location.stays step = true) (hleaves : ¬ Location.leavesDirectory step = true)
    (hlong : ¬ nameLimit < step.length) {below : Tree} (hlookup : entries.lookup step = some below)
    (hlink : ∀ target, below ≠ .link target) :
    walk root follow links dir (step :: rest) = walk root follow links (dir ++ [step]) rest := by
  rw [walk]
  simp only [hdir, if_neg hstays, if_neg hleaves, if_neg hlong, hlookup]

end

/-- If more steps lead somewhere, the first of them lead somewhere by themselves: whatever
    comes after them is followed from there, with the links that are left. -/
theorem walk_append {root : Tree} {links : Nat} {dir steps more names : List Bytes}
    (h : walk root true links dir (steps ++ more) = .ok (.present names)) :
    ∃ left there, ∀ rest,
      walk root true links dir (steps ++ rest) = walk root true left there rest := by
  -- By the recursion of the walk. A step that is taken is taken alike before any rest; at one
  -- that fails, `h` is false.
  fun_induction walk root true links dir steps with
  | case1 links dir => exact ⟨links, dir, fun rest => rfl⟩
  | case2 links dir step steps entries hdir hstays ih =>
    simp only [List.cons_append, walk_cons_of_stays hdir hstays] at h ⊢
    exact ih h
  | case3 links dir step steps entries hdir hstays hleaves ih =>
    simp only [List.cons_append, walk_cons_of_leaves hdir hstays hleaves] at h ⊢
    exact ih h
  | case9 dir step steps entries hdir hstays hleaves hlong target hlookup hlast links from' ih =>
    simp only [Nat.succ_eq_add_one, List.cons_append, ← List.append_assoc,
      walk_cons_of_link hdir hstays hleaves hlong hlookup] at h ⊢
    exact ih h
  | case10 links dir step steps entries hdir hstays hleaves hlong below hlink hlookup ih =>
    simp only [List.cons_append, walk_cons_of_lookup hdir hstays hleaves hlong hlookup hlink]
      at h ⊢
    exact ih h
  | case7 links dir step steps entries hdir hstays hleaves hlong target hlookup hlast =>
    -- The last link is only kept where links are not followed to the end.
    simp at hlast
  | case4 links dir step steps entries hdir hstays hleaves hlong =>
    rw [List.cons_append, walk] at h
    simp [hdir, hstays, hleaves, hlong] at h
  | case5 links dir step steps entries hdir hstays hleaves hlong hlookup hlast =>
    rw [List.cons_append, walk] at h
    simp only [hdir, if_neg hstays, if_neg hleaves, if_neg hlong, hlookup] at h
    split at h <;> cases h
  | case6 links dir step steps entries hdir hstays hleaves hlong hlookup hlast =>
    rw [List.cons_append, walk] at h
    simp only [hdir, if_neg hstays, if_neg hleaves, if_neg hlong, hlookup] at h
    split at h <;> cases h
  | case8 dir step steps entries hdir hstays hleaves hlong target hlookup hlast =>
    rw [List.cons_append, walk] at h
    simp [hdir, hstays, hleaves, hlong, hlookup] at h
  | case11 links dir step steps below hbelow hdir =>
    rw [List.cons_append, walk] at h
    simp [hdir] at h
  | case12 links dir step steps hdir =>
    rw [List.cons_append, walk] at h
    simp [hdir] at h

/-- A plain name that leads somewhere is one of the names in its directory. -/
theorem mem_of_walk {root : Tree} {links : Nat} {dir names : List Bytes} {name : Bytes}
    {entries : List (Bytes × Tree)} (hdir : root.get? dir = some (.directory entries))
    (hname : Location.PlainName name)
    (h : walk root true links dir [name] = .ok (.present names)) : name ∈ entries.map (·.1) := by
  rw [walk] at h
  simp only [hdir, if_neg hname.not_stays, if_neg hname.not_leaves] at h
  split at h
  · cases h
  cases hlookup : entries.lookup name with
  | none => rw [hlookup] at h; cases h
  | some below =>
    obtain ⟨l₁, l₂, hsplit, -⟩ := List.lookup_eq_some_iff.1 hlookup
    rw [hsplit]
    simp

/-- The steps of an entry of a location are those of the location and then its name, but
    for an empty step that the location may end with. -/
theorem exists_steps_join {l : Location} {name : Bytes} (hl : l.bytes ≠ [])
    (hname : Location.PlainName name) :
    ∃ steps, (l.steps = steps ∨ l.steps = steps ++ [[]]) ∧
      (l.join name).steps = steps ++ [name] ∧ (l.join name).isAbsolute = l.isAbsolute := by
  have hstep := Location.stepsOf_eq_singleton hname.2.1
  have hhead (r : Bytes) : (l.bytes ++ r).head? = l.bytes.head? := by
    cases h : l.bytes with
    | nil => exact absurd h hl
    | cons b bytes => rfl
  have hempty : l.bytes.isEmpty = false := by simp [hl]
  rw [hname.join, hempty, Bool.false_or, Location.isAbsolute, Location.isAbsolute]
  by_cases hlast : l.bytes.getLast? = some Location.separator
  · -- The location ends with a separator, which counts for the name.
    obtain ⟨a, ha⟩ := List.getLast?_eq_some_iff.1 hlast
    rw [if_pos (decide_eq_true hlast)]
    refine ⟨Location.stepsOf a, .inr ?_, ?_, by rw [hhead]⟩
    · rw [Location.steps, ha, Location.stepsOf_append_separator]
      rfl
    · rw [Location.steps, ha, List.append_assoc, List.singleton_append,
        Location.stepsOf_append_separator, hstep]
  · rw [if_neg (by simpa using hlast)]
    refine ⟨l.steps, .inl rfl, ?_, by rw [hhead]⟩
    rw [Location.steps, Location.stepsOf_append_separator, hstep]
    rfl

/-- A location without a byte holds nothing. -/
theorem ne_nil_of_get {v : Volume} {l : Location} {t : Tree} (h : v.get l = .ok t) :
    l.bytes ≠ [] := by
  intro hl
  rw [get, find, hl] at h
  cases h

/-- An empty step leads nowhere else. -/
theorem eq_of_walk_empty {root : Tree} {links : Nat} {dir names : List Bytes}
    (h : walk root true links dir [[]] = .ok (.present names)) : names = dir := by
  rw [walk] at h
  split at h
  · rw [if_pos (show Location.stays [] = true from rfl), walk] at h
    cases h
    rfl
  · cases h
  · cases h

/-- A location is found where its steps lead, if the system can be asked for it. -/
theorem find_eq_ok {v : Volume} {l : Location} {place : Place} :
    v.find true l = .ok place ↔ 0 ∉ l.bytes ∧ l.bytes ≠ [] ∧ l.bytes.length ≤ locationLimit ∧
      walk v.root true linkLimit (if l.isAbsolute then [] else v.here) l.steps = .ok place := by
  rw [find]
  split
  · next h => simp [List.contains_iff_mem.1 h]
  split
  · next h => simp [List.isEmpty_iff.1 h]
  split
  · next h => simp [Nat.not_le_of_lt h]
  · next hnul hempty hlong =>
    rw [List.contains_iff_mem] at hnul
    rw [List.isEmpty_iff] at hempty
    simp [hnul, hempty, Nat.le_of_not_lt hlong]

/-- What a location holds stands where its steps lead. -/
theorem walk_of_get {v : Volume} {l : Location} {t : Tree} (h : v.get l = .ok t) :
    ∃ names, walk v.root true linkLimit (if l.isAbsolute then [] else v.here) l.steps =
      .ok (.present names) ∧ v.root.get? names = some t := by
  rw [get] at h
  split at h
  · next names hfind =>
    refine ⟨names, (find_eq_ok.1 hfind).2.2.2, ?_⟩
    cases hget : v.root.get? names with
    | none => rw [hget] at h; cases h
    | some u => rw [hget] at h; cases h; rfl
  · cases h
  · cases h

/-- A directory that stands at a plain name is one of the entries of the directory that it
    stands in. -/
theorem mem_of_get_join {v : Volume} {l : Location} {name : Bytes} {entries : List (Bytes × Tree)}
    {t : Tree} (hname : Location.PlainName name) (hget : v.get l = .ok (.directory entries))
    (hbelow : v.get (l.join name) = .ok t) : name ∈ entries.map (·.1) := by
  obtain ⟨steps, hsteps, hjoin, habsolute⟩ := exists_steps_join (ne_nil_of_get hget) hname
  obtain ⟨there, hwalk, hthere⟩ := walk_of_get hget
  obtain ⟨names, hnames, -⟩ := walk_of_get hbelow
  rw [hjoin, habsolute] at hnames
  obtain ⟨left, place, hrest⟩ := walk_append hnames
  rw [hrest] at hnames
  -- The steps of the location lead to the place where the last step is taken.
  have hplace : there = place := by
    rcases hsteps with hsteps | hsteps
    · rw [hsteps, ← List.append_nil steps, hrest, walk] at hwalk
      cases hwalk
      rfl
    · rw [hsteps, hrest] at hwalk
      exact eq_of_walk_empty hwalk
  exact mem_of_walk (hplace ▸ hthere) hname hnames

/-- A location that can be listed holds a directory with these names. -/
theorem get_of_names {v : Volume} {l : Location} {names : List Bytes}
    (h : v.disk.names l = .ok names) :
    ∃ entries, v.get l = .ok (.directory entries) ∧ names = entries.map (·.1) := by
  have h : v.disk (.names l) = .ok names := h
  rw [disk] at h
  split at h
  · next entries hget =>
    cases h
    exact ⟨entries, hget, rfl⟩
  · cases h
  · cases h

/-- A directory is listed with its names. -/
theorem names_of_get {v : Volume} {l : Location} {entries : List (Bytes × Tree)}
    (h : v.get l = .ok (.directory entries)) : v.disk.names l = .ok (entries.map (·.1)) := by
  show v.disk (.names l) = _
  rw [disk, h]

/-- A volume whose tree is well named is a coherent disk. -/
theorem coherent {v : Volume} (hv : v.root.WellNamed) : v.disk.Coherent where
  plain {l names} h name hname := by
    obtain ⟨entries, hget, rfl⟩ := get_of_names h
    obtain ⟨there, -, hthere⟩ := walk_of_get hget
    obtain ⟨e, he, rfl⟩ := List.mem_map.1 hname
    have hentries : Tree.WellNamedEntries entries := hv.get? hthere
    exact (Tree.wellNamedEntries_iff.1 hentries e he).1
  listable {l names} h := by
    obtain ⟨entries, hget, -⟩ := get_of_names h
    show ((v.get l).toOption.any Tree.isDirectory) = true
    rw [hget]
    rfl
  listed {l names name} h hname hdir := by
    obtain ⟨entries, hget, rfl⟩ := get_of_names h
    cases hbelow : v.get (l.join name) with
    | error e =>
      have hdir : ((v.get (l.join name)).toOption.any Tree.isDirectory) = true := hdir
      rw [hbelow] at hdir
      cases hdir
    | ok t => exact mem_of_get_join hname hget hbelow

/-- A place from which one more step can be taken is a directory. -/
theorem exists_entries_of_walk {root : Tree} {links : Nat} {dir names : List Bytes}
    {name : Bytes} (h : walk root true links dir [name] = .ok (.present names)) :
    ∃ entries, root.get? dir = some (.directory entries) := by
  rw [walk] at h
  split at h
  · next entries hdir => exact ⟨entries, hdir⟩
  · cases h
  · cases h

/-- An empty step leads from a directory to itself. -/
theorem walk_empty {root : Tree} {links : Nat} {dir : List Bytes} {entries : List (Bytes × Tree)}
    (h : root.get? dir = some (.directory entries)) :
    walk root true links dir [[]] = .ok (.present dir) := by
  rw [walk_cons_of_stays h rfl, walk]

/-- There is a directory where one stands. -/
theorem isDirectory_iff {v : Volume} {l : Location} :
    v.disk.isDirectory l = true ↔
      ∃ names entries, v.find true l = .ok (.present names) ∧
        v.root.get? names = some (.directory entries) := by
  show (v.get l).toOption.any Tree.isDirectory = true ↔ _
  rw [get]
  cases v.find true l with
  | error e => simp [Except.toOption]
  | ok place =>
    cases place with
    | absent dir name => simp [Except.toOption]
    | present names =>
      cases hget : v.root.get? names with
      | none => simp [Except.toOption, hget]
      | some t => cases t <;> simp [Except.toOption, Tree.isDirectory, hget]

/-- The directories of a volume stand in directories. -/
theorem anchored (v : Volume) : v.disk.Anchored where
  nested {l name} hl hname h := by
    obtain ⟨names, -, hfind, -⟩ := isDirectory_iff.1 h
    obtain ⟨hnul, -, hlong, hwalk⟩ := find_eq_ok.1 hfind
    obtain ⟨steps, hsteps, hjoin, habsolute⟩ := exists_steps_join hl hname
    rw [hjoin, habsolute] at hwalk
    obtain ⟨left, there, hrest⟩ := walk_append hwalk
    rw [hrest] at hwalk
    obtain ⟨entries, hdir⟩ := exists_entries_of_walk hwalk
    have hbytes := hname.isPrefix_join l
    refine isDirectory_iff.2 ⟨there, entries, find_eq_ok.2 ⟨?_, hl, ?_, ?_⟩, hdir⟩
    · exact fun hmem => hnul (hbytes.subset hmem)
    · exact Nat.le_trans hbytes.length_le hlong
    · -- The steps of the location lead to where the step to the entry is taken.
      rcases hsteps with hsteps | hsteps
      · rw [hsteps, ← List.append_nil steps, hrest, walk]
      · rw [hsteps, hrest, walk_empty hdir]
  named {l} h := by
    obtain ⟨names, -, hfind, -⟩ := isDirectory_iff.1 h
    exact (find_eq_ok.1 hfind).1

/-! ### Straight locations -/

/-- A location that leads down by names alone, and that the system can be asked for. -/
def Straight (l : Location) : Prop :=
  0 ∉ l.bytes ∧ l.bytes.length ≤ locationLimit ∧
    ∀ name ∈ l.steps, Location.PlainName name ∧ name.length ≤ nameLimit

instance : DecidablePred Straight := fun l =>
  inferInstanceAs (Decidable (_ ∧ _ ∧ ∀ name ∈ l.steps, _))

/-- Names that lead through directories lead where they say. -/
theorem walk_of_get? {root : Tree} {dir steps : List Bytes} {t : Tree} (links : Nat)
    (h : root.get? (dir ++ steps) = some t) (ht : ∀ target, t ≠ .link target)
    (hsteps : ∀ name ∈ steps, Location.PlainName name ∧ name.length ≤ nameLimit) :
    walk root true links dir steps = .ok (.present (dir ++ steps)) := by
  induction steps generalizing dir with
  | nil => rw [walk, List.append_nil]
  | cons name steps ih =>
    obtain ⟨⟨hplain, hlong⟩, hrest⟩ := List.forall_mem_cons.1 hsteps
    have hnext : root.get? (dir ++ [name] ++ steps) = some t := by rwa [List.append_assoc]
    have hwalk := ih hnext hrest
    rw [List.append_assoc] at hwalk
    rw [Tree.get?_append] at h
    obtain ⟨here, hhere, hbelow⟩ := Option.bind_eq_some_iff.1 h
    rw [Tree.get?] at hbelow
    obtain ⟨below, hlookup, hget⟩ := Option.bind_eq_some_iff.1 hbelow
    -- Nothing stands below anything else, so there is a directory, and no link in it.
    cases here with
    | file => cases hlookup
    | link => cases hlookup
    | pipe => cases hlookup
    | directory entries =>
      have hlookup : entries.lookup name = some below := hlookup
      have hlink : ∀ target, below ≠ .link target := by
        rintro target rfl
        cases steps with
        | nil =>
          cases hget
          exact ht target rfl
        | cons => cases hget
      rw [walk_cons_of_lookup hhere hplain.not_stays hplain.not_leaves (Nat.not_lt.2 hlong)
        hlookup hlink]
      exact hwalk

/-- What stands at the names of a straight location is there. -/
theorem get_of_straight {v : Volume} {l : Location} {t : Tree} (hl : Straight l)
    (h : v.root.get? (v.here ++ l.steps) = some t) (ht : ∀ target, t ≠ .link target) :
    v.get l = .ok t := by
  obtain ⟨hnul, hlong, hsteps⟩ := hl
  have hempty : l.bytes ≠ [] := by
    intro hnil
    refine (hsteps [] ?_).1.1 rfl
    rw [Location.steps, hnil]
    exact List.mem_singleton_self _
  have habsolute : l.isAbsolute = false := by
    rw [Location.isAbsolute, decide_eq_false_iff_not]
    intro hhead
    obtain ⟨rest, hrest⟩ := List.head?_eq_some_iff.1 hhead
    refine (hsteps [] ?_).1.1 rfl
    rw [Location.steps, hrest, Location.stepsOf, if_pos rfl]
    exact List.mem_cons_self
  have hfind : v.find true l = .ok (.present (v.here ++ l.steps)) := by
    refine find_eq_ok.2 ⟨hnul, hempty, hlong, ?_⟩
    rw [habsolute]
    exact walk_of_get? linkLimit h ht hsteps
  rw [get, hfind]
  simp only [h]

end Volume

end TemplateCatalog
