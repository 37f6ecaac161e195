import TemplateCatalog.Proofs.Catalog.Inheritance
import TemplateCatalog.Proofs.Catalog.Sharing
import TemplateCatalog.Proofs.Template.Wording

/-!
# Lookups in a catalog that changes

Any number of lookups go on while others rebuild the catalog, read it and change the
disk. A lookup reads the directory of the version, asking the disk one question after
another; then it takes what is published, in one step and once, and puts the detail
together. So whatever is published before it returns, all that it inherits is from one
snapshot, and that was the current one when it was taken.

* `Version.runWith_lookup`: if nobody publishes, a lookup is what the snapshot shows of the
  version, question by question;
* `Version.comesTo_lookup`: a lookup that gives a detail was told what the directory of the
  version says, and then one snapshot;
* `Serving.consistent`: every detail that is ever returned inherits from one snapshot only.
-/

namespace TemplateCatalog

/-- A question to a catalog that others use at the same time. -/
inductive CatalogQuestion where
  | disk (q : DiskQuestion)
  /-- What is published. -/
  | published

namespace CatalogQuestion

/-- What an answer to a question is. -/
@[reducible] def Answer : CatalogQuestion → Type
  | disk q => q.Answer
  | published => Snapshot

/-- The questions that are left to the disk while a snapshot stays published. -/
def held (s : Snapshot) : ∀ q : CatalogQuestion, Inquiry q.Answer
  | disk q => Interaction.question q
  | published => pure s

/-- An answer of the disk. -/
def onDisk (p : (q : DiskQuestion) × q.Answer) : (q : CatalogQuestion) × q.Answer := ⟨disk p.1, p.2⟩

end CatalogQuestion

/-- A computation that reads from a catalog. -/
abbrev Browsing := Interaction CatalogQuestion CatalogQuestion.Answer

namespace Browsing

variable {α β : Type}

/-- An inquiry asks only the disk. -/
def ofInquiry (i : Inquiry α) : Browsing α :=
  i.runWith fun q => Interaction.question (CatalogQuestion.disk q)

/-- Takes what is published. -/
def published : Browsing Snapshot := Interaction.question CatalogQuestion.published

theorem runWith_ofInquiry_bind (s : Snapshot) (i : Inquiry α) (f : α → Browsing β) :
    (ofInquiry i >>= f).runWith (CatalogQuestion.held s) =
      i >>= fun a => (f a).runWith (CatalogQuestion.held s) := by
  induction i with
  | done a => rfl
  | ask q next ih => exact congrArg (Interaction.ask q) (funext ih)

/-- An inquiry is told nothing but answers of the disk. -/
theorem comesTo_ofInquiry {i : Inquiry α} {told : List ((q : CatalogQuestion) × q.Answer)} {a : α}
    (h : (ofInquiry i).ComesTo told a) :
    ∃ own, told = own.map CatalogQuestion.onDisk ∧ i.ComesTo own a := by
  induction i generalizing told with
  | done b =>
    obtain ⟨rfl, rfl⟩ := Interaction.comesTo_pure_iff.1 h
    exact ⟨[], rfl, .done a⟩
  | ask q next ih =>
    cases h with
    | @ask _ _ _ _ answer h =>
      obtain ⟨own, rfl, hown⟩ := ih answer h
      exact ⟨⟨q, answer⟩ :: own, rfl, .ask (A := DiskQuestion.Answer) answer hown⟩

end Browsing

namespace Version

/-- Looks a version up. -/
def lookup (root : Location) (t v : String) : Browsing (Except Failure Version) := do
  match ← Browsing.ofInquiry (inquire root t v) with
  | .error f => return .error f
  | .ok c =>
    let s ← Browsing.published
    return .ok (resolve root t v (s.find? t) c)

variable {root : Location} {t v : String}

/-- A lookup while a snapshot stays published is what that snapshot shows of the version. -/
theorem runWith_lookup (s : Snapshot) (root : Location) (t v : String) :
    (lookup root t v).runWith (CatalogQuestion.held s) = s.version root t v := by
  rw [lookup, Browsing.runWith_ofInquiry_bind, Snapshot.version]
  refine congrArg (inquire root t v >>= ·) (funext fun r => ?_)
  cases r <;> rfl

/-- What a lookup is told that gives a detail: what the disk says of the directory of the
    version, and one snapshot, from which the detail is put together. -/
theorem comesTo_lookup {told : List ((q : CatalogQuestion) × q.Answer)} {detail : Version}
    (h : (lookup root t v).ComesTo told (.ok detail)) :
    ∃ own c s, told = own.map CatalogQuestion.onDisk ++ [⟨.published, s⟩] ∧
      (inquire root t v).ComesTo own (.ok c) ∧ detail = resolve root t v (s.find? t) c := by
  obtain ⟨told₁, found, told₂, rfl, hfound, h⟩ := Interaction.comesTo_bind.1 h
  obtain ⟨own, rfl, hown⟩ := Browsing.comesTo_ofInquiry hfound
  cases found with
  | error f =>
    obtain ⟨-, hdetail⟩ := Interaction.comesTo_pure_iff.1 h
    cases hdetail
  | ok c =>
    obtain ⟨told₃, s, told₄, rfl, htaken, h⟩ := Interaction.comesTo_bind.1 h
    obtain ⟨rfl, hdetail⟩ := Interaction.comesTo_pure_iff.1 h
    obtain rfl := Interaction.comesTo_question_iff.1 htaken
    exact ⟨own, c, s, by rw [List.append_nil], hown, Except.ok.inj hdetail⟩

/-- What a lookup finds in a directory is what the directory says at the end of the answers. -/
theorem contents_of_comesTo {own : List ((q : DiskQuestion) × q.Answer)} {c : Contents}
    (h : (inquire root t v).ComesTo own (.ok c)) :
    ∃ own', (Contents.inquire root t v).ComesTo own' (.ok c) := by
  rw [inquire] at h
  split at h
  · cases (Interaction.comesTo_pure_iff.1 h).2
  split at h
  · cases (Interaction.comesTo_pure_iff.1 h).2
  obtain ⟨_, there, own', -, -, h⟩ := Interaction.comesTo_bind.1 h
  split at h
  · exact ⟨own', h⟩
  obtain ⟨_, there, _, -, -, h⟩ := Interaction.comesTo_bind.1 h
  split at h
  · cases (Interaction.comesTo_pure_iff.1 h).2
  · cases (Interaction.comesTo_pure_iff.1 h).2

/-- A detail with these contents of its own, which has the rest from a snapshot. -/
structure Inherits (root : Location) (t v : String) (s : Snapshot) (c : Contents)
    (detail : Version) : Prop where
  templateId : detail.templateId = t
  version : detail.version = v
  /-- An own configuration tells name, category, description and default version. -/
  own : ∀ config, c.config = some config → detail.told = config.told
  /-- Without one, the template in the snapshot tells all four. -/
  inherited : ∀ parent, c.config = none → s.find? t = some parent →
    detail.told = (parent.name, parent.category, parent.description, parent.defaultVersion)
  untold : c.config = none → s.find? t = none → detail.told = ("", "", "", "")
  ownIcon : ∀ path, c.iconPath = some path → detail.iconPath = some path
  inheritedIcon : ∀ parent, c.iconPath = none → s.find? t = some parent →
    detail.iconPath = parent.iconPath
  noIcon : c.iconPath = none → s.find? t = none → detail.iconPath = none
  /-- The template is told to be missing exactly if something would be inherited and it is
      not in the snapshot. -/
  missing : missingParent root t v ∈ detail.diagnostics ↔
    (c.config = none ∨ c.iconPath = none) ∧ s.find? t = none

/-- A detail is put together from its own directory and one snapshot. -/
theorem inherits_resolve {own : List ((q : DiskQuestion) × q.Answer)} {c : Contents}
    (h : (inquire root t v).ComesTo own (.ok c)) (s : Snapshot) :
    Inherits root t v s c (resolve root t v (s.find? t) c) := by
  obtain ⟨own', hcontents⟩ := contents_of_comesTo h
  have hown := Contents.missingParent_not_mem hcontents
  refine
    { templateId := rfl
      version := rfl
      own := fun config hc => ?_
      inherited := fun parent hc hp => ?_
      untold := fun hc hp => ?_
      ownIcon := fun path hi => ?_
      inheritedIcon := fun parent hi hp => ?_
      noIcon := fun hi hp => ?_
      missing := ?_ }
  · rw [told, resolve, hc]
    rfl
  · rw [told, resolve, hc, hp]
    rfl
  · rw [told, resolve, hc, hp]
    rfl
  · rw [resolve, hi]
    rfl
  · rw [resolve, hi, hp]
    rfl
  · rw [resolve, hi, hp]
    rfl
  · have hinherits : inherits c = true ↔ c.config = none ∨ c.iconPath = none := by
      rw [inherits, Bool.or_eq_true, Option.isNone_iff_eq_none, Option.isNone_iff_eq_none]
    have hasked : (inherits c && (s.find? t).isNone) = true ↔
        (c.config = none ∨ c.iconPath = none) ∧ s.find? t = none := by
      rw [Bool.and_eq_true, hinherits, Option.isNone_iff_eq_none]
    rw [← hasked, resolve, List.mem_append, or_iff_right hown]
    split
    · next hyes => exact iff_of_true List.mem_cons_self hyes
    · next hno => exact iff_of_false List.not_mem_nil hno

end Version

/-- How far a lookup is. -/
inductive Visit where
  /-- It asks, with this left to ask. -/
  | asking (rest : Browsing (Except Failure Version))
  | over

/-- A catalog that is shared by rebuilds `ι` and lookups `κ`. -/
structure Serving (ι κ : Type) where
  index : Sharing ι
  visit? : κ → Option Visit

namespace Serving

/-- What is seen of one lookup. -/
inductive Moment where
  | began (template version : String)
  | answered (q : CatalogQuestion) (a : q.Answer)
  | returned (r : Except Failure Version)

/-- What an onlooker sees of rebuilds `ι`, readers `ρ` and lookups `κ`. -/
inductive Event (ι ρ κ : Type) where
  | index (e : Sharing.Event ι ρ)
  | lookup (call : κ) (m : Moment)

variable {ι ρ κ : Type}

/-- A catalog that nobody has used. -/
def fresh : Serving ι κ := ⟨Sharing.fresh, fun _ => none⟩

/-! ## What is seen -/

/-- What is seen of a lookup that has been told these answers. -/
def Moment.told (t v : String) (told : List ((q : CatalogQuestion) × q.Answer)) : List Moment :=
  .began t v :: told.map fun p => .answered p.1 p.2

/-- One answer more is seen after those before it. -/
theorem Moment.told_concat (t v : String) (l : List ((q : CatalogQuestion) × q.Answer))
    (q : CatalogQuestion) (a : q.Answer) :
    told t v (l ++ [⟨q, a⟩]) = told t v l ++ [.answered q a] := by
  rw [told, List.map_append]
  rfl

/-- The snapshot that is published. -/
def Event.published? : Event ι ρ κ → Option Snapshot
  | index e => e.publication?.map (·.1)
  | lookup .. => none

/-- The snapshot that is current after a log: the last one published in it, and the empty one
    before any. -/
def current (log : List (Event ι ρ κ)) : Snapshot :=
  (log.filterMap Event.published?).getLast?.getD .empty

theorem current_concat (log : List (Event ι ρ κ)) (e : Event ι ρ κ) :
    current (log ++ [e]) = e.published?.getD (current log) := by
  rw [current, List.filterMap_append]
  cases h : e.published? with
  | none => simp [h, current]
  | some snapshot => simp [h]

variable [DecidableEq κ] {log : List (Event ι ρ κ)}

/-- What is seen of a lookup. -/
def Event.moment? (call : κ) : Event ι ρ κ → Option Moment
  | index _ => none
  | lookup c m => if c = call then some m else none

/-- All that is seen of a lookup. -/
def moments (call : κ) (log : List (Event ι ρ κ)) : List Moment :=
  log.filterMap (Event.moment? call)

theorem moments_index (call : κ) (e : Sharing.Event ι ρ) :
    moments call (log ++ [.index e]) = moments call log := by
  rw [moments, List.filterMap_append]
  exact List.append_nil _

theorem moments_lookup (call : κ) (m : Moment) :
    moments call (log ++ [.lookup call m]) = moments call log ++ [m] := by
  rw [moments, List.filterMap_append]
  simp [moments, Event.moment?]

theorem moments_lookup_of_ne {c call : κ} (h : c ≠ call) (m : Moment) :
    moments c (log ++ [.lookup call m]) = moments c log := by
  rw [moments, List.filterMap_append]
  simp [moments, Event.moment?, Ne.symm h]

/-- Whatever is seen of a lookup was an event. -/
theorem split_of_moments {call : κ} {m : Moment} {before after : List Moment}
    (h : moments call log = before ++ m :: after) :
    ∃ earlier later, log = earlier ++ .lookup call m :: later ∧ moments call earlier = before ∧
      moments call later = after := by
  obtain ⟨earlier, rest, rfl, hbefore, hrest⟩ := List.filterMap_eq_append_iff.1 h
  obtain ⟨quiet, e, later, rfl, hquiet, he, hafter⟩ := List.filterMap_eq_cons_iff.1 hrest
  refine ⟨earlier ++ quiet, later, ?_, ?_, hafter⟩
  · cases e with
    | index e => cases he
    | lookup c m' =>
      rw [Event.moment?] at he
      split at he
      · next hc =>
        cases he
        rw [hc, List.append_assoc]
      · cases he
  · rw [moments, List.filterMap_append, List.filterMap_eq_nil_iff.2 hquiet, List.append_nil]
    exact hbefore

/-! ## Steps -/

/-- A lookup comes to a point. -/
def set (s : Serving ι κ) (call : κ) (w : Visit) : Serving ι κ :=
  { s with visit? := Function.update s.visit? call (some w) }

theorem visit?_set_self (s : Serving ι κ) (call : κ) (w : Visit) :
    (s.set call w).visit? call = some w := Function.update_self ..

theorem visit?_set_of_ne (s : Serving ι κ) {c call : κ} (h : c ≠ call) (w : Visit) :
    (s.set call w).visit? c = s.visit? c := Function.update_of_ne h ..

variable [DecidableEq ι]

/-- The steps of a catalog of the templates at `root`. What the disk answers is anything, for
    others may change it. -/
inductive Step (root : Location) : Serving ι κ → Event ι ρ κ → Serving ι κ → Prop
  | index {s : Serving ι κ} {e : Sharing.Event ι ρ} {index' : Sharing ι} :
    Sharing.Step root s.index e index' → Step root s (.index e) { s with index := index' }
  | begin {s : Serving ι κ} (call : κ) (t v : String) :
    s.visit? call = none →
    Step root s (.lookup call (.began t v)) (s.set call (.asking (Version.lookup root t v)))
  | look {s : Serving ι κ} {q : DiskQuestion}
    {next : (CatalogQuestion.disk q).Answer → Browsing (Except Failure Version)} (call : κ)
    (a : q.Answer) :
    s.visit? call = some (.asking (.ask (.disk q) next)) →
    Step root s (.lookup call (.answered (.disk q) a)) (s.set call (.asking (next a)))
  | take {s : Serving ι κ}
    {next : CatalogQuestion.published.Answer → Browsing (Except Failure Version)} (call : κ) :
    s.visit? call = some (.asking (.ask .published next)) →
    Step root s (.lookup call (.answered .published s.index.published))
      (s.set call (.asking (next s.index.published)))
  | finish {s : Serving ι κ} {r : Except Failure Version} (call : κ) :
    s.visit? call = some (.asking (.done r)) →
    Step root s (.lookup call (.returned r)) (s.set call .over)

/-! ## What a run keeps -/

variable {root : Location} {s s' : Serving ι κ} {e : Event ι ρ κ}

/-- What has been seen of a lookup that is this far. -/
def Standing (root : Location) (seen : List Moment) : Option Visit → Prop
  | none => seen = []
  | some (.asking rest) =>
    ∃ t v told, seen = Moment.told t v told ∧ (Version.lookup root t v).Reaches told rest
  | some .over =>
    ∃ t v told r, seen = Moment.told t v told ++ [.returned r] ∧
      (Version.lookup root t v).Reaches told (.done r)

/-- What every run of a shared catalog keeps. -/
structure Kept (root : Location) (log : List (Event ι ρ κ)) (s : Serving ι κ) : Prop where
  current : s.index.published = Serving.current log
  standing : ∀ call, Standing root (moments call log) (s.visit? call)

/-- What is published is what is current after the log. -/
theorem Step.current (hs : Step root s e s') (h : s.index.published = Serving.current log) :
    s'.index.published = Serving.current (log ++ [e]) := by
  rw [current_concat, ← h]
  cases hs with
  | index hs => cases hs <;> rfl
  | _ => rfl

omit [DecidableEq ι] in
/-- A lookup that comes to a point stands there, and the others stand as before. -/
theorem standing_set {call : κ} {m : Moment} {w : Visit}
    (h : ∀ c, Standing root (moments c log) (s.visit? c))
    (hw : Standing root (moments call log ++ [m]) (some w)) (c : κ) :
    Standing root (moments c (log ++ [.lookup call m])) ((s.set call w).visit? c) := by
  by_cases hc : c = call
  · subst hc
    rw [moments_lookup, visit?_set_self]
    exact hw
  · rw [moments_lookup_of_ne hc, visit?_set_of_ne _ hc]
    exact h c

/-- A step moves one lookup on, if any, and leaves the others standing. -/
theorem Step.standing (hs : Step root s e s')
    (h : ∀ c, Standing root (moments c log) (s.visit? c)) (c : κ) :
    Standing root (moments c (log ++ [e])) (s'.visit? c) := by
  -- The walks of the index are no moment of a lookup; each other step is one of its own.
  cases hs with
  | index hs =>
    rw [moments_index]
    exact h c
  | begin call t v hnone =>
    have hc := h call
    rw [hnone] at hc
    refine standing_set h ?_ c
    rw [show moments call log = [] from hc]
    exact ⟨t, v, [], rfl, .start⟩
  | look call a hask =>
    have hc := h call
    rw [hask] at hc
    obtain ⟨t, v, told, hseen, hreach⟩ := hc
    refine standing_set h ?_ c
    refine ⟨t, v, _, ?_, .answer (A := CatalogQuestion.Answer) a hreach⟩
    rw [hseen, Moment.told_concat]
  | take call hask =>
    have hc := h call
    rw [hask] at hc
    obtain ⟨t, v, told, hseen, hreach⟩ := hc
    refine standing_set h ?_ c
    refine ⟨t, v, _, ?_, .answer _ hreach⟩
    rw [hseen, Moment.told_concat]
  | finish call hdone =>
    have hc := h call
    rw [hdone] at hc
    obtain ⟨t, v, told, hseen, hreach⟩ := hc
    refine standing_set h ?_ c
    exact ⟨t, v, told, _, by rw [hseen], hreach⟩

theorem kept_of_run (h : Run (Step root) fresh log s) : Kept root log s := by
  refine h.invariant ⟨rfl, fun call => ?_⟩ fun hk hs => ?_
  · rfl
  · exact ⟨hs.current hk.current, hs.standing hk.standing⟩

/-! ## What is returned -/

/-- A lookup that gives a detail, as it is seen before it returns: it was told what the
    directory of the version says, then it took one snapshot, which was current at that
    moment, between the beginning of the lookup and its return. -/
structure Consistent (root : Location) (call : κ) (log : List (Event ι ρ κ)) (t v : String)
    (snapshot : Snapshot) (detail : Version) : Prop where
  taken : ∃ before earlier later,
    log = before ++ .lookup call (.began t v) ::
      (earlier ++ .lookup call (.answered .published snapshot) :: later) ∧
    snapshot = current (before ++ .lookup call (.began t v) :: earlier)
  inherits : ∃ own c,
    moments call log =
      Moment.told t v (own.map CatalogQuestion.onDisk ++ [⟨.published, snapshot⟩]) ∧
    (Version.inquire root t v).ComesTo own (.ok c) ∧ Version.Inherits root t v snapshot c detail

/-- **One detail, one snapshot**: however lookups, rebuilds and changes of the disk mix, every
    detail that is returned inherits from one snapshot only, which was current at a moment
    between the beginning of the lookup and its return; and its template is told to be
    missing exactly if something would be inherited and it is not in that snapshot. -/
theorem consistent {call : κ} {front after : List (Event ι ρ κ)} {detail : Version}
    (h : Run (Step root) fresh log s)
    (hlog : log = front ++ .lookup call (.returned (Except.ok detail)) :: after) :
    ∃ t v snapshot, Consistent root call front t v snapshot detail := by
  obtain ⟨s₁, s₂, hfront, hreturn⟩ := h.split hlog
  cases hreturn with
  | finish _ hdone =>
    -- Before it returned, the lookup had asked all its questions.
    have hstanding := (kept_of_run hfront).standing call
    rw [hdone] at hstanding
    obtain ⟨t, v, told, hseen, hreach⟩ := hstanding
    have hcomes := hreach.comesTo (.done (Except.ok detail))
    rw [List.append_nil] at hcomes
    obtain ⟨own, c, snapshot, rfl, hown, rfl⟩ := Version.comesTo_lookup hcomes
    refine ⟨t, v, snapshot, ?_, own, c, hseen, hown, Version.inherits_resolve hown snapshot⟩
    -- Among its moments are that it began and, after that, that it took the snapshot.
    have hbegan : moments call front = [] ++ .began t v ::
        ((own.map CatalogQuestion.onDisk).map (fun p => .answered p.1 p.2) ++
          [.answered .published snapshot]) := by
      rw [hseen, Moment.told_concat]
      rfl
    obtain ⟨before, rest, rfl, -, hrest⟩ := split_of_moments hbegan
    obtain ⟨earlier, later, rfl, -, -⟩ := split_of_moments hrest
    refine ⟨before, earlier, later, rfl, ?_⟩
    have htaken : before ++ .lookup call (.began t v) ::
        (earlier ++ .lookup call (.answered .published snapshot) :: later) =
        (before ++ .lookup call (.began t v) :: earlier) ++
          .lookup call (.answered .published snapshot) :: later := by
      rw [List.append_assoc, List.cons_append]
    obtain ⟨s₃, s₄, hearlier, htake⟩ := hfront.split htaken
    cases htake
    exact (kept_of_run hearlier).current

/-! ## Lookups that go on -/

/-- The index goes on while lookups wait. -/
theorem run_index {start : Serving ι κ} {more : List (Sharing.Event ι ρ)} {index' : Sharing ι}
    (h : Run (Step root) start log s) (hindex : Run (Sharing.Step root) s.index more index') :
    Run (Step root) start (log ++ more.map .index) { s with index := index' } := by
  induction hindex with
  | nil => rwa [List.map_nil, List.append_nil]
  | step _ hs ih =>
    rw [List.map_append, ← List.append_assoc]
    exact ih.step (.index hs)

/-- A lookup goes on through an inquiry if a disk answers all its questions. -/
theorem exists_read {α : Type} {start : Serving ι κ} (call : κ) {i : Inquiry α}
    {f : α → Browsing (Except Failure Version)} (d : Disk) (h : Run (Step root) start log s)
    (hask : s.visit? call = some (.asking (Browsing.ofInquiry i >>= f))) :
    ∃ (more : List (Event ι ρ κ)) (s' : Serving ι κ), Run (Step root) start (log ++ more) s' ∧
      s'.index = s.index ∧ s'.visit? call = some (.asking (f (i.run d))) := by
  induction i generalizing log s with
  | done a => exact ⟨[], s, by rwa [List.append_nil], rfl, hask⟩
  | ask q next ih =>
    obtain ⟨more, s', hrun, hindex, hleft⟩ :=
      ih (d q) (h.step (.look call (d q) hask)) (visit?_set_self ..)
    rw [List.append_assoc] at hrun
    exact ⟨_, s', hrun, hindex, hleft⟩

end Serving

/-! ## A lookup that is overtaken -/

namespace Disk

/-- The version on the shelf has an icon and nothing else. -/
theorem shelf_version : shelf.entries (((Location.ofString "shelf").child "mysql").child "1") =
    .ok [⟨"catalogIcon.svg", .ofString "shelf/mysql/1/catalogIcon.svg", false⟩] :=
  (entries_of_names_singleton rfl).trans (congrArg Except.ok (by decide +kernel))

theorem run_inquire_shelf : (Version.inquire (.ofString "shelf") "mysql" "1").run shelf =
    .ok (shelf.contents (((Location.ofString "shelf").child "mysql").child "1")
      (Contents.pathOf "mysql" "1")) := by
  rw [Version.run_inquire, if_neg (by decide), if_neg (by decide), if_pos (by decide),
    Contents.run_inquire, shelf_version]

end Disk

namespace Serving

/-- A lookup on the shelf takes the name of the template from the first generation, though
    before it returns a second one is published, without any template. -/
theorem consistent_overtaken :
    ∃ (front : List (Event Nat Unit Unit)) (s : Serving Nat Unit) (detail : Version),
      Run (Step (.ofString "shelf")) fresh
        (front ++ [.lookup () (.returned (Except.ok detail))]) s ∧
      s.index.published.generation = 2 ∧ s.index.published.find? "mysql" = none ∧
      detail.told = ("MySQL", "", "", "") ∧
      ∃ t v snapshot, Consistent (.ofString "shelf") () front t v snapshot detail := by
  have hbegun : Run (Step (.ofString "shelf")) (fresh : Serving Nat Unit)
    ([.lookup () (.began "mysql" "1")] : List (Event Nat Unit Unit)) _ :=
    Run.nil.step (.begin () "mysql" "1" rfl)
  -- While the lookup waits, the shelf is published.
  have hunused : Run (Sharing.Step (.ofString "shelf")) (Sharing.fresh : Sharing Nat)
    ([] : List (Sharing.Event Nat Unit)) Sharing.fresh := .nil
  obtain ⟨first, index₁, hfirst, hpublished₁, hothers⟩ :=
    Sharing.exists_rebuilt 0 Disk.shelf 7 hunused rfl
  -- It reads the directory of the version, and takes what is published.
  obtain ⟨own, s₁, hread, hsame, hleft⟩ :=
    exists_read () Disk.shelf (run_index hbegun hfirst) rfl
  rw [Disk.run_inquire_shelf] at hleft
  have htaken := hread.step (.take () hleft)
  -- Before it returns, a rebuild finds no templates any more.
  have hnone : index₁.rebuild? 1 = none := hothers 1 (by decide)
  have hagain : Run (Sharing.Step (.ofString "shelf")) index₁
    ([] : List (Sharing.Event Nat Unit)) index₁ := .nil
  obtain ⟨second, index₂, hsecond, hpublished₂, -⟩ :=
    Sharing.exists_rebuilt 1 Disk.bare 8 hagain hnone
  have hwas : s₁.index = index₁ := hsame
  rw [← hwas] at hsecond
  have hreturned := (run_index htaken hsecond).step (.finish () rfl)
  refine ⟨_, _, _, hreturned, ?_, ?_, ?_, consistent hreturned rfl⟩
  · show index₂.published.generation = 2
    rw [hpublished₂, hpublished₁]
    rfl
  · show index₂.published.find? "mysql" = none
    rw [hpublished₂]
    rfl
  · have hconfig :
        Disk.shelf.config? (((Location.ofString "shelf").child "mysql").child "1") = none := by
      rw [Disk.config?, Disk.filesOf, Disk.files, Disk.shelf_version]
      decide
    have hparent : s₁.index.published.find? "mysql" =
        some (Disk.shelf.summary ((Location.ofString "shelf").child "mysql") "mysql") := by
      rw [hwas, hpublished₁]
      exact Survey.find?_templates.2 ⟨Disk.shelf_publishes, rfl⟩
    rw [Version.told_resolve_of_none hconfig, hparent]
    decide +kernel

end Serving

end TemplateCatalog
