import Mathlib.Data.List.Forall2
import TemplateCatalog.Proofs.Decoding.Record
import TemplateCatalog.Template.Question

/-!
# Questions of a document

A document asks the questions of the one section of it that declares any. A section declares
questions if it is a mapping with the key `questions`, whatever tags are on it; all others are
passed over, of whatever form. Declarations are read in the order of the document, so the first
that holds no questions is what is wrong with it; only if all hold some, or none at all, their
number counts.

* `Question.Holds`, `Question.HoldsList`: the questions that a value holds, told by its entries;
* `Question.Declared`: the sections that declare questions, in order;
* `Question.Asks`: what is asked by a document, case by case;
* `Question.listOfText_asks`: that is what is read of a text.
-/

namespace TemplateCatalog

open Decoding Yaml

namespace Question

/-! ## Fields of a question -/

/-- The text of a scalar in its own form; nothing for null. -/
inductive ScalarText : Value → Option String → Prop
  | null : ScalarText .null none
  | string (s : String) : ScalarText (.string s) (some s)
  | bool (b : Bool) : ScalarText (.bool b) (some (toString b))
  | number (n : Decimal.Number) : ScalarText (.number n) (some (Value.numberText n))

/-- From what a field was before some entries to what it is after them: an entry of this name
    gives it a value, which it may not have yet. -/
inductive Once {α : Type} (name : String) (holds : Value → α → Prop) :
    Option α → List (Value × Value) → Option α → Prop
  | nil {o : Option α} : Once name holds o [] o
  | other {o o' : Option α} {k v : Value} {rest : List (Value × Value)} :
    k.untagged ≠ .string name → Once name holds o rest o' → Once name holds o ((k, v) :: rest) o'
  | here {o' : Option α} {a : α} {k v : Value} {rest : List (Value × Value)} :
    k.untagged = .string name → holds v a → Once name holds (some a) rest o' →
    Once name holds none ((k, v) :: rest) o'

/-- Entries fill a draft: their keys are texts, and each field is given once at most. Keys that a
    question does not have may have any value. -/
structure Draft.Fills (d : Draft) (entries : List (Value × Value)) (d' : Draft) : Prop where
  named : ∀ e ∈ entries, ∃ key, e.1.untagged = .string key
  setting : Once "variable" (fun v s => v.untagged = .string s) d.setting entries d'.setting
  /-- A description is a scalar, and so is a label; null is none. -/
  description : Once "description" (fun v s => ∃ o, ScalarText v o ∧ s = o.getD "") d.description
    entries d'.description
  label : Once "label" (fun v s => ∃ o, ScalarText v o ∧ s = o.getD "") d.label entries d'.label
  required : Once "required" (fun v b => v.untagged = .bool b) d.required entries d'.required
  default : Once "default" ScalarText d.default entries d'.default
  kind : Once "type" (fun v s => v.untagged = .string s) d.kind entries d'.kind

/-- The question that a value holds. -/
inductive Holds (v : Value) : Question → Prop
  | null : v.untagged = .null → Holds v ⟨"", "", "", false, none, ""⟩
  | mapping {entries : List (Value × Value)} {d : Draft} :
    v.untagged = .mapping entries → Draft.empty.Fills entries d → Holds v d.question

/-- The questions that a value holds: one for each item, in order. -/
inductive HoldsList (v : Value) : List Question → Prop
  | null : v.untagged = .null → HoldsList v []
  | sequence {items : List Value} {list : List Question} :
    v.untagged = .sequence items → List.Forall₂ Holds items list → HoldsList v list

section Fields

variable {α : Type} {name key : String} {read : Value → Except Mistake α}
  {holds : Value → α → Prop} {o o' : Option α} {k v : Value} {rest entries : List (Value × Value)}

theorem scalarText_eq_ok {t : Option String} : scalarText v = .ok t ↔ ScalarText v t := by
  constructor
  · intro h
    rcases v with _ | b | n | s | _ | _ | _
    · cases h
      exact .null
    · cases h
      exact .bool b
    · cases h
      exact .number n
    · cases h
      exact .string s
    · cases h
    · cases h
    · cases h
  · rintro (_ | _ | _ | _)
    · rfl
    · rfl
    · rfl
    · rfl

theorem scalarText_getD_eq_ok {s : String} :
    (scalarText v).map (·.getD "") = .ok s ↔ ∃ t, ScalarText v t ∧ s = t.getD "" := by
  simp only [← scalarText_eq_ok]
  rcases scalarText v with m | t
  · simp [Except.map]
  · simp [Except.map, eq_comm]

/-- What an entry of this key does to the field of a name. -/
def given (name key : String) (o : Option α) (new : Except Mistake α) :
    Except Mistake (Option α) :=
  if key = name then once name o new else .ok o

/-- One more entry is read before the rest. -/
theorem once_cons (hread : ∀ v a, read v = .ok a ↔ holds v a) (hkey : k.untagged = .string key) :
    Once name holds o ((k, v) :: rest) o' ↔
      ∃ mid, given name key o (read v) = .ok mid ∧ Once name holds mid rest o' := by
  by_cases hname : key = name
  · rw [given, if_pos hname]
    have hhere : k.untagged = .string name := hkey.trans (congrArg _ hname)
    constructor
    · rintro (_ | ⟨hne, -⟩ | ⟨-, hv, hrest⟩)
      · exact absurd hhere hne
      · exact ⟨_, by rw [once, (hread _ _).2 hv]; rfl, hrest⟩
    · rintro ⟨mid, hmid, hrest⟩
      rcases o with _ | a
      · rcases hv : read v with m | a
        · rw [hv] at hmid
          cases hmid
        · rw [hv] at hmid
          cases hmid
          exact .here hhere ((hread v a).1 hv) hrest
      · -- A field that was given before is not given again.
        cases hmid
  · rw [given, if_neg hname]
    have hother : k.untagged ≠ .string name := by
      rw [hkey]
      exact fun heq => hname (Value.string.inj heq)
    constructor
    · rintro (_ | ⟨-, hrest⟩ | ⟨hhere, -, -⟩)
      · exact ⟨o, rfl, hrest⟩
      · exact absurd hhere hother
    · rintro ⟨mid, hmid, hrest⟩
      cases hmid
      exact .other hother hrest

end Fields

/-- What an entry does to a draft is what it does to each field. -/
theorem Draft.set_eq_ok {d d' : Draft} {key : String} {v : Value} :
    d.set key v = .ok d' ↔
      given "variable" key d.setting (textOf v) = .ok d'.setting ∧
      given "description" key d.description ((scalarText v).map (·.getD "")) = .ok d'.description ∧
      given "label" key d.label ((scalarText v).map (·.getD "")) = .ok d'.label ∧
      given "required" key d.required (boolOf v) = .ok d'.required ∧
      given "default" key d.default (scalarText v) = .ok d'.default ∧
      given "type" key d.kind (textOf v) = .ok d'.kind := by
  rcases d' with ⟨setting, description, label, required, default, kind⟩
  rcases d with ⟨setting', description', label', required', default', kind'⟩
  unfold Draft.set
  split
  -- A key that names no field leaves all of them.
  case h_7 => simp_all [given, pure, Except.pure]
  all_goals
    rw [bind_pure_eq_ok]
    simp only [given, Draft.mk.injEq, reduceIte, String.reduceEq, Except.ok.injEq]
    grind

namespace Draft.Fills

variable {d d' : Draft} {key : String} {k v : Value} {rest : List (Value × Value)}

/-- No entries leave a draft as it is. -/
theorem nil_iff : d.Fills [] d' ↔ d = d' := by
  constructor
  · rintro ⟨-, hsetting, hdescription, hlabel, hrequired, hdefault, hkind⟩
    rcases d with ⟨⟩
    rcases d' with ⟨⟩
    cases hsetting
    cases hdescription
    cases hlabel
    cases hrequired
    cases hdefault
    cases hkind
    rfl
  · rintro rfl
    exact ⟨nofun, .nil, .nil, .nil, .nil, .nil, .nil⟩

/-- One more entry is set before the rest. -/
theorem cons_iff (hkey : k.untagged = .string key) :
    d.Fills ((k, v) :: rest) d' ↔ ∃ mid, d.set key v = .ok mid ∧ mid.Fills rest d' := by
  constructor
  · -- Each field is read on its own, and the six that come of it are one draft.
    intro h
    obtain ⟨setting, hsetting, hsetting'⟩ := (once_cons (fun _ _ => textOf_eq_ok) hkey).1 h.setting
    obtain ⟨description, hdescription, hdescription'⟩ :=
      (once_cons (fun _ _ => scalarText_getD_eq_ok) hkey).1 h.description
    obtain ⟨label, hlabel, hlabel'⟩ :=
      (once_cons (fun _ _ => scalarText_getD_eq_ok) hkey).1 h.label
    obtain ⟨required, hrequired, hrequired'⟩ :=
      (once_cons (fun _ _ => boolOf_eq_ok) hkey).1 h.required
    obtain ⟨default, hdefault, hdefault'⟩ :=
      (once_cons (fun _ _ => scalarText_eq_ok) hkey).1 h.default
    obtain ⟨kind, hkind, hkind'⟩ := (once_cons (fun _ _ => textOf_eq_ok) hkey).1 h.kind
    exact ⟨⟨setting, description, label, required, default, kind⟩,
      Draft.set_eq_ok.2 ⟨hsetting, hdescription, hlabel, hrequired, hdefault, hkind⟩,
      ⟨(List.forall_mem_cons.1 h.named).2, hsetting', hdescription', hlabel', hrequired',
        hdefault', hkind'⟩⟩
  · rintro ⟨mid, hset, hrest⟩
    obtain ⟨hsetting, hdescription, hlabel, hrequired, hdefault, hkind⟩ := Draft.set_eq_ok.1 hset
    exact
      { named := List.forall_mem_cons.2 ⟨⟨key, hkey⟩, hrest.named⟩
        setting := (once_cons (fun _ _ => textOf_eq_ok) hkey).2 ⟨_, hsetting, hrest.setting⟩
        description := (once_cons (fun _ _ => scalarText_getD_eq_ok) hkey).2
          ⟨_, hdescription, hrest.description⟩
        label := (once_cons (fun _ _ => scalarText_getD_eq_ok) hkey).2 ⟨_, hlabel, hrest.label⟩
        required := (once_cons (fun _ _ => boolOf_eq_ok) hkey).2 ⟨_, hrequired, hrest.required⟩
        default := (once_cons (fun _ _ => scalarText_eq_ok) hkey).2 ⟨_, hdefault, hrest.default⟩
        kind := (once_cons (fun _ _ => textOf_eq_ok) hkey).2 ⟨_, hkind, hrest.kind⟩ }

end Draft.Fills

/-- The entries of a mapping are read exactly if they fill the draft. -/
theorem ofEntries_eq_ok {d d' : Draft} {entries : List (Value × Value)} :
    record.ofEntries d entries = .ok d' ↔ d.Fills entries d' := by
  induction entries generalizing d with
  | nil =>
    rw [Draft.Fills.nil_iff, Record.ofEntries, Except.ok.injEq]
  | cons e rest ih =>
    obtain ⟨k, v⟩ := e
    by_cases hkey : ∃ key, k.untagged = .string key
    · obtain ⟨key, hkey⟩ := hkey
      simp only [Draft.Fills.cons_iff hkey, ← ih, Record.ofEntries_cons_eq_ok hkey]
      rfl
    · -- A key that is no text is a mistake.
      constructor
      · intro h
        rw [Record.ofEntries] at h
        split at h
        · next key heq => exact absurd ⟨key, heq⟩ hkey
        · cases h
      · intro h
        exact absurd (h.named (k, v) List.mem_cons_self) hkey

/-! ## Lists of questions -/

theorem ofValue_eq_ok {v : Value} {q : Question} : ofValue v = .ok q ↔ Holds v q := by
  rw [ofValue]
  rcases hv : v.untagged with _ | b | n | s | items | entries | ⟨tag, v'⟩
  case null =>
    constructor
    · rintro ⟨⟩
      exact .null hv
    · rintro (_ | ⟨hmapping, -⟩)
      · rfl
      · cases hv.symm.trans hmapping
  case mapping =>
    simp only
    constructor
    · intro h
      rcases hd : record.ofEntries .empty entries with m | d
      · rw [hd] at h
        cases h
      · rw [hd] at h
        cases h
        exact .mapping hv (ofEntries_eq_ok.1 hd)
    · rintro (hnull | ⟨hmapping, hfills⟩)
      · cases hv.symm.trans hnull
      · cases hv.symm.trans hmapping
        rw [ofEntries_eq_ok.2 hfills]
        rfl
  -- No other value is a question.
  all_goals
    refine iff_of_false nofun ?_
    rintro (hnull | ⟨hmapping, -⟩)
    · cases hv.symm.trans hnull
    · cases hv.symm.trans hmapping

/-- Items are read in order, each as what it holds. -/
theorem mapM_ofValue_eq_ok {items : List Value} {list : List Question} :
    items.mapM ofValue = .ok list ↔ List.Forall₂ Holds items list := by
  induction items generalizing list with
  | nil =>
    rw [List.forall₂_nil_left_iff]
    simp [pure, Except.pure, eq_comm]
  | cons v items ih =>
    rw [List.mapM_cons, List.forall₂_cons_left_iff]
    simp only [← ofValue_eq_ok, ← ih]
    rcases ofValue v with m | q
    · simp [bind, Except.bind]
    · rcases items.mapM ofValue with m | rest
      · simp [bind, Except.bind]
      · simp [bind, Except.bind, pure, Except.pure, eq_comm]

theorem listOfValue_eq_ok {v : Value} {list : List Question} :
    listOfValue v = .ok list ↔ HoldsList v list := by
  rw [listOfValue]
  rcases hv : v.untagged with _ | b | n | s | items | entries | ⟨tag, v'⟩
  case null =>
    constructor
    · rintro ⟨⟩
      exact .null hv
    · rintro (_ | ⟨hsequence, -⟩)
      · rfl
      · cases hv.symm.trans hsequence
  case sequence =>
    simp only [mapM_ofValue_eq_ok]
    constructor
    · exact .sequence hv
    · rintro (hnull | ⟨hsequence, hitems⟩)
      · cases hv.symm.trans hnull
      · cases hv.symm.trans hsequence
        exact hitems
  all_goals
    refine iff_of_false nofun ?_
    rintro (hnull | ⟨hsequence, -⟩)
    · cases hv.symm.trans hnull
    · cases hv.symm.trans hsequence

/-! ## Sections -/

/-- A section declares questions: it is a mapping with that key, whatever tags are on it. -/
def Declares (v questions : Value) : Prop :=
  ∃ before after, v.untagged = .mapping (before ++ (.string "questions", questions) :: after) ∧
    ∀ e ∈ before, e.1 ≠ .string "questions"

/-- The sections of a document that declare questions, in order, each with its key and with what
    it declares. -/
inductive Declared : List (Value × Value) → List (Value × Value) → Prop
  | nil : Declared [] []
  | passed {k v : Value} {entries found : List (Value × Value)} :
    (∀ questions, ¬ Declares v questions) → Declared entries found →
    Declared ((k, v) :: entries) found
  | declared {k v questions : Value} {entries found : List (Value × Value)} :
    Declares v questions → Declared entries found →
    Declared ((k, v) :: entries) ((k, questions) :: found)

/-- A key is the same as a text exactly if it is that text. -/
theorem same_string {k : Value} {s : String} : k.same (.string s) = true ↔ k = .string s := by
  rcases k with _ | _ | _ | _ | _ | _ | _ <;> simp [Value.same]

/-- What a section is found to declare. -/
theorem inSection?_eq_some {v questions : Value} :
    inSection? v = some questions ↔ Declares v questions := by
  rw [inSection?, Declares]
  rcases v.untagged with _ | b | n | s | items | entries | ⟨tag, v'⟩
  case mapping =>
    simp only [Value.lookup, Option.map_eq_some_iff, List.find?_eq_some_iff_append,
      Value.mapping.injEq]
    constructor
    · rintro ⟨⟨k, q⟩, ⟨hk, before, after, rfl, hbefore⟩, rfl⟩
      obtain rfl := same_string.1 hk
      refine ⟨before, after, rfl, fun e he heq => ?_⟩
      have hne := hbefore e he
      rw [same_string.2 heq] at hne
      cases hne
    · rintro ⟨before, after, rfl, hbefore⟩
      refine ⟨_, ⟨same_string.2 rfl, before, after, rfl, fun e he => ?_⟩, rfl⟩
      rw [Bool.not_eq_true']
      exact Bool.eq_false_iff.2 fun heq => hbefore e he (same_string.1 heq)
  all_goals simp

/-- The sections of a document that declare questions. -/
theorem declared_filterMap (entries : List (Value × Value)) :
    Declared entries (entries.filterMap fun e => (inSection? e.2).map (e.1, ·)) := by
  induction entries with
  | nil => exact .nil
  | cons e entries ih =>
    obtain ⟨k, v⟩ := e
    rcases hv : inSection? v with _ | questions
    · rw [List.filterMap_cons_none (by rw [hv]; rfl)]
      refine .passed (fun questions h => ?_) ih
      rw [inSection?_eq_some.2 h] at hv
      cases hv
    · rw [List.filterMap_cons_some (by rw [hv]; rfl)]
      exact .declared (inSection?_eq_some.1 hv) ih

/-- There is one list of them. -/
theorem Declared.eq {entries found found' : List (Value × Value)} (h : Declared entries found)
    (h' : Declared entries found') : found = found' := by
  induction h generalizing found' with
  | nil =>
    cases h'
    rfl
  | passed hnone _ ih =>
    rcases h' with _ | ⟨-, hrest⟩ | ⟨hq, -⟩
    · exact ih hrest
    · exact absurd hq (hnone _)
  | declared hq _ ih =>
    rcases h' with _ | ⟨hnone, -⟩ | ⟨hq', hrest⟩
    · exact absurd hq (hnone _)
    · have heq := (inSection?_eq_some.2 hq).symm.trans (inSection?_eq_some.2 hq')
      obtain rfl := Option.some.inj heq
      rw [ih hrest]

theorem inSection?_eq_none {v : Value} (h : ∀ questions, ¬ Declares v questions) :
    inSection? v = none :=
  Option.eq_none_iff_forall_ne_some.2 fun questions hq => h questions (inSection?_eq_some.1 hq)

/-- What each declaration holds, under the name of its section. -/
inductive HoldsEach : List (Value × Value) → List (String × List Question) → Prop
  | nil : HoldsEach [] []
  | cons {key questions : Value} {list : List Question} {found : List (Value × Value)}
    {named : List (String × List Question)} : HoldsList questions list → HoldsEach found named →
    HoldsEach ((key, questions) :: found) ((sectionName key, list) :: named)

/-- What is wrong with the first declaration that holds no questions, told with the name of its
    section. -/
inductive Misdeclared : List (Value × Value) → Failure → Prop
  | here {key questions : Value} {m : Mistake} {found : List (Value × Value)} :
    (∀ list, ¬ HoldsList questions list) → listOfValue questions = .error m →
    Misdeclared ((key, questions) :: found)
      ⟨["Invalid questions in section '" ++ sectionName key ++ "'"],
        .catalog (.markup (.mistake m none))⟩
  | there {key questions : Value} {list : List Question} {f : Failure}
    {found : List (Value × Value)} : HoldsList questions list → Misdeclared found f →
    Misdeclared ((key, questions) :: found) f

section Sections

variable {entries found : List (Value × Value)}

/-- If every declaration holds questions, that is what is read. -/
theorem sections_of_holdsEach {named : List (String × List Question)} (h : Declared entries found)
    (heach : HoldsEach found named) : sections entries = .ok named := by
  induction h generalizing named with
  | nil =>
    cases heach
    rfl
  | passed hnone _ ih =>
    rw [sections, inSection?_eq_none hnone]
    exact ih heach
  | declared hq _ ih =>
    rcases heach with _ | ⟨hlist, hrest⟩
    simp only [sections, inSection?_eq_some.2 hq, listOfValue_eq_ok.2 hlist, ih hrest]
    rfl

/-- Otherwise it is what is wrong with the first that holds none. -/
theorem sections_of_misdeclared {f : Failure} (h : Declared entries found)
    (hmis : Misdeclared found f) : sections entries = .error f := by
  induction h with
  | nil => cases hmis
  | passed hnone _ ih =>
    rw [sections, inSection?_eq_none hnone]
    exact ih hmis
  | declared hq _ ih =>
    rcases hmis with ⟨-, hread⟩ | ⟨hlist, hrest⟩
    · simp only [sections, inSection?_eq_some.2 hq, hread]
    · simp only [sections, inSection?_eq_some.2 hq, listOfValue_eq_ok.2 hlist, ih hrest]
      rfl

/-- One of the two is the case. -/
theorem exists_holdsEach_or_misdeclared (found : List (Value × Value)) :
    (∃ named, HoldsEach found named) ∨ ∃ f, Misdeclared found f := by
  induction found with
  | nil => exact .inl ⟨_, .nil⟩
  | cons e found ih =>
    obtain ⟨key, questions⟩ := e
    rcases hread : listOfValue questions with m | list
    · refine .inr ⟨_, .here (fun list hlist => ?_) hread⟩
      rw [listOfValue_eq_ok.2 hlist] at hread
      cases hread
    · have hlist := listOfValue_eq_ok.1 hread
      rcases ih with ⟨named, hrest⟩ | ⟨f, hrest⟩
      · exact .inl ⟨_, .cons hlist hrest⟩
      · exact .inr ⟨f, .there hlist hrest⟩

end Sections

/-! ## Documents -/

/-- What is asked by a document. -/
inductive Asks (file : String) : Value → Except Failure (List Question) → Prop
  | null : Asks file .null (.ok [])
  /-- Anything else but a mapping, tagged mappings included, is no document. -/
  | other {v : Value} : v ≠ .null → (∀ entries, v ≠ .mapping entries) →
    Asks file v (.error (.ofError (.other (file ++ " is not a mapping of sections"))))
  /-- A declaration that holds no questions comes first, however many declarations there are. -/
  | misdeclared {entries found : List (Value × Value)} {f : Failure} :
    Declared entries found → Misdeclared found f → Asks file (.mapping entries) (.error f)
  | conflict {entries found : List (Value × Value)} {named : List (String × List Question)} :
    Declared entries found → HoldsEach found named → 1 < found.length →
    Asks file (.mapping entries)
      (.error (.ofError (.questionConflict file (found.map fun e => sectionName e.1))))
  | single {entries : List (Value × Value)} {key questions : Value} {list : List Question} :
    Declared entries [(key, questions)] → HoldsList questions list →
    Asks file (.mapping entries) (.ok list)
  | none {entries : List (Value × Value)} : Declared entries [] →
    Asks file (.mapping entries) (.ok [])

/-- The names of the sections are told in the order of the document. -/
theorem HoldsEach.names_eq {found : List (Value × Value)} {named : List (String × List Question)}
    (h : HoldsEach found named) : named.map (·.1) = found.map fun e => sectionName e.1 := by
  induction h with
  | nil => rfl
  | cons _ _ ih => rw [List.map_cons, List.map_cons, ih]

/-- Every document asks something. -/
theorem exists_asks (file : String) (v : Value) : ∃ r, Asks file v r := by
  rcases v with _ | _ | _ | _ | _ | entries | _
  case null => exact ⟨_, .null⟩
  case mapping =>
    have hfound := declared_filterMap entries
    generalize entries.filterMap _ = found at hfound
    rcases exists_holdsEach_or_misdeclared found with ⟨named, heach⟩ | ⟨f, hmis⟩
    · rcases found with _ | ⟨first, _ | ⟨second, found⟩⟩
      · exact ⟨_, .none hfound⟩
      · rcases heach with _ | ⟨hlist, -⟩
        exact ⟨_, .single hfound hlist⟩
      · exact ⟨_, .conflict hfound heach (by simp)⟩
    · exact ⟨_, .misdeclared hfound hmis⟩
  all_goals exact ⟨_, .other nofun nofun⟩

variable {file : String} {v : Value} {r : Except Failure (List Question)}

/-- What is read of a document is what it asks. -/
theorem Asks.eq_listOfDocument (h : Asks file v r) : listOfDocument file v = r := by
  rcases h with _ | ⟨hnull, hmapping⟩ | ⟨hfound, hmis⟩ | ⟨hfound, heach, hlength⟩ |
    ⟨hfound, hlist⟩ | hfound
  · rfl
  · rcases v with _ | _ | _ | _ | _ | entries | _
    case null => exact absurd rfl hnull
    case mapping => exact absurd rfl (hmapping entries)
    all_goals rfl
  · rw [listOfDocument, sections_of_misdeclared hfound hmis]
  · have hnames := heach.names_eq
    rw [listOfDocument, sections_of_holdsEach hfound heach]
    rcases heach with _ | ⟨hlist, _ | ⟨hlist', hrest⟩⟩
    · exact absurd hlength (by simp)
    · exact absurd hlength (by simp)
    · rw [← hnames]
  · rw [listOfDocument, sections_of_holdsEach hfound (.cons hlist .nil)]
  · rw [listOfDocument, sections_of_holdsEach hfound .nil]

theorem listOfDocument_eq_iff : listOfDocument file v = r ↔ Asks file v r := by
  obtain ⟨r', h⟩ := exists_asks file v
  constructor
  · rintro rfl
    rw [h.eq_listOfDocument]
    exact h
  · exact Asks.eq_listOfDocument

-- Declarations of null and of an empty list are in conflict too.
example : listOfDocument "sheet" (.mapping
      [(.string "web", .mapping [(.string "questions", .null)]),
        (.string "db", .tagged "x" (.mapping [(.string "questions", .sequence [])]))]) =
    .error (.ofError (.questionConflict "sheet" ["web", "db"])) := by
  rfl

/-- What is asked depends on nothing but the sections that declare questions. -/
theorem Asks.congr {entries entries' found : List (Value × Value)}
    (h : Asks file (.mapping entries) r) (hd : Declared entries found)
    (hd' : Declared entries' found) : Asks file (.mapping entries') r := by
  rcases h with _ | ⟨-, hmapping⟩ | ⟨hfound, hmis⟩ | ⟨hfound, heach, hlength⟩ | ⟨hfound, hlist⟩ |
    hfound
  · exact absurd rfl (hmapping entries)
  · obtain rfl := hfound.eq hd
    exact .misdeclared hd' hmis
  · obtain rfl := hfound.eq hd
    exact .conflict hd' heach hlength
  · obtain rfl := hfound.eq hd
    exact .single hd' hlist
  · obtain rfl := hfound.eq hd
    exact .none hd'

/-- **What a document asks**: a text that cannot be read as a document is that fault. A text that
    can asks what its document asks, and this alone: nothing if it is null; the questions of the
    only section that declares any, in order; none if there is no such section; else the first
    declaration that holds no questions is told, or the names of all sections that declare some.
    What declares no questions makes no difference. -/
theorem listOfText_asks (file text : String) :
    (∀ fault, Value.ofText text = .error fault →
      listOfText file text = .error (.ofError (.markup fault))) ∧
    (∀ v, Value.ofText text = .ok v → ∀ r, listOfText file text = r ↔ Asks file v r) ∧
    ∀ entries, Value.ofText text = .ok (.mapping entries) → ∀ other entries' found,
      Value.ofText other = .ok (.mapping entries') → Declared entries found →
      Declared entries' found → listOfText file other = listOfText file text := by
  refine ⟨fun fault h => ?_, fun v h r => ?_, fun entries h other entries' found h' hd hd' => ?_⟩
  · unfold listOfText
    rw [h]
  · unfold listOfText
    rw [h]
    exact listOfDocument_eq_iff
  · unfold listOfText
    rw [h, h']
    obtain ⟨r, hr⟩ := exists_asks file (.mapping entries)
    show listOfDocument file (.mapping entries') = listOfDocument file (.mapping entries)
    rw [hr.eq_listOfDocument, (hr.congr hd hd').eq_listOfDocument]

/-- A document with a section that declares nothing and, under a tag, one that asks for a port. -/
def sheet : String := "scale: 2\nweb: !x\n  questions:\n  - variable: port\n    label: 80\n"

/-- The sheet asks for that port. -/
theorem listOfText_asks_sheet :
    ∃ v, Value.ofText sheet = .ok v ∧
      Asks "rancher-compose.yml" v (.ok [⟨"port", "", "80", false, none, ""⟩]) := by
  have hread : (listOfText "rancher-compose.yml" sheet).toOption =
      some [⟨"port", "", "80", false, none, ""⟩] := by
    decide +kernel
  obtain ⟨hfault, hasks, -⟩ := listOfText_asks "rancher-compose.yml" sheet
  rcases hv : Value.ofText sheet with fault | v
  · rw [hfault fault hv] at hread
    cases hread
  · refine ⟨v, rfl, (hasks v hv _).1 ?_⟩
    rcases hlist : listOfText "rancher-compose.yml" sheet with f | list
    · rw [hlist] at hread
      cases hread
    · rw [hlist] at hread
      exact congrArg Except.ok (Option.some.inj hread)

end Question

end TemplateCatalog
