import Mathlib.Data.List.Nodup
import TemplateCatalog.Proofs.Decoding.Record
import TemplateCatalog.Proofs.Dictionary

/-!
# Records whose fields are independent

A record is fieldwise if it takes each of its fields into a place of its own and passes over what
it does not have (`Record.Fieldwise`). What is read of such a record is told by its members alone,
not by their order or by other members among them. Two things reorder the members of an object: the
object itself, which holds them by their names, and whoever wrote it.

* `Record.Fieldwise.ofEntries_filter`: entries that the record does not have make no difference;
* `Record.Fieldwise.ofEntries_perm`: neither does the order of the others;
* `Record.Takes`: what members come to, put together from what its parts come to;
* `Record.Fieldwise.tells`: members that are read in one order tell the record in any.
-/

namespace TemplateCatalog.Decoding

open Yaml

variable {σ α : Type} {r : Record σ α} {s s' : σ} {a : α}

/-- The entries of a mapping whose keys are texts. -/
def entriesOf (l : List (String × Value)) : List (Value × Value) :=
  l.map fun e => (.string e.1, e.2)

namespace Record

/-- A record has a place of its own for each of its fields: what it does not have is passed over,
    and two fields may come in either order. -/
structure Fieldwise (r : Record σ α) : Prop where
  nodup : r.fields.Nodup
  passed {s : σ} {key : String} {v : Value} : key ∉ r.fields → r.set s key v = .ok s
  swap {s a b : σ} {key key' : String} {v v' : Value} : key ∈ r.fields → key' ∈ r.fields →
    key ≠ key' → r.set s key v = .ok a → r.set a key' v' = .ok b →
    ∃ mid, r.set s key' v' = .ok mid ∧ r.set mid key v = .ok b

/-- Entries that a record does not have make no difference. -/
theorem Fieldwise.ofEntries_filter (hr : r.Fieldwise) (s : σ) (l : List (String × Value)) :
    r.ofEntries s (entriesOf l) = r.ofEntries s (entriesOf (l.filter (·.1 ∈ r.fields))) := by
  induction l generalizing s with
  | nil => rfl
  | cons e l ih =>
    by_cases he : e.1 ∈ r.fields
    · rw [List.filter_cons_of_pos (by simpa using he)]
      show (do r.ofEntries (← r.set s e.1 e.2) (entriesOf l)) =
        (do r.ofEntries (← r.set s e.1 e.2) (entriesOf (l.filter _)))
      simp only [ih]
    · rw [List.filter_cons_of_neg (by simpa using he), ← ih]
      show (do r.ofEntries (← r.set s e.1 e.2) (entriesOf l)) = _
      rw [hr.passed he]
      rfl

/-- The order of entries with different names makes no difference. -/
theorem Fieldwise.ofEntries_perm (hr : r.Fieldwise) {l l' : List (String × Value)}
    (h : l.Perm l') (hkeys : (l.map (·.1)).Nodup) (hfields : ∀ e ∈ l, e.1 ∈ r.fields)
    (hread : r.ofEntries s (entriesOf l) = .ok s') : r.ofEntries s (entriesOf l') = .ok s' := by
  induction h generalizing s with
  | nil => exact hread
  | cons e _ ih =>
    obtain ⟨-, hfields⟩ := List.forall_mem_cons.1 hfields
    obtain ⟨mid, hset, hrest⟩ := (ofEntries_cons_eq_ok (k := .string e.1) rfl).1 hread
    exact (ofEntries_cons_eq_ok (k := .string e.1) rfl).2
      ⟨mid, hset, ih hkeys.of_cons hfields hrest⟩
  | swap e e' l =>
    obtain ⟨a, ha, hread⟩ := (ofEntries_cons_eq_ok (k := .string e'.1) rfl).1 hread
    obtain ⟨b, hb, hrest⟩ := (ofEntries_cons_eq_ok (k := .string e.1) rfl).1 hread
    have he' := hfields e' List.mem_cons_self
    have he := hfields e (List.mem_cons_of_mem _ List.mem_cons_self)
    have hne : e'.1 ≠ e.1 := fun heq => (List.nodup_cons.1 hkeys).1 (by simp [heq])
    obtain ⟨mid, hmid, hb⟩ := hr.swap he' he hne ha hb
    exact (ofEntries_cons_eq_ok (k := .string e.1) rfl).2
      ⟨mid, hmid, (ofEntries_cons_eq_ok (k := .string e'.1) rfl).2 ⟨b, hb, hrest⟩⟩
  | trans h _ ih ih' =>
    exact ih' ((h.map _).nodup_iff.1 hkeys) (fun e he => hfields e (h.mem_iff.2 he))
      (ih hkeys hfields hread)

end Record

/-! ## Objects -/

/-- A member that may be missing has its name, if any. -/
theorem names_member {β : Type} {name : String} {encode : β → Json} (x : Option β) :
    ((member? name encode x).map (·.1)).Sublist [name] := by
  cases x with
  | none => exact List.nil_sublist _
  | some b => exact .refl _

/-- Members of an object with the values that they are read as. -/
def valuesOf (members : List (String × Json)) : List (String × Value) :=
  members.map fun m => (m.1, Decoding.ofJson m.2)

theorem ofJsonMembers_eq (members : List (String × Json)) :
    ofJsonMembers members = valuesOf members := by
  induction members with
  | nil => rfl
  | cons m members ih =>
    rw [ofJsonMembers, ih]
    rfl

/-- An object is read as a mapping, with its members in the order of their names. -/
theorem ofJson_object (members : List (String × Json)) :
    Decoding.ofJson (.object members) =
      .mapping (entriesOf (Dictionary.ofList (valuesOf members)).entries) := by
  rw [Decoding.ofJson, ofJsonMembers_eq]
  rfl

namespace Record

/-- Members are read one after the other. -/
def Takes (r : Record σ α) (s : σ) (members : List (String × Json)) (s' : σ) : Prop :=
  r.ofEntries s (entriesOf (valuesOf members)) = .ok s'

theorem Takes.nil : r.Takes s [] s := rfl

theorem Takes.cons {mid : σ} {m : String × Json} {members : List (String × Json)}
    (hset : r.set s m.1 (Decoding.ofJson m.2) = .ok mid) (h : r.Takes mid members s') :
    r.Takes s (m :: members) s' :=
  (ofEntries_cons_eq_ok (k := .string m.1) rfl).2 ⟨mid, hset, h⟩

theorem Takes.append {mid : σ} {first second : List (String × Json)} (h : r.Takes s first mid)
    (h' : r.Takes mid second s') : r.Takes s (first ++ second) s' := by
  induction first generalizing s with
  | nil =>
    obtain rfl := Except.ok.inj h
    exact h'
  | cons m first ih =>
    obtain ⟨next, hset, hrest⟩ := (ofEntries_cons_eq_ok (k := .string m.1) rfl).1 h
    exact .cons hset (ih hrest)

/-- A member that may be missing leaves a place as it is then. -/
theorem Takes.member {β : Type} {name : String} {encode : β → Json} {x : Option β}
    (put : Option β → σ)
    (hsome : ∀ b, r.set (put none) name (Decoding.ofJson (encode b)) = .ok (put (some b))) :
    r.Takes (put none) (member? name encode x) (put x) := by
  cases x with
  | none => exact .nil
  | some b => exact .cons (hsome b) .nil

/-- An object of these members is read as a record. -/
structure Reads (r : Record σ α) (members : List (String × Json)) (a : α) : Prop where
  /-- An object holds its members in the order of their names. -/
  sorted : r.ofJson (.object members) = .ok a
  /-- It comes to the same if they are read as they stand in a text, one after the other. -/
  inTurn : r.ofValue (.mapping (entriesOf (valuesOf members))) = .ok a

/-- Members tell a record, in whatever order they are, and whatever members there are besides that
    the record does not have. -/
def Tells (r : Record σ α) (members : List (String × Json)) (a : α) : Prop :=
  ∀ extra order, (∀ m ∈ extra, m.1 ∉ r.fields) → order.Perm (members ++ extra) → r.Reads order a

/-- A value is read as this record, whatever is done to the order of its members, and whatever
    members are added that the record does not have. -/
structure Restores (r : Record σ α) (j : Json) (a : α) : Prop where
  read : r.ofJson j = .ok a
  told : ∃ members, j = .object members ∧ r.Tells members a

variable {members extra order : List (String × Json)}

theorem Tells.restores (h : r.Tells members a) : r.Restores (.object members) a where
  read := (h [] members (by simp) (by simp)).sorted
  told := ⟨members, rfl, h⟩

/-- Of members in some order, with others among them, the record sees the members. -/
theorem filter_valuesOf (hknown : ∀ m ∈ members, m.1 ∈ r.fields)
    (hextra : ∀ m ∈ extra, m.1 ∉ r.fields) (horder : order.Perm (members ++ extra)) :
    ((valuesOf order).filter (·.1 ∈ r.fields)).Perm (valuesOf members) := by
  have hmembers : (valuesOf members).filter (·.1 ∈ r.fields) = valuesOf members := by
    refine List.filter_eq_self.2 fun e he => ?_
    obtain ⟨m, hm, rfl⟩ := List.mem_map.1 he
    exact decide_eq_true (hknown m hm)
  have hnone : (valuesOf extra).filter (·.1 ∈ r.fields) = [] := by
    refine List.filter_eq_nil_iff.2 fun e he => ?_
    obtain ⟨m, hm, rfl⟩ := List.mem_map.1 he
    simpa using hextra m hm
  have hvalues : valuesOf (members ++ extra) = valuesOf members ++ valuesOf extra :=
    List.map_append
  have hperm := (horder.map fun m => (m.1, Decoding.ofJson m.2)).filter (·.1 ∈ r.fields)
  rw [← valuesOf, ← valuesOf, hvalues, List.filter_append, hmembers, hnone,
    List.append_nil] at hperm
  exact hperm

/-- So it does of the dictionary that they make. -/
theorem filter_entries_ofList {l known : List (String × Value)} (hkeys : (known.map (·.1)).Nodup)
    (h : (l.filter (·.1 ∈ r.fields)).Perm known) :
    ((Dictionary.ofList l).entries.filter (·.1 ∈ r.fields)).Perm known := by
  refine (List.perm_ext_iff_of_nodup ((Dictionary.nodup_entries _).filter _)
    (List.Nodup.of_map _ hkeys)).2 fun e => ?_
  rw [List.mem_filter, ← h.mem_iff, List.mem_filter]
  refine and_congr_left fun he => Dictionary.mem_entries_ofList fun v w hv hw => ?_
  have hv := h.mem_iff.1 (List.mem_filter.2 ⟨hv, he⟩)
  have hw := h.mem_iff.1 (List.mem_filter.2 ⟨hw, he⟩)
  exact congrArg Prod.snd (List.inj_on_of_nodup_map hkeys hv hw rfl)

/-- Members that are read in the order of the fields tell what they come to. -/
theorem Fieldwise.tells (hr : r.Fieldwise) (hnames : (members.map (·.1)).Sublist r.fields)
    (hread : r.Takes r.start members s) (hfinish : r.finish .missingField s = .ok a) :
    r.Tells members a := by
  intro extra order hextra horder
  have hknown (m : String × Json) (hm : m ∈ members) : m.1 ∈ r.fields :=
    hnames.subset (List.mem_map_of_mem hm)
  have hkeys : ((valuesOf members).map (·.1)).Nodup := by
    rw [valuesOf, List.map_map]
    exact hnames.nodup hr.nodup
  have hfields : ∀ e ∈ valuesOf members, e.1 ∈ r.fields := by
    intro e he
    obtain ⟨m, hm, rfl⟩ := List.mem_map.1 he
    exact hknown m hm
  have hmapping {l : List (String × Value)}
      (hl : (l.filter (·.1 ∈ r.fields)).Perm (valuesOf members)) :
      r.ofValue (.mapping (entriesOf l)) = .ok a := by
    have hl' := hr.ofEntries_perm hl.symm hkeys hfields hread
    rw [← hr.ofEntries_filter] at hl'
    rw [ofValue, hl']
    exact hfinish
  have hfilter := filter_valuesOf hknown hextra horder
  constructor
  · rw [Record.ofJson, ofJson_object]
    exact hmapping (filter_entries_ofList hkeys hfilter)
  · exact hmapping hfilter

end Record

end TemplateCatalog.Decoding
