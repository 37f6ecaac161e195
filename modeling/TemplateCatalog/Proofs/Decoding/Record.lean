import TemplateCatalog.Decoding.Record

/-!
# What is read of a record

A record is read entry by entry, each into what was read before it. What a field comes to is told
by what its value holds.

* `textOf_eq_ok`, `boolOf_eq_ok`: what values hold;
* `Record.ofEntries_cons_eq_ok`: one more entry is set before the rest is read.
-/

namespace TemplateCatalog.Decoding

open Yaml

variable {v : Value}

theorem textOf_eq_ok {s : String} : textOf v = .ok s ↔ v.untagged = .string s := by
  rw [textOf]
  rcases v.untagged with _ | _ | _ | _ | _ | _ | _ <;> simp

theorem boolOf_eq_ok {b : Bool} : boolOf v = .ok b ↔ v.untagged = .bool b := by
  rw [boolOf]
  rcases v.untagged with _ | _ | _ | _ | _ | _ | _ <;> simp

/-- What comes of a value that is put somewhere. -/
theorem bind_pure_eq_ok {α β : Type} {x : Except Mistake α} {f : α → β} {b : β} :
    (do return f (← x) : Except Mistake β) = .ok b ↔ ∃ a, x = .ok a ∧ f a = b := by
  rcases x with m | a
  · simp [bind, Except.bind]
  · simp [bind, Except.bind, pure, Except.pure]

/-- An entry is set before the rest is read. -/
theorem Record.ofEntries_cons_eq_ok {σ α : Type} {r : Record σ α} {s s' : σ} {k : Value}
    {key : String} {rest : List (Value × Value)} (hkey : k.untagged = .string key) :
    r.ofEntries s ((k, v) :: rest) = .ok s' ↔
      ∃ mid, r.set s key v = .ok mid ∧ r.ofEntries mid rest = .ok s' := by
  simp only [Record.ofEntries, hkey]
  rcases r.set s key v with m | mid
  · simp [bind, Except.bind]
  · simp [bind, Except.bind]

end TemplateCatalog.Decoding
