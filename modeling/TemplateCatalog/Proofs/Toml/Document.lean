import Mathlib.Data.List.Nodup
import TemplateCatalog.Toml.Reader

/-!
# What a settings file holds

A settings file is one table, whatever statements it is written as. Each statement leaves the keys
of this table distinct: it puts one item, in the place of the one with that key or at the end. So a
file gives at most one value for a key.

* `Table.exists_put_of_run_cons`: what a statement does to the table of the file;
* `exists_document`: what is read is a table with distinct keys.
-/

namespace TemplateCatalog.Toml

/-- The value of a table with these entries. -/
def document (entries : List (String × Yaml.Value)) : Yaml.Value :=
  .mapping (entries.map fun e => (.string e.1, e.2))

/-- A table is told by its value. -/
theorem document_inj {a b : List (String × Yaml.Value)} (h : document a = document b) : a = b := by
  refine List.map_injective_iff.2 (fun x y hxy => ?_) (Yaml.Value.mapping.inj h)
  obtain ⟨hkey, hvalue⟩ := Prod.mk.inj hxy
  exact Prod.ext (Yaml.Value.string.inj hkey) hvalue

namespace Table

variable {t t' : Table} {key : String} {i : Item} {f : Table → Option Table} {path : List String}

/-- The keys of a table, in turn. -/
def keys (t : Table) : List String := t.entries.map (·.1)

theorem mem_keys_iff : key ∈ t.keys ↔ (t.find? key).isSome = true := by
  rw [find?, List.lookup_isSome_iff, keys, List.mem_map]
  exact ⟨fun ⟨e, he, hkey⟩ => ⟨e, he, beq_iff_eq.2 hkey.symm⟩,
    fun ⟨e, he, hkey⟩ => ⟨e, he, (beq_iff_eq.1 hkey).symm⟩⟩

/-- Putting an item leaves distinct keys distinct. -/
theorem nodup_keys_put (h : t.keys.Nodup) : (t.put key i).keys.Nodup := by
  rw [put]
  split
  · -- The item takes the place of the one with its key.
    have hsame : (t.entries.map fun e => if e.1 = key then (key, i) else e).map (·.1) = t.keys := by
      rw [List.map_map]
      refine List.map_congr_left fun e _ => ?_
      by_cases hkey : e.1 = key
      · simp [hkey]
      · simp [hkey]
    rw [keys, hsame]
    exact h
  · next hnew =>
    rw [keys, List.map_append]
    refine List.nodup_append.2 ⟨h, List.nodup_singleton key, fun k hk k' hk' heq => ?_⟩
    obtain rfl : k' = key := List.mem_singleton.1 hk'
    exact hnew (mem_keys_iff.1 (heq ▸ hk))

/-- A change anywhere below a table puts one item in it. -/
theorem exists_put_of_change {viaKey : Bool}
    (hf : ∀ t t', f t = some t' → ∃ key i, t' = t.put key i)
    (h : t.change viaKey f path = some t') : ∃ key i, t' = t.put key i := by
  cases path with
  | nil => exact hf t t' h
  | cons key path =>
    rw [change] at h
    split at h
    · obtain ⟨c, -, rfl⟩ := Option.map_eq_some_iff.1 h
      exact ⟨_, _, rfl⟩
    · split at h
      · cases h
      · obtain ⟨c, -, rfl⟩ := Option.map_eq_some_iff.1 h
        exact ⟨_, _, rfl⟩
    · split at h
      · obtain ⟨c, -, rfl⟩ := Option.map_eq_some_iff.1 h
        exact ⟨_, _, rfl⟩
      · cases h
    · cases h

theorem exists_put_of_assign (h : t.assign key i = some t') : ∃ key i, t' = t.put key i := by
  rw [assign] at h
  split at h
  · cases h
  · exact ⟨_, _, (Option.some.inj h).symm⟩

theorem exists_put_of_assignPath (h : t.assignPath path key i = some t') :
    ∃ key i, t' = t.put key i := by
  refine exists_put_of_change (fun t t' h => ?_) h
  split at h
  · cases h
  · exact exists_put_of_assign h

theorem exists_put_of_openTable (h : t.openTable key = some t') : ∃ key i, t' = t.put key i := by
  rw [openTable] at h
  split at h
  · exact ⟨_, _, (Option.some.inj h).symm⟩
  · exact ⟨_, _, (Option.some.inj h).symm⟩
  · cases h

theorem exists_put_of_openElement (h : t.openElement key = some t') :
    ∃ key i, t' = t.put key i := by
  rw [openElement] at h
  split at h
  · exact ⟨_, _, (Option.some.inj h).symm⟩
  · exact ⟨_, _, (Option.some.inj h).symm⟩
  · cases h

/-- A statement puts one item in the table of the file, and the others go on from there. -/
theorem exists_put_of_run_cons {opened : List String} {s : Statement} {rest : List Statement}
    (h : run opened t (s :: rest) = some t') :
    ∃ opened' key i, run opened' (t.put key i) rest = some t' := by
  -- All three kinds of statements change the table of the file at one key.
  cases s with
  | header path key =>
    simp only [run] at h
    split at h
    · next mid hmid =>
      obtain ⟨key, i, rfl⟩ := exists_put_of_change (fun _ _ => exists_put_of_openTable) hmid
      exact ⟨_, key, i, h⟩
    · cases h
  | element path key =>
    simp only [run] at h
    split at h
    · next mid hmid =>
      obtain ⟨key, i, rfl⟩ := exists_put_of_change (fun _ _ => exists_put_of_openElement) hmid
      exact ⟨_, key, i, h⟩
    · cases h
  | assign path key i =>
    simp only [run] at h
    split at h
    · next mid hmid =>
      obtain ⟨key, i, rfl⟩ := exists_put_of_change (fun _ _ => exists_put_of_assignPath) hmid
      exact ⟨_, key, i, h⟩
    · cases h

/-- Statements leave distinct keys distinct. -/
theorem nodup_keys_run {opened : List String} {statements : List Statement} (h : t.keys.Nodup)
    (hrun : run opened t statements = some t') : t'.keys.Nodup := by
  induction statements generalizing opened t with
  | nil =>
    obtain rfl := Option.some.inj hrun
    exact h
  | cons s rest ih =>
    obtain ⟨_, key, i, hrest⟩ := exists_put_of_run_cons hrun
    exact ih (nodup_keys_put h) hrest

end Table

theorem entryValues_eq (entries : List (String × Item)) :
    entryValues entries = entries.map fun e => (.string e.1, e.2.value) := by
  induction entries with
  | nil => rfl
  | cons e rest ih => rw [entryValues, ih, List.map_cons]

/-- What is read of a file is a table with distinct keys. -/
theorem exists_document {text : String} {v : Yaml.Value} (h : read? text = some v) :
    ∃ entries, v = document entries ∧ (entries.map (·.1)).Nodup := by
  rw [read?] at h
  split at h
  · cases h
  · obtain ⟨t, hrun, rfl⟩ := Option.map_eq_some_iff.1 h
    refine ⟨t.entries.map fun e => (e.1, e.2.value), ?_, ?_⟩
    · rw [Table.item, Item.value, entryValues_eq, document, List.map_map]
      rfl
    · rw [List.map_map]
      exact Table.nodup_keys_run (t := ⟨.header, []⟩) List.nodup_nil hrun

end TemplateCatalog.Toml
