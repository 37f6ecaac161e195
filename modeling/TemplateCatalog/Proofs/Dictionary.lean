import TemplateCatalog.Dictionary

/-!
# Laws of dictionaries

What an insertion changes and what it leaves alone, and from that the values of a
dictionary made from a list: of the entries with one key, the last counts. So the
entries of a dictionary make the same dictionary in whatever order they are given
(`ofList_of_perm`).
-/

namespace TemplateCatalog.Dictionary

variable {α : Type}

/-- The value of a key is that of the first entry with it. -/
theorem lookup_cons (k : String) (e : String × α) (rest : List (String × α)) :
    (e :: rest).lookup k = if k = e.1 then some e.2 else rest.lookup k := by
  rw [List.lookup_cons]
  by_cases hk : k = e.1
  · simp [hk]
  · rw [if_neg hk, beq_false_of_ne hk]

/-- After an insertion the key has the new value, and all others have what they had. -/
theorem lookup_insertEntry (key k : String) (value : α) (entries : List (String × α)) :
    (insertEntry key value entries).lookup k =
      if k = key then some value else entries.lookup k := by
  induction entries with
  | nil => rw [insertEntry, lookup_cons]
  | cons e rest ih =>
    obtain ⟨k', v⟩ := e
    rw [insertEntry]
    split
    · rw [lookup_cons]
    split
    · next h =>
      rw [lookup_cons, lookup_cons, ih]
      by_cases hk : k = k'
      · -- The entry that is passed over has a smaller key.
        have : k ≠ key := fun he => String.lt_irrefl _ (he ▸ hk ▸ h)
        rw [if_pos hk, if_neg this, if_pos hk]
      · rw [if_neg hk, if_neg hk]
    · next h₁ h₂ =>
      have he : k' = key := String.le_antisymm (String.not_lt.1 h₁) (String.not_lt.1 h₂)
      rw [lookup_cons, lookup_cons, he]
      by_cases hk : k = key <;> simp [hk]

@[simp] theorem find?_empty (key : String) : (empty : Dictionary α).find? key = none := rfl

theorem find?_insert (d : Dictionary α) (key k : String) (value : α) :
    (d.insert key value).find? k = if k = key then some value else d.find? k :=
  lookup_insertEntry key k value d.entries

/-- A key is found with the value of its entry, for no other entry has the key. -/
theorem mem_entries_iff {d : Dictionary α} {key : String} {value : α} :
    (key, value) ∈ d.entries ↔ d.find? key = some value := by
  rw [find?, List.lookup_eq_some_iff]
  constructor
  · intro h
    obtain ⟨before, after, hsplit⟩ := List.append_of_mem h
    refine ⟨before, after, hsplit, fun e he => ?_⟩
    have hsorted := d.sorted
    rw [hsplit] at hsorted
    have hlt := (List.pairwise_append.1 hsorted).2.2 e he (key, value) List.mem_cons_self
    rw [bne_iff_ne]
    rintro rfl
    exact String.lt_irrefl _ hlt
  · rintro ⟨before, after, hsplit, -⟩
    rw [hsplit]
    exact List.mem_append_right _ List.mem_cons_self

/-- The keys are those that are found. -/
theorem mem_keys_iff {d : Dictionary α} {key : String} :
    key ∈ d.keys ↔ ∃ value, d.find? key = some value := by
  simp only [keys, List.mem_map, ← mem_entries_iff]
  constructor
  · rintro ⟨e, he, rfl⟩
    exact ⟨e.2, he⟩
  · rintro ⟨value, he⟩
    exact ⟨_, he, rfl⟩

/-- A value of a dictionary made from a list is that of the last entry with its key. -/
theorem find?_ofList (entries : List (String × α)) (key : String) :
    (ofList entries).find? key = entries.reverse.lookup key := by
  have insertAll (d : Dictionary α) :
      (entries.foldl (fun d e => d.insert e.1 e.2) d).find? key =
        (entries.reverse.lookup key).or (d.find? key) := by
    induction entries generalizing d with
    | nil => rfl
    | cons e rest ih =>
      rw [List.foldl_cons, ih, find?_insert, List.reverse_cons, List.lookup_append,
        Option.or_assoc, lookup_cons]
      by_cases hk : key = e.1 <;> simp [hk]
  rw [ofList, insertAll, find?_empty, Option.or_none]

/-- The keys of a dictionary made from a list are those of its entries. -/
theorem find?_ofList_eq_none {entries : List (String × α)} {key : String} :
    (ofList entries).find? key = none ↔ ∀ e ∈ entries, e.1 ≠ key := by
  rw [find?_ofList, List.lookup_eq_none_iff]
  simp only [List.mem_reverse, bne_iff_ne]
  exact forall₂_congr fun e _ => ne_comm

/-- A value of a dictionary made from a list is in the list. -/
theorem mem_of_find?_ofList {entries : List (String × α)} {key : String} {value : α}
    (h : (ofList entries).find? key = some value) : (key, value) ∈ entries := by
  rw [find?_ofList, List.lookup_eq_some_iff] at h
  obtain ⟨l₁, l₂, hsplit, -⟩ := h
  rw [← List.mem_reverse, hsplit]
  exact List.mem_append_right _ List.mem_cons_self

/-- If all entries with a key agree on its value, it has that value. -/
theorem find?_ofList_of_agree {entries : List (String × α)} {key : String} {value : α}
    (hmem : (key, value) ∈ entries) (hagree : ∀ v, (key, v) ∈ entries → v = value) :
    (ofList entries).find? key = some value := by
  cases h : (ofList entries).find? key with
  | none => exact absurd rfl (find?_ofList_eq_none.1 h _ hmem)
  | some v => rw [hagree v (mem_of_find?_ofList h)]

/-- If the entries with a key agree, a dictionary made from a list has what is in the list. -/
theorem find?_ofList_iff {entries : List (String × α)} {key : String} {value : α}
    (hagree : ∀ v w, (key, v) ∈ entries → (key, w) ∈ entries → v = w) :
    (ofList entries).find? key = some value ↔ (key, value) ∈ entries :=
  ⟨mem_of_find?_ofList, fun h => find?_ofList_of_agree h fun v hv => hagree v value hv h⟩

/-- If the entries with a key agree, a dictionary made from a list holds those of the list. -/
theorem mem_entries_ofList {entries : List (String × α)} {key : String} {value : α}
    (hagree : ∀ v w, (key, v) ∈ entries → (key, w) ∈ entries → v = w) :
    (key, value) ∈ (ofList entries).entries ↔ (key, value) ∈ entries :=
  mem_entries_iff.trans (find?_ofList_iff hagree)

/-- A dictionary holds every entry once. -/
theorem nodup_entries (d : Dictionary α) : d.entries.Nodup :=
  List.Pairwise.imp (S := (· ≠ ·)) (fun hlt heq => String.lt_irrefl _ (heq ▸ hlt)) d.sorted

/-- The entries of a dictionary, in any order, make that dictionary. -/
theorem ofList_of_perm {d : Dictionary α} {entries : List (String × α)}
    (h : entries.Perm d.entries) : ofList entries = d := by
  have hagree (key : String) (v w : α) (hv : (key, v) ∈ entries) (hw : (key, w) ∈ entries) :
      v = w :=
    Option.some.inj ((mem_entries_iff.1 (h.mem_iff.1 hv)).symm.trans
      (mem_entries_iff.1 (h.mem_iff.1 hw)))
  have hmem (e : String × α) : e ∈ (ofList entries).entries ↔ e ∈ d.entries :=
    (mem_entries_ofList (hagree e.1)).trans h.mem_iff
  have hperm : (ofList entries).entries.Perm d.entries :=
    (List.perm_ext_iff_of_nodup (nodup_entries _) (nodup_entries _)).2 hmem
  -- Both are in ascending order, and of that there is only one.
  have heq : (ofList entries).entries = d.entries :=
    hperm.eq_of_pairwise
      (fun a b _ _ hab hba => absurd (String.lt_trans hab hba) (String.lt_irrefl _))
      (ofList entries).sorted d.sorted
  generalize ofList entries = d' at heq
  cases d
  cases d'
  cases heq
  rfl

end TemplateCatalog.Dictionary
