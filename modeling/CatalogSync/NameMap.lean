/-!
# Maps by name

Finite maps whose keys are names, listed in increasing order of the names. Two maps with the same
entries are equal. `get?_insert` says what an insertion does to every look-up.
-/

namespace CatalogSync

/-- A finite map from names, its entries in increasing order. -/
structure NameMap (α : Type) where
  entries : List (String × α)
  ascending : entries.Pairwise (fun a b => a.1 < b.1)

namespace NameMap

variable {α β : Type}

def empty : NameMap α := ⟨[], .nil⟩

instance : Inhabited (NameMap α) := ⟨empty⟩

instance : EmptyCollection (NameMap α) := ⟨empty⟩

/-- The value under a name. -/
def get? (m : NameMap α) (name : String) : Option α := m.entries.lookup name

def contains (m : NameMap α) (name : String) : Bool := (m.get? name).isSome

def keys (m : NameMap α) : List String := m.entries.map Prod.fst

def values (m : NameMap α) : List α := m.entries.map Prod.snd

/-- Entries with one more in its place; an entry of the same name is replaced. -/
def insertEntry (name : String) (value : α) : List (String × α) → List (String × α)
  | [] => [(name, value)]
  | e :: rest =>
    if name < e.1 then (name, value) :: e :: rest
    else if e.1 < name then e :: insertEntry name value rest
    else (name, value) :: rest

theorem mem_insertEntry {name : String} {value : α} {entries : List (String × α)}
    {e : String × α} (h : e ∈ insertEntry name value entries) :
    e = (name, value) ∨ e ∈ entries := by
  induction entries with
  | nil => simpa [insertEntry] using h
  | cons a rest ih =>
    simp only [insertEntry] at h
    split at h
    · simpa using h
    · split at h
      · rcases List.mem_cons.1 h with rfl | h
        · simp
        · rcases ih h with h | h <;> simp [h]
      · rcases List.mem_cons.1 h with h | h <;> simp [h]

theorem pairwise_insertEntry {name : String} {value : α} {entries : List (String × α)}
    (h : entries.Pairwise (fun a b => a.1 < b.1)) :
    (insertEntry name value entries).Pairwise (fun a b => a.1 < b.1) := by
  induction entries with
  | nil => simp [insertEntry]
  | cons a rest ih =>
    obtain ⟨hrest, hpair⟩ := List.pairwise_cons.1 h
    simp only [insertEntry]
    split
    · next hlt =>
      refine List.pairwise_cons.2 ⟨fun e he => ?_, h⟩
      rcases List.mem_cons.1 he with rfl | he
      · exact hlt
      · exact String.lt_trans hlt (hrest e he)
    · next hnot =>
      split
      · next hlt =>
        refine List.pairwise_cons.2 ⟨fun e he => ?_, ih hpair⟩
        rcases mem_insertEntry he with rfl | he
        · exact hlt
        · exact hrest e he
      · next hnot' =>
        have heq : a.1 = name := String.le_antisymm (String.not_lt.1 hnot) (String.not_lt.1 hnot')
        exact List.pairwise_cons.2 ⟨fun e he => heq ▸ hrest e he, hpair⟩

/-- The map with a value put under a name. -/
def insert (m : NameMap α) (name : String) (value : α) : NameMap α :=
  ⟨insertEntry name value m.entries, pairwise_insertEntry m.ascending⟩

/-- The map of a list of entries, of several under one name the last. -/
def ofList (entries : List (String × α)) : NameMap α :=
  entries.foldl (fun m e => m.insert e.1 e.2) empty

/-- The map with every value changed. -/
def map (f : α → β) (m : NameMap α) : NameMap β where
  entries := m.entries.map fun e => (e.1, f e.2)
  ascending := List.pairwise_map.2 m.ascending

/-- The map with the value under a name changed, if there is one. -/
def modify (m : NameMap α) (name : String) (f : α → α) : NameMap α :=
  match m.get? name with
  | some value => m.insert name (f value)
  | none => m

theorem lookup_cons_eq (other name : String) (value : α) (rest : List (String × α)) :
    ((name, value) :: rest).lookup other =
      if other = name then some value else rest.lookup other := by
  rw [List.lookup_cons]
  by_cases h : other = name
  · simp [h]
  · rw [beq_false_of_ne h, if_neg h]

theorem lookup_insertEntry (name other : String) (value : α) (entries : List (String × α)) :
    (insertEntry name value entries).lookup other =
      if other = name then some value else entries.lookup other := by
  induction entries with
  | nil => exact lookup_cons_eq other name value []
  | cons a rest ih =>
    obtain ⟨n, v⟩ := a
    simp only [insertEntry]
    split
    · exact lookup_cons_eq other name value _
    · next hnot =>
      split
      · next hlt =>
        have hne : n ≠ name := fun he => String.lt_irrefl _ (he ▸ hlt)
        rw [lookup_cons_eq, lookup_cons_eq, ih]
        by_cases ho : other = n
        · simp [ho, hne]
        · simp [ho]
      · next hnot' =>
        have heq : n = name := String.le_antisymm (String.not_lt.1 hnot) (String.not_lt.1 hnot')
        subst heq
        rw [lookup_cons_eq, lookup_cons_eq]
        split <;> rfl

/-- An insertion answers for its own name and leaves the others. -/
@[simp] theorem get?_insert (m : NameMap α) (name other : String) (value : α) :
    (m.insert name value).get? other = if other = name then some value else m.get? other :=
  lookup_insertEntry name other value m.entries

/-- An entry whose name comes after all others is put last. -/
theorem insertEntry_of_forall_lt {name : String} {value : α} {entries : List (String × α)}
    (h : ∀ e ∈ entries, e.1 < name) :
    insertEntry name value entries = entries ++ [(name, value)] := by
  induction entries with
  | nil => rfl
  | cons a rest ih =>
    have hlt : a.1 < name := h a List.mem_cons_self
    rw [insertEntry, if_neg (String.lt_asymm hlt), if_pos hlt,
      ih fun e he => h e (List.mem_cons_of_mem a he), List.cons_append]

/-- A map is made of its own entries. -/
theorem ofList_entries (m : NameMap α) : ofList m.entries = m := by
  have hfold : ∀ (rest : List (String × α)) (front : NameMap α),
      (front.entries ++ rest).Pairwise (fun a b => a.1 < b.1) →
      (rest.foldl (fun m e => m.insert e.1 e.2) front).entries = front.entries ++ rest := by
    intro rest
    induction rest with
    | nil => intro front _; simp
    | cons e rest ih =>
      intro front h
      have hlast : (front.insert e.1 e.2).entries = front.entries ++ [e] :=
        insertEntry_of_forall_lt fun a ha =>
          (List.pairwise_append.1 h).2.2 a ha e List.mem_cons_self
      have happend : (front.insert e.1 e.2).entries ++ rest = front.entries ++ e :: rest := by
        rw [hlast, List.append_assoc, List.singleton_append]
      rw [List.foldl_cons, ih _ (happend ▸ h), happend]
  have hentries : (ofList m.entries).entries = m.entries := hfold m.entries empty m.ascending
  cases h : ofList m.entries
  cases m
  simp_all

/-- The entries are what the look-ups find. -/
theorem mem_entries_iff (m : NameMap α) {name : String} {value : α} :
    (name, value) ∈ m.entries ↔ m.get? name = some value := by
  obtain ⟨entries, hascending⟩ := m
  simp only [get?]
  induction entries with
  | nil => simp
  | cons a rest ih =>
    obtain ⟨n, v⟩ := a
    obtain ⟨hfirst, hrest⟩ := List.pairwise_cons.1 hascending
    rw [lookup_cons_eq, List.mem_cons, Prod.mk.injEq]
    by_cases hname : name = n
    · subst hname
      have hnone : (name, value) ∉ rest := fun h =>
        String.lt_irrefl name (hfirst (name, value) h)
      simp [hnone, eq_comm]
    · simp [hname, ih hrest]

@[simp] theorem get?_empty (name : String) : (empty : NameMap α).get? name = none := rfl

end NameMap

end CatalogSync
