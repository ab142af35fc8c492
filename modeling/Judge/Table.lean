/-!
Tables keyed by whole numbers, kept in ascending order of the keys. A table is seen through `get?`;
one lemma per operation says what it does to that view.
-/

namespace Judge

/-- Puts an entry in its place, replacing an entry of the same key. -/
def insertEntry {α : Type} (key : Int) (value : α) : List (Int × α) → List (Int × α)
  | [] => [(key, value)]
  | (k, v) :: rest =>
    if key < k then (key, value) :: (k, v) :: rest
    else if key = k then (key, value) :: rest
    else (k, v) :: insertEntry key value rest

/-- Entries in strictly ascending order of their keys. -/
def Ascending {α : Type} (entries : List (Int × α)) : Prop :=
  entries.Pairwise fun a b => a.1 < b.1

theorem mem_insertEntry {α : Type} {key : Int} {value : α} {entries : List (Int × α)}
    {e : Int × α} (h : e ∈ insertEntry key value entries) : e = (key, value) ∨ e ∈ entries := by
  induction entries with
  | nil => simpa [insertEntry] using h
  | cons head rest ih =>
    obtain ⟨k, v⟩ := head
    simp only [insertEntry] at h
    split at h
    · simpa using h
    · split at h
      · rcases List.mem_cons.mp h with h | h
        · exact .inl h
        · exact .inr (List.mem_cons_of_mem _ h)
      · rcases List.mem_cons.mp h with h | h
        · exact .inr (by simp [h])
        · exact (ih h).imp_right (List.mem_cons_of_mem _)

theorem ascending_insertEntry {α : Type} {key : Int} {value : α} {entries : List (Int × α)}
    (h : Ascending entries) : Ascending (insertEntry key value entries) := by
  induction entries with
  | nil => simp [insertEntry, Ascending]
  | cons head rest ih =>
    obtain ⟨k, v⟩ := head
    obtain ⟨hk, hr⟩ := List.pairwise_cons.mp h
    simp only [insertEntry]
    split
    · next hlt =>
      refine List.pairwise_cons.mpr ⟨fun e he => ?_, h⟩
      rcases List.mem_cons.mp he with rfl | he
      · exact hlt
      · exact Int.lt_trans hlt (hk e he)
    · split
      · next heq => exact List.pairwise_cons.mpr ⟨fun e he => by simpa [heq] using hk e he, hr⟩
      · next hlt hne =>
        refine List.pairwise_cons.mpr ⟨fun e he => ?_, ih hr⟩
        rcases mem_insertEntry he with rfl | he
        · simp only; omega
        · exact hk e he

/-- A finite table from whole numbers. -/
structure Table (α : Type) where
  /-- The entries in ascending order. -/
  entries : List (Int × α)
  ascending : Ascending entries := by simp [Ascending]

namespace Table

variable {α β : Type}

@[ext] theorem ext {a b : Table α} (h : a.entries = b.entries) : a = b := by
  cases a; cases b; simp_all

instance [DecidableEq α] : DecidableEq (Table α) := fun a b =>
  decidable_of_iff (a.entries = b.entries) ⟨ext, fun h => h ▸ rfl⟩

/-- The table without entries. -/
def empty : Table α := { entries := [] }

instance : Inhabited (Table α) := ⟨empty⟩

/-- The keys in ascending order. -/
def keys (table : Table α) : List Int := table.entries.map (·.1)

/-- The values in the order of their keys. -/
def values (table : Table α) : List α := table.entries.map (·.2)

/-- The number of entries. -/
def size (table : Table α) : Nat := table.entries.length

/-- The value of a key. -/
def get? (table : Table α) (key : Int) : Option α :=
  (table.entries.find? fun e => e.1 == key).map (·.2)

/-- Whether there is a value for a key. -/
def contains (table : Table α) (key : Int) : Bool := (table.get? key).isSome

/-- Adds an entry, or replaces the entry of the key. -/
def insert (table : Table α) (key : Int) (value : α) : Table α :=
  ⟨insertEntry key value table.entries, ascending_insertEntry table.ascending⟩

/-- The table with the entries given, later ones winning over earlier ones of the same key. -/
def ofList (entries : List (Int × α)) : Table α :=
  entries.foldl (fun table e => table.insert e.1 e.2) empty

/-- Changes every value, keeping the keys. -/
def mapEntries (f : Int → α → β) (table : Table α) : Table β where
  entries := table.entries.map fun e => (e.1, f e.1 e.2)
  ascending := by
    have h := table.ascending
    simpa [Ascending, List.pairwise_map] using h

/-- Keeps the entries that satisfy a condition. -/
def filter (p : Int → α → Bool) (table : Table α) : Table α where
  entries := table.entries.filter fun e => p e.1 e.2
  ascending := table.ascending.filter _

/-- Removes the entry of a key, if there is one. -/
def erase (table : Table α) (key : Int) : Table α := table.filter fun k _ => k != key

@[simp] theorem get?_empty (key : Int) : (empty : Table α).get? key = none := rfl

@[simp] theorem entries_empty : (empty : Table α).entries = [] := rfl

theorem find?_insertEntry (key other : Int) (value : α) (entries : List (Int × α)) :
    (insertEntry key value entries).find? (fun e => e.1 == other) =
      if key = other then some (key, value) else entries.find? (fun e => e.1 == other) := by
  induction entries with
  | nil => by_cases h : key = other <;> simp [insertEntry, h]
  | cons head rest ih =>
    obtain ⟨k, v⟩ := head
    simp only [insertEntry]
    by_cases h : key = other
    · subst h
      split
      · simp
      · split
        · simp
        · next hne =>
          have : (k == key) = false := by simp; omega
          simp [this, ih]
    · split
      · simp [h]
      · split
        · next heq => subst heq; simp [h]
        · by_cases hk : k = other <;> simp [hk, h, ih]

/-- A key holds what was last put in for it. -/
theorem get?_insert (table : Table α) (key other : Int) (value : α) :
    (table.insert key value).get? other = if key = other then some value else table.get? other := by
  simp only [get?, insert, find?_insertEntry]
  split <;> rfl

@[simp] theorem get?_insert_self (table : Table α) (key : Int) (value : α) :
    (table.insert key value).get? key = some value := by simp [get?_insert]

theorem get?_insert_of_ne (table : Table α) {key other : Int} (value : α) (h : key ≠ other) :
    (table.insert key value).get? other = table.get? other := by simp [get?_insert, h]

@[simp] theorem get?_mapEntries (f : Int → α → β) (table : Table α) (key : Int) :
    (table.mapEntries f).get? key = (table.get? key).map (f key) := by
  obtain ⟨entries, h⟩ := table
  simp only [get?, mapEntries]
  clear h
  induction entries with
  | nil => rfl
  | cons e rest ih =>
    by_cases hk : e.1 = key
    · subst hk; simp
    · simpa [hk] using ih

theorem eq_of_mem {table : Table α} {e d : Int × α} (he : e ∈ table.entries)
    (hd : d ∈ table.entries) (h : e.1 = d.1) : e = d := by
  obtain ⟨entries, hs⟩ := table
  simp only at he hd
  induction entries with
  | nil => simp at he
  | cons head rest ih =>
    obtain ⟨hk, hr⟩ := List.pairwise_cons.mp hs
    rcases List.mem_cons.mp he with he' | he' <;> rcases List.mem_cons.mp hd with hd' | hd'
    · rw [he', hd']
    · have := hk d hd'; rw [he'] at h; omega
    · have := hk e he'; rw [hd'] at h; omega
    · exact ih hr he' hd'

/-- A key holds a value exactly when the pair is an entry. -/
theorem get?_eq_some_iff {table : Table α} {key : Int} {value : α} :
    table.get? key = some value ↔ (key, value) ∈ table.entries := by
  constructor
  · intro h
    simp only [get?, Option.map_eq_some_iff] at h
    obtain ⟨⟨k, v⟩, hf, rfl⟩ := h
    have hm := List.mem_of_find?_eq_some hf
    have hk := List.find?_some hf
    simp only [beq_iff_eq] at hk
    exact hk ▸ hm
  · intro h
    have hsome : (table.entries.find? fun e => e.1 == key).isSome := by
      rw [List.find?_isSome]; exact ⟨_, h, by simp⟩
    obtain ⟨e, hf⟩ := Option.isSome_iff_exists.mp hsome
    have hk := List.find?_some hf
    simp only [beq_iff_eq] at hk
    have := eq_of_mem (List.mem_of_find?_eq_some hf) h hk
    simp [get?, hf, this]

/-- Only entries that satisfy the condition are left. -/
theorem get?_filter (p : Int → α → Bool) (table : Table α) (key : Int) :
    (table.filter p).get? key = (table.get? key).filter (p key) := by
  apply Option.ext
  intro value
  rw [get?_eq_some_iff, Option.filter_eq_some_iff, get?_eq_some_iff]
  simp [filter]

/-- An erased key holds nothing and the other keys what they held. -/
theorem get?_erase (table : Table α) (key other : Int) :
    (table.erase key).get? other = if key = other then none else table.get? other := by
  rw [erase, get?_filter]
  by_cases h : key = other
  · subst h; simp
  · have : (other != key) = true := by simp; omega
    simp only [h, this, if_false]
    cases table.get? other <;> rfl

end Table
end Judge
