import Mathlib.Data.List.Perm.Subperm
import Mathlib.Tactic.Lemma
import Judge.Table

/-!
Tables as sorted lists: lists that ascend are determined by their members, an entry with a key above
all others goes to the end, and a list that is in order already is the table made from it.
-/

namespace Judge
namespace Table

variable {α : Type}

/-- Lists that ascend by a key are equal if they have the same members. -/
theorem eq_of_mem_iff_of_ascending {β : Type} (key : β → Int) {a b : List β}
    (ha : a.Pairwise fun x y => key x < key y) (hb : b.Pairwise fun x y => key x < key y)
    (h : ∀ x, x ∈ a ↔ x ∈ b) : a = b := by
  have hnodup : ∀ {l : List β}, l.Pairwise (fun x y => key x < key y) → l.Nodup := by
    intro l hl
    refine hl.imp ?_
    rintro x y hlt rfl
    exact Int.lt_irrefl _ hlt
  refine List.Perm.eq_of_pairwise ?_ ha hb ?_
  · intro x y _ _ hxy hyx
    exact absurd (Int.lt_trans hxy hyx) (Int.lt_irrefl _)
  · exact (List.perm_ext_iff_of_nodup (hnodup ha) (hnodup hb)).mpr h

theorem mem_keys_iff {table : Table α} {key : Int} :
    key ∈ table.keys ↔ (table.get? key).isSome := by
  rw [Option.isSome_iff_exists]
  constructor
  · intro h
    obtain ⟨⟨k, value⟩, he, rfl⟩ := List.mem_map.mp h
    exact ⟨value, get?_eq_some_iff.mpr he⟩
  · rintro ⟨value, h⟩
    exact List.mem_map.mpr ⟨(key, value), get?_eq_some_iff.mp h, rfl⟩

theorem contains_iff {table : Table α} {key : Int} :
    table.contains key = true ↔ key ∈ table.keys := mem_keys_iff.symm

theorem ascending_keys (table : Table α) : table.keys.Pairwise (· < ·) :=
  List.pairwise_map.mpr table.ascending

theorem nodup_keys (table : Table α) : table.keys.Nodup := table.ascending_keys.imp Int.ne_of_lt

/-- The entries again, from the keys and what they hold. -/
theorem entries_eq_map_keys (table : Table α) (usual : α) :
    table.entries = table.keys.map fun key => (key, (table.get? key).getD usual) := by
  rw [keys, List.map_map]
  conv_lhs => rw [← List.map_id table.entries]
  apply List.map_congr_left
  rintro ⟨key, value⟩ he
  simp [get?_eq_some_iff.mpr he]

@[simp] theorem length_keys (table : Table α) : table.keys.length = table.size := by
  simp [keys, size]

@[simp] theorem length_values (table : Table α) : table.values.length = table.size := by
  simp [values, size]

theorem mem_keys_insert {table : Table α} {key other : Int} {value : α} :
    other ∈ (table.insert key value).keys ↔ other = key ∨ other ∈ table.keys := by
  rw [mem_keys_iff, mem_keys_iff, get?_insert]
  by_cases h : key = other
  · simp [h]
  · simp [h, Ne.symm h]

lemma insertEntry_of_lt {key : Int} {value : α} {entries : List (Int × α)}
    (h : ∀ e ∈ entries, e.1 < key) : insertEntry key value entries = entries ++ [(key, value)] := by
  induction entries with
  | nil => rfl
  | cons e entries ih =>
    obtain ⟨k, v⟩ := e
    have hk : k < key := h (k, v) (by simp)
    simp only [insertEntry, if_neg (show ¬ key < k by omega), if_neg (show key ≠ k by omega),
      ih fun e he => h e (by simp [he]), List.cons_append]

/-- An entry with a key above all others goes to the end. -/
theorem entries_insert_of_lt {table : Table α} {key : Int} {value : α}
    (h : ∀ k ∈ table.keys, k < key) :
    (table.insert key value).entries = table.entries ++ [(key, value)] :=
  insertEntry_of_lt fun e he => h e.1 (List.mem_map_of_mem he)

/-- Putting in the entries of an ascending list one by one appends the list. -/
lemma entries_foldl_insert {table : Table α} {entries : List (Int × α)}
    (h : Ascending (table.entries ++ entries)) :
    (entries.foldl (fun table e => table.insert e.1 e.2) table).entries =
      table.entries ++ entries := by
  induction entries generalizing table with
  | nil => simp
  | cons e entries ih =>
    have hlt : ∀ k ∈ table.keys, k < e.1 := by
      intro k hk
      obtain ⟨d, hd, rfl⟩ := List.mem_map.mp hk
      exact (List.pairwise_append.mp h).2.2 d hd e (by simp)
    have hins : (table.insert e.1 e.2).entries = table.entries ++ [(e.1, e.2)] :=
      entries_insert_of_lt hlt
    rw [List.foldl_cons, ih (by rw [hins]; simpa using h), hins]
    simp

/-- A list that is in order already is the table made from it. -/
theorem entries_ofList {entries : List (Int × α)} (h : Ascending entries) :
    (ofList entries).entries = entries := by
  have hfold : (ofList entries).entries = empty.entries ++ entries :=
    entries_foldl_insert (by simpa using h)
  rwa [entries_empty, List.nil_append] at hfold

/-- Values numbered from one are in order already. -/
theorem entries_ofList_mapIdx {β : Type} (values : List β) (f : Nat → β → α) :
    (ofList (values.mapIdx fun i value => ((i : Int) + 1, f i value))).entries =
      values.mapIdx fun i value => ((i : Int) + 1, f i value) := by
  apply entries_ofList
  rw [Ascending, List.pairwise_iff_getElem]
  intro i j _ _ hlt
  simp only [List.getElem_mapIdx]
  omega

/-- A table whose keys count from one numbers its values. -/
theorem entries_of_counting {table : Table α}
    (h : table.keys = (List.range table.size).map fun i : Nat => (i : Int) + 1) :
    table.entries = table.values.mapIdx fun i value => ((i : Int) + 1, value) := by
  apply List.ext_getElem
  · simp [values]
  · intro i hi _
    have hkey : table.keys[i]? = some ((i : Int) + 1) := by
      have hsize : i < table.size := hi
      rw [h, List.getElem?_map, List.getElem?_range hsize, Option.map_some]
    rw [keys, List.getElem?_map, List.getElem?_eq_getElem hi, Option.map_some,
      Option.some.injEq] at hkey
    simp only [List.getElem_mapIdx, values, List.getElem_map]
    exact Prod.ext hkey rfl

theorem mem_keys_ofList {entries : List (Int × α)} {key : Int} :
    key ∈ (ofList entries).keys ↔ key ∈ entries.map (·.1) := by
  have hfold : ∀ (entries : List (Int × α)) (table : Table α),
      key ∈ (entries.foldl (fun table e => table.insert e.1 e.2) table).keys ↔
        key ∈ table.keys ∨ key ∈ entries.map (·.1) := by
    intro entries
    induction entries with
    | nil => simp
    | cons e entries ih =>
      intro table
      rw [List.foldl_cons, ih, mem_keys_insert, List.map_cons, List.mem_cons]
      tauto
  rw [ofList, hfold]
  simp [keys]

/-- Tables are equal if every key holds the same in both. -/
theorem ext_get? {table other : Table α} (h : ∀ key, table.get? key = other.get? key) :
    table = other := by
  refine Table.ext (eq_of_mem_iff_of_ascending Prod.fst table.ascending other.ascending ?_)
  rintro ⟨key, value⟩
  rw [← get?_eq_some_iff, ← get?_eq_some_iff, h]

theorem erase_insert (table : Table α) (key : Int) (value : α) :
    (table.insert key value).erase key = table.erase key := by
  apply ext_get?
  intro other
  rw [get?_erase, get?_erase, get?_insert]
  split <;> rfl

@[simp] theorem values_empty : (empty : Table α).values = [] := rfl

theorem mem_values {table : Table α} {key : Int} {value : α} (h : table.get? key = some value) :
    value ∈ table.values := List.mem_map_of_mem (f := (·.2)) (get?_eq_some_iff.mp h)

/-- The values are that of a key and those of the other keys. -/
theorem values_perm {table : Table α} {key : Int} {value : α} (h : table.get? key = some value) :
    table.values.Perm (value :: (table.erase key).values) := by
  obtain ⟨front, rest, hentries⟩ := List.append_of_mem (get?_eq_some_iff.mp h)
  have hne : ∀ e ∈ front ++ rest, e.1 ≠ key := by
    intro e he heq
    have hasc := table.ascending
    rw [Ascending, hentries, List.pairwise_append, List.pairwise_cons] at hasc
    rcases List.mem_append.mp he with he | he
    · have := hasc.2.2 e he (key, value) (by simp)
      omega
    · have := hasc.2.1.1 e he
      omega
  have herase : (table.erase key).entries = front ++ rest := by
    have hfilter : (front ++ rest).filter (fun e => e.1 != key) = front ++ rest :=
      List.filter_eq_self.mpr fun e he => by simpa using hne e he
    change table.entries.filter (fun e => e.1 != key) = front ++ rest
    rw [hentries, List.filter_append, List.filter_cons_of_neg (by simp), ← List.filter_append, hfilter]
  rw [values, values, herase, hentries, List.map_append, List.map_append, List.map_cons]
  exact List.perm_middle

theorem values_insert_perm (table : Table α) (key : Int) (value : α) :
    (table.insert key value).values.Perm (value :: (table.erase key).values) := by
  rw [← erase_insert table key value]
  exact values_perm (get?_insert_self ..)

end Table
end Judge
