import Tombstone.Directory

/-!
# The keys of a directory

No operation on a directory puts a second entry under a key. Where the keys are distinct, looking a
key up and looking through the entries come to the same, so what is said of every entry in turn is
said of what the directory gives for each key.
-/

namespace Tombstone

universe u v

namespace Directory

variable {Key : Type u} {Value : Type v}

/-- No two entries have the same key. -/
def Distinct (directory : Directory Key Value) : Prop := directory.keys.Nodup

theorem distinct_empty : ({} : Directory Key Value).Distinct := List.nodup_nil

variable [DecidableEq Key]

theorem search_eq_none_iff {key : Key} {entries : List (Key × Value)} :
    search key entries = none ↔ key ∉ entries.map (·.1) := by
  induction entries with
  | nil => simp [search]
  | cons entry rest ih =>
      by_cases hit : entry.1 = key
      · simp [search, hit]
      · simp [search, hit, Ne.symm hit, ih]

theorem contains_iff_mem_keys {directory : Directory Key Value} {key : Key} :
    directory.contains key = true ↔ key ∈ directory.keys := by
  rw [contains, find?, Option.isSome_iff_ne_none, ne_eq, search_eq_none_iff, Classical.not_not]
  rfl

theorem mem_entries_of_search {key : Key} {value : Value} {entries : List (Key × Value)}
    (found : search key entries = some value) : (key, value) ∈ entries := by
  induction entries with
  | nil => cases found
  | cons entry rest ih =>
      rcases entry with ⟨name, held⟩
      by_cases hit : name = key
      · simp only [search, if_pos hit, Option.some.injEq] at found
        simp [hit, found]
      · simp only [search, if_neg hit] at found
        exact List.mem_cons_of_mem _ (ih found)

theorem mem_entries_of_find? {directory : Directory Key Value} {key : Key} {value : Value}
    (found : directory.find? key = some value) : (key, value) ∈ directory.entries :=
  mem_entries_of_search found

theorem search_of_mem_entries {key : Key} {value : Value} {entries : List (Key × Value)}
    (distinct : (entries.map (·.1)).Nodup) (entry_mem : (key, value) ∈ entries) :
    search key entries = some value := by
  induction entries with
  | nil => cases entry_mem
  | cons entry rest ih =>
      rcases List.nodup_cons.mp distinct with ⟨fresh, distinctRest⟩
      rcases List.mem_cons.mp entry_mem with rfl | inRest
      · simp [search]
      · have other : entry.1 ≠ key := by
          intro same
          exact fresh (List.mem_map.mpr ⟨(key, value), inRest, same.symm⟩)
        simpa [search, other] using ih distinctRest inRest

theorem Distinct.find?_of_mem_entries {directory : Directory Key Value} {key : Key} {value : Value}
    (distinct : directory.Distinct) (entry_mem : (key, value) ∈ directory.entries) :
    directory.find? key = some value :=
  search_of_mem_entries distinct entry_mem

theorem Distinct.map_entries {directory : Directory Key Value} (distinct : directory.Distinct) :
    (directory.entries.map fun entry => (entry.1, some entry.2)) =
      directory.keys.map fun key => (key, directory.find? key) := by
  simp only [keys, List.map_map]
  apply List.map_congr_left
  intro entry entry_mem
  simp [distinct.find?_of_mem_entries entry_mem]

/-- Distinct keys in the same order, with the same values, make the same directory. -/
theorem Distinct.eq_of_find?_eq {left right : Directory Key Value} (distinctLeft : left.Distinct)
    (distinctRight : right.Distinct) (keys_eq : left.keys = right.keys)
    (same : ∀ key, left.find? key = right.find? key) : left = right := by
  have entries_eq : (left.entries.map fun entry => (entry.1, some entry.2)) =
      right.entries.map fun entry => (entry.1, some entry.2) := by
    rw [distinctLeft.map_entries, distinctRight.map_entries, keys_eq, funext same]
  rw [mk.injEq]
  apply (List.map_inj_right _).mp entries_eq
  rintro ⟨key, value⟩ ⟨other, held⟩ pair_eq
  simpa using pair_eq

@[simp]
theorem keys_adjust (directory : Directory Key Value) (key : Key) (change : Value → Value) :
    (directory.adjust key change).keys = directory.keys := by
  simp only [keys, adjust, List.map_map]
  apply List.map_congr_left
  intro entry _
  simp only [Function.comp]
  split <;> rfl

/-- Two changes of one value are one change. -/
theorem adjust_adjust (directory : Directory Key Value) (key : Key) (first later : Value → Value) :
    (directory.adjust key first).adjust key later =
      directory.adjust key fun value => later (first value) := by
  simp only [adjust, List.map_map, mk.injEq]
  apply List.map_congr_left
  intro entry _
  by_cases hit : entry.1 = key <;> simp [hit]

theorem keys_put (directory : Directory Key Value) (key : Key) (value : Value) :
    (directory.put key value).keys =
      if directory.contains key then directory.keys else directory.keys ++ [key] := by
  simp only [put]
  split
  · exact keys_adjust directory key fun _ => value
  · simp [keys]

theorem Distinct.adjust {directory : Directory Key Value} (distinct : directory.Distinct)
    (key : Key) (change : Value → Value) : (directory.adjust key change).Distinct := by
  rw [Distinct, keys_adjust]
  exact distinct

theorem Distinct.put {directory : Directory Key Value} (distinct : directory.Distinct)
    (key : Key) (value : Value) : (directory.put key value).Distinct := by
  rw [Distinct, keys_put]
  by_cases present : directory.contains key
  · rw [if_pos present]
    exact distinct
  · rw [if_neg present]
    have fresh : key ∉ directory.keys := fun mem => present (contains_iff_mem_keys.mpr mem)
    exact List.nodup_append.mpr ⟨distinct, by simp, by
      intro name name_mem last last_mem same
      rw [List.mem_singleton.mp last_mem] at same
      exact fresh (same ▸ name_mem)⟩

theorem Distinct.remove {directory : Directory Key Value} (distinct : directory.Distinct)
    (key : Key) : (directory.remove key).Distinct := by
  have sublist : (directory.remove key).keys.Sublist directory.keys :=
    List.filter_sublist.map _
  exact distinct.sublist sublist

/-- Where there is no value under a key, nothing is removed. -/
theorem remove_of_absent {directory : Directory Key Value} {key : Key}
    (absent : directory.contains key = false) : directory.remove key = directory := by
  rw [remove, List.filter_eq_self.mpr]
  intro entry entry_mem
  rw [decide_eq_true_eq]
  rintro rfl
  rw [contains_iff_mem_keys.mpr (List.mem_map_of_mem entry_mem)] at absent
  cases absent

end Directory

end Tombstone
