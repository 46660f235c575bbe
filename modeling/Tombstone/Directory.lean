/-!
# Directories

A directory keeps one value under each of its keys, in the order in which the keys were added. It is
described by what `Directory.find?` gives after each operation.
-/

namespace Tombstone

universe u v

/-- Values under keys, in the order in which the keys were added. -/
structure Directory (Key : Type u) (Value : Type v) where
  entries : List (Key × Value) := []
  deriving DecidableEq, Repr, Inhabited

namespace Directory

variable {Key : Type u} {Value : Type v} [DecidableEq Key]

/-- The value under a key among keys with values: that of the first entry for the key. -/
def search (key : Key) : List (Key × Value) → Option Value
  | [] => none
  | (name, value) :: rest => if name = key then some value else search key rest

def find? (directory : Directory Key Value) (key : Key) : Option Value :=
  search key directory.entries

/-- Whether there is a value under a key. -/
def contains (directory : Directory Key Value) (key : Key) : Bool := (directory.find? key).isSome

/-- The keys, in the order in which they were added. -/
def keys (directory : Directory Key Value) : List Key := directory.entries.map (·.1)

def size (directory : Directory Key Value) : Nat := directory.entries.length

def isEmpty (directory : Directory Key Value) : Bool := directory.entries.isEmpty

/-- Changes the value under a key, if there is one. -/
def adjust (directory : Directory Key Value) (key : Key) (change : Value → Value) :
    Directory Key Value :=
  { entries := directory.entries.map fun entry =>
      if entry.1 = key then (entry.1, change entry.2) else entry }

/-- Puts a value under a key, in the place of the value there. -/
def put (directory : Directory Key Value) (key : Key) (value : Value) : Directory Key Value :=
  if directory.contains key then directory.adjust key fun _ => value
  else { entries := directory.entries ++ [(key, value)] }

def remove (directory : Directory Key Value) (key : Key) : Directory Key Value :=
  { entries := directory.entries.filter fun entry => entry.1 ≠ key }

@[simp]
theorem find?_empty (key : Key) : ({} : Directory Key Value).find? key = none := rfl

theorem find?_adjust (directory : Directory Key Value) (key other : Key)
    (change : Value → Value) :
    (directory.adjust key change).find? other =
      if other = key then (directory.find? other).map change else directory.find? other := by
  simp only [find?, adjust]
  induction directory.entries with
  | nil => simp [search]
  | cons entry rest ih =>
      obtain ⟨name, value⟩ := entry
      by_cases hit : name = key
      · subst hit
        by_cases same : other = name
        · simp [search, same]
        · simp [search, same, Ne.symm same, ih]
      · by_cases same : name = other
        · subst same
          simp [search, hit]
        · simp [search, same, hit, ih]

theorem find?_remove (directory : Directory Key Value) (key other : Key) :
    (directory.remove key).find? other = if other = key then none else directory.find? other := by
  simp only [find?, remove]
  induction directory.entries with
  | nil => simp [search]
  | cons entry rest ih =>
      obtain ⟨name, value⟩ := entry
      by_cases hit : name = key
      · subst hit
        by_cases same : other = name
        · subst same
          simpa using ih
        · simpa [search, same, Ne.symm same] using ih
      · by_cases same : name = other
        · subst same
          simp [search, hit]
        · simpa [search, same, hit] using ih

theorem search_append_single (entries : List (Key × Value)) (key other : Key) (value : Value)
    (absent : search key entries = none) :
    search other (entries ++ [(key, value)]) =
      if other = key then some value else search other entries := by
  induction entries with
  | nil => simp [search, eq_comm]
  | cons entry rest ih =>
      obtain ⟨name, held⟩ := entry
      by_cases hit : name = key
      · simp [search, hit] at absent
      · simp only [search, hit, if_false] at absent
        by_cases same : name = other <;> simp_all [search]

theorem find?_put (directory : Directory Key Value) (key other : Key) (value : Value) :
    (directory.put key value).find? other =
      if other = key then some value else directory.find? other := by
  unfold put
  by_cases present : directory.contains key
  · rw [if_pos present, find?_adjust]
    by_cases same : other = key
    · subst same
      obtain ⟨held, found⟩ := Option.isSome_iff_exists.1 present
      simp [found]
    · simp [same]
  · rw [if_neg present]
    have absent : search key directory.entries = none := by
      simpa [contains, find?] using present
    exact search_append_single directory.entries key other value absent

end Directory

end Tombstone
