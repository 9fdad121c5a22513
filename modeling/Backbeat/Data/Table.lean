/-!
# Finite tables

A table pairs keys with values and remembers the order in which the keys first came.  No key
comes twice: writing to a key that is present replaces its value in place.  Everything that holds
named things in this library holds them in a table.
-/

namespace Backbeat

/-- Keys with their values, in the order in which the keys first came. -/
structure Table (κ α : Type) where
  entries : List (κ × α) := []
  distinct : (entries.map Prod.fst).Nodup := by simp

namespace Table

variable {κ α β : Type} [DecidableEq κ]

def empty : Table κ α := {}

def find? (key : κ) : List (κ × α) → Option α
  | [] => none
  | (present, value) :: rest => if present = key then some value else find? key rest

/-- The pairs with `value` under `key`, in place where the key is present. -/
def put (key : κ) (value : α) : List (κ × α) → List (κ × α)
  | [] => [(key, value)]
  | (present, old) :: rest =>
    if present = key then (key, value) :: rest else (present, old) :: put key value rest

theorem map_fst_put (key : κ) (value : α) (pairs : List (κ × α)) :
    (put key value pairs).map Prod.fst =
      if key ∈ pairs.map Prod.fst then pairs.map Prod.fst else pairs.map Prod.fst ++ [key] := by
  induction pairs with
  | nil => simp [put]
  | cons pair rest ih =>
    obtain ⟨present, old⟩ := pair
    by_cases same : present = key
    · simp [put, same]
    · rw [put, if_neg same, List.map_cons, ih, List.map_cons]
      by_cases later : key ∈ rest.map Prod.fst
      · rw [if_pos later, if_pos (List.mem_cons_of_mem present later)]
      · rw [if_neg later, if_neg (List.not_mem_cons_of_ne_of_not_mem (Ne.symm same) later)]
        rfl

theorem nodup_put (key : κ) (value : α) {pairs : List (κ × α)}
    (distinct : (pairs.map Prod.fst).Nodup) : ((put key value pairs).map Prod.fst).Nodup := by
  rw [map_fst_put]
  split
  · exact distinct
  · next absent =>
    rw [List.nodup_append]
    refine ⟨distinct, by simp, ?_⟩
    intro old member new equal same
    rw [List.mem_singleton] at equal
    subst equal
    exact absent (same ▸ member)

def get? (table : Table κ α) (key : κ) : Option α :=
  find? key table.entries

/-- The value under a key, or `default` where there is none. -/
def getD (table : Table κ α) (key : κ) (default : α) : α :=
  (table.get? key).getD default

def contains (table : Table κ α) (key : κ) : Bool :=
  (table.get? key).isSome

def insert (table : Table κ α) (key : κ) (value : α) : Table κ α :=
  { entries := put key value table.entries, distinct := nodup_put key value table.distinct }

/-- The table with `value` under `key` unless the key is present already. -/
def insertNew (table : Table κ α) (key : κ) (value : α) : Table κ α :=
  if table.contains key then table else table.insert key value

def erase (table : Table κ α) (key : κ) : Table κ α where
  entries := table.entries.filter fun entry => entry.1 ≠ key
  distinct := table.distinct.sublist (List.filter_sublist.map Prod.fst)

def mapValues (change : α → β) (table : Table κ α) : Table κ β where
  entries := table.entries.map fun entry => (entry.1, change entry.2)
  distinct := by simpa [Function.comp_def] using table.distinct

/-- The table of a list of pairs; the last pair of a key wins. -/
def ofList (pairs : List (κ × α)) : Table κ α :=
  pairs.foldl (fun table pair => table.insert pair.1 pair.2) empty

def keys (table : Table κ α) : List κ :=
  table.entries.map Prod.fst

def values (table : Table κ α) : List α :=
  table.entries.map Prod.snd

def size (table : Table κ α) : Nat :=
  table.entries.length

@[simp]
theorem get?_empty (key : κ) : (empty : Table κ α).get? key = none := rfl

theorem find?_put (key other : κ) (value : α) (pairs : List (κ × α)) :
    find? other (put key value pairs) = if key = other then some value else find? other pairs := by
  induction pairs with
  | nil => rfl
  | cons pair rest ih =>
    obtain ⟨present, old⟩ := pair
    by_cases same : present = key
    · subst same
      by_cases hit : present = other <;> simp [put, find?, hit]
    · by_cases hit : present = other
      · subst hit
        simp [put, find?, same, Ne.symm same]
      · simp [put, find?, same, hit, ih]

theorem find?_of_mem {pairs : List (κ × α)} (distinct : (pairs.map Prod.fst).Nodup)
    {entry : κ × α} (listed : entry ∈ pairs) : find? entry.1 pairs = some entry.2 := by
  induction pairs with
  | nil => cases listed
  | cons pair rest ih =>
    obtain ⟨absent, later⟩ := List.nodup_cons.mp distinct
    rcases List.mem_cons.mp listed with same | behind
    · subst same
      simp [find?]
    · have different : pair.1 ≠ entry.1 := by
        intro same
        exact absent (same ▸ List.mem_map_of_mem behind)
      simp only [find?, if_neg different]
      exact ih later behind

/-- What is listed is found. -/
theorem get?_of_mem {table : Table κ α} {entry : κ × α} (listed : entry ∈ table.entries) :
    table.get? entry.1 = some entry.2 :=
  find?_of_mem table.distinct listed

theorem mem_of_find? {pairs : List (κ × α)} {key : κ} {value : α}
    (found : find? key pairs = some value) : (key, value) ∈ pairs := by
  induction pairs with
  | nil => cases found
  | cons pair rest ih =>
    obtain ⟨present, old⟩ := pair
    rw [find?] at found
    split at found
    · next same =>
      cases found
      exact same ▸ List.mem_cons_self
    · exact List.mem_cons_of_mem _ (ih found)

/-- What is found is listed, and what is listed is found. -/
theorem get?_eq_some_iff {table : Table κ α} {key : κ} {value : α} :
    table.get? key = some value ↔ (key, value) ∈ table.entries :=
  ⟨mem_of_find?, get?_of_mem⟩

/-- Writing changes the value of the key written and of no other. -/
theorem get?_insert (table : Table κ α) (key other : κ) (value : α) :
    (table.insert key value).get? other = if key = other then some value else table.get? other :=
  find?_put key other value table.entries

@[simp]
theorem get?_insert_self (table : Table κ α) (key : κ) (value : α) :
    (table.insert key value).get? key = some value := by
  simp [get?_insert]

theorem get?_insert_of_ne {key other : κ} (table : Table κ α) (value : α) (distinct : key ≠ other) :
    (table.insert key value).get? other = table.get? other := by
  simp [get?_insert, distinct]

theorem put_eq_self {key : κ} {value : α} {pairs : List (κ × α)}
    (found : find? key pairs = some value) : put key value pairs = pairs := by
  induction pairs with
  | nil => cases found
  | cons pair rest ih =>
    obtain ⟨present, old⟩ := pair
    rw [find?] at found
    split at found
    · next same =>
      cases found
      rw [put, if_pos same, same]
    · next different => rw [put, if_neg different, ih found]

/-- Writing what is there already changes nothing. -/
theorem insert_eq_self {table : Table κ α} {key : κ} {value : α}
    (present : table.get? key = some value) : table.insert key value = table := by
  obtain ⟨entries, distinct⟩ := table
  simp only [insert, put_eq_self present]

theorem find?_map (key : κ) (change : α → β) (pairs : List (κ × α)) :
    find? key (pairs.map fun entry => (entry.1, change entry.2)) =
      (find? key pairs).map change := by
  induction pairs with
  | nil => rfl
  | cons pair rest ih =>
    obtain ⟨present, value⟩ := pair
    by_cases hit : present = key
    · simp [find?, hit]
    · simp [find?, hit, ih]

theorem get?_mapValues (table : Table κ α) (key : κ) (change : α → β) :
    (table.mapValues change).get? key = (table.get? key).map change :=
  find?_map key change table.entries

theorem find?_filter (key other : κ) (pairs : List (κ × α)) :
    find? other (pairs.filter fun entry => entry.1 ≠ key) =
      if key = other then none else find? other pairs := by
  induction pairs with
  | nil => simp [find?]
  | cons pair rest ih =>
    obtain ⟨present, old⟩ := pair
    by_cases same : present = key
    · subst same
      by_cases hit : present = other
      · subst hit
        simpa using ih
      · simpa [find?, hit] using ih
    · by_cases hit : present = other
      · subst hit
        simp [find?, same, Ne.symm same]
      · simpa [find?, same, hit] using ih

/-- Erasing removes the key erased and no other. -/
theorem get?_erase (table : Table κ α) (key other : κ) :
    (table.erase key).get? other = if key = other then none else table.get? other :=
  find?_filter key other table.entries

end Table

end Backbeat
