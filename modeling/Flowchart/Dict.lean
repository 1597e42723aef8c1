/-! # Ordered dictionaries

A dictionary keeps its keys in the order in which they were first put in. Putting a value under a
key that is there replaces the value and keeps the place.
-/

namespace Flowchart

/-- Values under text keys, in the order of their keys. -/
structure Dict (α : Type) where
  entries : List (String × α) := []
  deriving Inhabited

namespace Dict

variable {α β : Type}

/-- The dictionary without entries. -/
def empty : Dict α := ⟨[]⟩

/-- The keys in order. -/
def keys (d : Dict α) : List String :=
  d.entries.map (·.1)

/-- The values in order. -/
def values (d : Dict α) : List α :=
  d.entries.map (·.2)

/-- The number of entries. -/
def size (d : Dict α) : Nat :=
  d.entries.length

/-- The value under a key. -/
def get? (d : Dict α) (key : String) : Option α :=
  d.entries.lookup key

/-- Tells whether a key is there. -/
def contains (d : Dict α) (key : String) : Bool :=
  (d.get? key).isSome

/-- Entries with a value put under a key: in the place of the key, or at the end. -/
def insertEntry (key : String) (value : α) : List (String × α) → List (String × α)
  | [] => [(key, value)]
  | (k, v) :: rest =>
    if k = key then (k, value) :: rest else (k, v) :: insertEntry key value rest

/-- Puts a value under a key. -/
def insert (d : Dict α) (key : String) (value : α) : Dict α :=
  ⟨insertEntry key value d.entries⟩

/-- Puts values under keys, one after the other. -/
def insertAll (d : Dict α) (entries : List (String × α)) : Dict α :=
  entries.foldl (fun d e => d.insert e.1 e.2) d

/-- The dictionary of entries that are put in one after the other. -/
def ofList (entries : List (String × α)) : Dict α :=
  empty.insertAll entries

/-- Takes a key out; the other keys keep their order. -/
def erase (d : Dict α) (key : String) : Dict α :=
  ⟨d.entries.filter (fun e => e.1 != key)⟩

/-- The same keys with other values. -/
def map (f : String → α → β) (d : Dict α) : Dict β :=
  ⟨d.entries.map fun e => (e.1, f e.1 e.2)⟩

/-! ## Laws -/

@[simp]
theorem get?_insert_self (d : Dict α) (key : String) (value : α) :
    (d.insert key value).get? key = some value := by
  obtain ⟨entries⟩ := d
  simp only [insert, get?]
  induction entries with
  | nil => simp [insertEntry]
  | cons e rest ih =>
    obtain ⟨k, v⟩ := e
    rw [insertEntry]
    split
    · next h => simp [h]
    · next h =>
      rw [List.lookup_cons]
      have : (key == k) = false := by simpa using fun h' => h h'.symm
      simp [this, ih]

theorem get?_insert_of_ne (d : Dict α) {key other : String} (value : α) (h : other ≠ key) :
    (d.insert key value).get? other = d.get? other := by
  obtain ⟨entries⟩ := d
  simp only [insert, get?]
  induction entries with
  | nil => simp [insertEntry, h]
  | cons e rest ih =>
    obtain ⟨k, v⟩ := e
    rw [insertEntry]
    split
    · next hk =>
      subst hk
      have : (other == k) = false := by simpa using h
      simp [List.lookup_cons, this]
    · rw [List.lookup_cons, List.lookup_cons, ih]

/-- A key that is there keeps its place; a new one goes to the end. -/
theorem keys_insert (d : Dict α) (key : String) (value : α) :
    (d.insert key value).keys = if key ∈ d.keys then d.keys else d.keys ++ [key] := by
  obtain ⟨entries⟩ := d
  simp only [insert, keys]
  induction entries with
  | nil => simp [insertEntry]
  | cons e rest ih =>
    obtain ⟨k, v⟩ := e
    rw [insertEntry]
    split
    · next hk => simp [hk]
    · next hk =>
      have hne : ¬ key = k := fun h => hk h.symm
      by_cases hmem : key ∈ rest.map (·.1)
      · simp [ih, hmem]
      · simp [ih, hmem, hne]

theorem contains_iff {d : Dict α} {key : String} : d.contains key = true ↔ key ∈ d.keys := by
  rw [contains, get?, List.lookup_isSome_iff, keys, List.mem_map]
  constructor
  · rintro ⟨e, he, hkey⟩
    exact ⟨e, he, (beq_iff_eq.mp hkey).symm⟩
  · rintro ⟨e, he, rfl⟩
    exact ⟨e, he, beq_self_eq_true e.1⟩

theorem keys_erase (d : Dict α) (key : String) :
    (d.erase key).keys = d.keys.filter (· != key) := by
  obtain ⟨entries⟩ := d
  simp only [erase, keys]
  rw [List.filter_map]
  rfl

end Dict

end Flowchart
