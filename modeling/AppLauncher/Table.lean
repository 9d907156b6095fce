/-!
# Tables

A finite map kept as the list of its entries, in the order in which the keys were first inserted.
The view of a table is `get?`; `get?_insert` and `get?_erase` say what each operation does to it,
and the key list has no repetition by construction.
-/

namespace AppLauncher

universe u v w

/-- A finite map from keys to values that remembers the order in which keys were first inserted. -/
structure Table (κ : Type u) (α : Type v) where
  /-- The entries, oldest key first. -/
  entries : List (κ × α)
  /-- No key occurs twice. -/
  nodup_keys : (entries.map Prod.fst).Nodup

namespace Table

variable {κ : Type u} {α : Type v} {β : Type w}

/-- The table without entries. -/
def empty : Table κ α where
  entries := []
  nodup_keys := List.nodup_nil

instance : EmptyCollection (Table κ α) := ⟨empty⟩

instance : Inhabited (Table κ α) := ⟨empty⟩

/-- The keys, oldest first. -/
def keys (t : Table κ α) : List κ := t.entries.map Prod.fst

/-- The values, in the order of their keys. -/
def values (t : Table κ α) : List α := t.entries.map Prod.snd

/-- The number of keys. -/
def size (t : Table κ α) : Nat := t.entries.length

variable [DecidableEq κ]

/-- The value found first under a key in a list of entries. -/
def find? (key : κ) : List (κ × α) → Option α
  | [] => none
  | (k, a) :: rest => if k = key then some a else find? key rest

/-- The value of a key. -/
def get? (t : Table κ α) (key : κ) : Option α := find? key t.entries

/-- The value of a key, or a given value when the key is absent. -/
def getD (t : Table κ α) (key : κ) (default : α) : α := (t.get? key).getD default

/-- Whether a key is present. -/
def contains (t : Table κ α) (key : κ) : Bool := (t.get? key).isSome

/-- Writes an entry in place, or at the end when the key is new. -/
def place (key : κ) (value : α) : List (κ × α) → List (κ × α)
  | [] => [(key, value)]
  | (k, a) :: rest => if k = key then (k, value) :: rest else (k, a) :: place key value rest

theorem mem_keys_place {key k : κ} {value : α} {l : List (κ × α)} :
    k ∈ (place key value l).map Prod.fst ↔ k = key ∨ k ∈ l.map Prod.fst := by
  induction l with
  | nil => simp [place]
  | cons e rest ih =>
    obtain ⟨k', a'⟩ := e
    by_cases h : k' = key
    · subst h
      simp only [place, if_true, List.map_cons, List.mem_cons]
      grind
    · simp only [place, h, if_false, List.map_cons, List.mem_cons, ih]
      grind

theorem nodup_place {key : κ} {value : α} {l : List (κ × α)} (h : (l.map Prod.fst).Nodup) :
    ((place key value l).map Prod.fst).Nodup := by
  induction l with
  | nil => simp [place]
  | cons e rest ih =>
    obtain ⟨k', a'⟩ := e
    simp only [List.map_cons, List.nodup_cons] at h
    by_cases hk : k' = key
    · simp only [place, hk, if_true, List.map_cons, List.nodup_cons]
      exact ⟨hk ▸ h.1, h.2⟩
    · simp only [place, hk, if_false, List.map_cons, List.nodup_cons, mem_keys_place]
      exact ⟨by grind, ih h.2⟩

/-- Sets the value of a key; a present key keeps its place. -/
def insert (t : Table κ α) (key : κ) (value : α) : Table κ α where
  entries := place key value t.entries
  nodup_keys := nodup_place t.nodup_keys

/-- Sets the value of a key unless the key is present. -/
def insertIfNew (t : Table κ α) (key : κ) (value : α) : Table κ α :=
  if t.contains key then t else t.insert key value

/-- Removes a key. -/
def erase (t : Table κ α) (key : κ) : Table κ α where
  entries := t.entries.filter fun e => e.1 ≠ key
  nodup_keys := t.nodup_keys.sublist (List.Sublist.map _ List.filter_sublist)

/-- The table with the given entries, a later entry replacing an earlier one of its key. -/
def ofList (l : List (κ × α)) : Table κ α := l.foldl (fun t e => t.insert e.1 e.2) empty

/-- Adds all entries of another table, whose values win. -/
def union (t s : Table κ α) : Table κ α := s.entries.foldl (fun t e => t.insert e.1 e.2) t

/-! ### What each operation does to `get?` -/

theorem find?_place {key k : κ} {value : α} {l : List (κ × α)} :
    find? k (place key value l) = if key = k then some value else find? k l := by
  induction l with
  | nil => simp [place, find?]
  | cons e rest ih =>
    obtain ⟨k', a'⟩ := e
    by_cases hk : k' = key
    · subst hk
      by_cases h : k' = k <;> simp [place, find?, h]
    · by_cases h : k' = k
      · subst h
        simp [place, find?, hk, Ne.symm hk]
      · simp [place, find?, hk, h, ih]

@[simp] theorem get?_empty (key : κ) : (empty : Table κ α).get? key = none := rfl

@[simp] theorem get?_insert (t : Table κ α) (key k : κ) (value : α) :
    (t.insert key value).get? k = if key = k then some value else t.get? k :=
  find?_place

theorem get?_insertIfNew (t : Table κ α) (key k : κ) (value : α) :
    (t.insertIfNew key value).get? k =
      if key = k then some ((t.get? key).getD value) else t.get? k := by
  unfold insertIfNew contains
  cases h : t.get? key with
  | none => simp
  | some a => by_cases hk : key = k <;> simp_all

theorem find?_filter_ne {key k : κ} {l : List (κ × α)} :
    find? k (l.filter fun e => e.1 ≠ key) = if key = k then none else find? k l := by
  induction l with
  | nil => simp [find?]
  | cons e rest ih =>
    obtain ⟨k', a'⟩ := e
    by_cases hk : k' = key
    · subst hk
      rw [List.filter_cons_of_neg (by simp), ih]
      by_cases h : k' = k <;> simp [find?, h]
    · rw [List.filter_cons_of_pos (by simpa using hk)]
      by_cases h : k' = k
      · subst h
        simp [find?, Ne.symm hk]
      · simpa [find?, h] using ih

@[simp] theorem get?_erase (t : Table κ α) (key k : κ) :
    (t.erase key).get? k = if key = k then none else t.get? k :=
  find?_filter_ne

end Table

end AppLauncher
