import AppLauncher.Table
import Mathlib.Data.List.Dedup
import Mathlib.Data.List.Induction
import Mathlib.Data.String.Basic

/-!
# Tables made of lists

A table that is filled from a list holds for each key the value of its last entry
(`Table.get?_ofList`), and has as many entries as the list has different keys (`Table.size_ofList`).
Its own entries are the keys with their values (`Table.mem_entries_iff`), so that tables with the
same values have the same entries up to their order (`Table.perm_entries`).  When the tables of
several lists are added one after the other, this is as if there were one list
(`Table.get?_foldl_union`, `Table.size_foldl_union`).
-/

namespace AppLauncher

/-- Tables with the same entries are the same. -/
@[ext] lemma Table.ext {κ α : Type} {t u : Table κ α} (h : t.entries = u.entries) : t = u := by
  cases t
  cases u
  cases h
  rfl

/-- An entry of a new key comes last. -/
lemma Table.place_of_not_mem {κ α : Type} [DecidableEq κ] {key : κ} {value : α} {l : List (κ × α)}
    (h : key ∉ l.map Prod.fst) : place key value l = l ++ [(key, value)] := by
  induction l with
  | nil => rfl
  | cons e l ih =>
    obtain ⟨hne, hl⟩ := not_or.mp (List.mem_cons.not.mp h)
    rw [place, if_neg (Ne.symm hne), ih hl]
    rfl

namespace Table

variable {κ α : Type} [DecidableEq κ]

/-- The value that the last entry of a key gives it. -/
def lastValue? (entries : List (κ × α)) (key : κ) : Option α :=
  (entries.findRev? fun e => e.1 = key).map Prod.snd

/-- The last entry of a list is the first one that counts. -/
lemma lastValue?_concat (entries : List (κ × α)) (e : κ × α) (key : κ) :
    lastValue? (entries ++ [e]) key = if e.1 = key then some e.2 else lastValue? entries key := by
  unfold lastValue?
  rw [List.findRev?_eq_find?_reverse, List.findRev?_eq_find?_reverse, List.reverse_concat,
    List.find?_cons]
  by_cases h : e.1 = key <;> simp [h]

/-- A key has a last value exactly if it is the key of an entry. -/
lemma isSome_lastValue? {entries : List (κ × α)} {key : κ} :
    (lastValue? entries key).isSome ↔ ∃ value, (key, value) ∈ entries := by
  unfold lastValue?
  rw [Option.isSome_map, List.findRev?_eq_find?_reverse, List.find?_isSome]
  constructor
  · rintro ⟨⟨k, value⟩, hmem, hkey⟩
    obtain rfl : k = key := of_decide_eq_true hkey
    exact ⟨value, List.mem_reverse.mp hmem⟩
  · rintro ⟨value, hmem⟩
    exact ⟨(key, value), List.mem_reverse.mpr hmem, decide_eq_true rfl⟩

/-- The table of a list that is one entry longer. -/
lemma ofList_concat (entries : List (κ × α)) (e : κ × α) :
    ofList (entries ++ [e]) = (ofList entries).insert e.1 e.2 := by
  unfold ofList
  rw [List.foldl_append]
  rfl

/-- Of two lists one after the other, the second one counts first. -/
lemma lastValue?_append (entries more : List (κ × α)) (key : κ) :
    lastValue? (entries ++ more) key = (lastValue? more key).or (lastValue? entries key) := by
  unfold lastValue?
  rw [List.findRev?_eq_find?_reverse, List.findRev?_eq_find?_reverse,
    List.findRev?_eq_find?_reverse, List.reverse_append, List.find?_append, Option.map_or]

/-- A value that all keys of a list are given is the last one of each of them. -/
lemma lastValue?_map (keys : List κ) (value : α) (key : κ) :
    lastValue? (keys.map fun key => (key, value)) key =
      if key ∈ keys then some value else none := by
  induction keys using List.reverseRecOn with
  | nil => rfl
  | append_singleton keys k ih =>
    rw [List.map_append, List.map_singleton, lastValue?_concat, ih]
    by_cases hkey : k = key
    · rw [if_pos hkey, if_pos (List.mem_append_right keys (List.mem_singleton.mpr hkey.symm))]
    · simp [hkey, Ne.symm hkey]

/-- When entries are set one after the other, the last value of each key counts. -/
lemma get?_foldl_insert (entries : List (κ × α)) (t : Table κ α) (key : κ) :
    (entries.foldl (fun t e => t.insert e.1 e.2) t).get? key =
      (lastValue? entries key).or (t.get? key) := by
  induction entries using List.reverseRecOn with
  | nil => rfl
  | append_singleton entries e ih =>
    rw [List.foldl_append, List.foldl_cons, List.foldl_nil, get?_insert, lastValue?_concat, ih]
    by_cases hkey : e.1 = key
    · rw [if_pos hkey, if_pos hkey, Option.some_or]
    · rw [if_neg hkey, if_neg hkey]

/-- A table that is filled from a list holds the last value of each key. -/
lemma get?_ofList (entries : List (κ × α)) (key : κ) :
    (ofList entries).get? key = lastValue? entries key := by
  unfold ofList
  rw [get?_foldl_insert, get?_empty, Option.or_none]

/-- In a list in which no key occurs twice, the value of a key is that of its entry. -/
lemma find?_eq_some_iff {l : List (κ × α)} (h : (l.map Prod.fst).Nodup) {key : κ} {value : α} :
    find? key l = some value ↔ (key, value) ∈ l := by
  induction l with
  | nil => simp [find?]
  | cons e l ih =>
    obtain ⟨k, first⟩ := e
    obtain ⟨hk, hl⟩ := List.nodup_cons.mp h
    by_cases hkey : k = key
    · subst hkey
      have habsent : (k, value) ∉ l := fun hmem => hk (List.mem_map.mpr ⟨_, hmem, rfl⟩)
      simp [find?, habsent, eq_comm]
    · simp [find?, hkey, ih hl, Ne.symm hkey]

/-- The entries of a table are its keys with their values. -/
lemma mem_entries_iff {t : Table κ α} {key : κ} {value : α} :
    (key, value) ∈ t.entries ↔ t.get? key = some value :=
  (find?_eq_some_iff t.nodup_keys).symm

/-- The last value of a key among the entries of a table is its only one. -/
lemma lastValue?_entries (t : Table κ α) (key : κ) : lastValue? t.entries key = t.get? key := by
  cases hlast : lastValue? t.entries key with
  | some value =>
    obtain ⟨⟨k, v⟩, hfound, hvalue⟩ := Option.map_eq_some_iff.mp hlast
    rw [List.findRev?_eq_find?_reverse] at hfound
    have hkey := List.find?_some hfound
    obtain rfl : k = key := of_decide_eq_true hkey
    cases hvalue
    exact (mem_entries_iff.mp (List.mem_reverse.mp (List.mem_of_find?_eq_some hfound))).symm
  | none =>
    cases hget : t.get? key with
    | none => rfl
    | some value =>
      have hsome := isSome_lastValue?.mpr ⟨value, mem_entries_iff.mpr hget⟩
      rw [hlast] at hsome
      cases hsome

/-- The values of a table win over those of the table that they are added to. -/
lemma get?_union (t u : Table κ α) (key : κ) :
    (t.union u).get? key = (u.get? key).or (t.get? key) := by
  unfold union
  rw [get?_foldl_insert, lastValue?_entries]

/-- Tables with the same values have the same entries, up to their order. -/
lemma perm_entries {t u : Table κ α} (h : ∀ key, t.get? key = u.get? key) :
    t.entries.Perm u.entries := by
  rw [List.perm_ext_iff_of_nodup t.nodup_keys.of_map u.nodup_keys.of_map]
  rintro ⟨key, value⟩
  rw [mem_entries_iff, mem_entries_iff, h]

/-- The order of two entries with different keys does not count. -/
lemma get?_swap {first second : κ} (h : first ≠ second) (a b : α) (key : κ) :
    (ofList [(first, a), (second, b)]).get? key = (ofList [(second, b), (first, a)]).get? key := by
  rw [get?_ofList, get?_ofList]
  show lastValue? ([(first, a)] ++ [(second, b)]) key =
    lastValue? ([(second, b)] ++ [(first, a)]) key
  rw [lastValue?_concat, lastValue?_concat]
  by_cases hfirst : first = key
  · subst hfirst
    simp [lastValue?, List.findRev?_eq_find?_reverse, Ne.symm h]
  · by_cases hsecond : second = key <;>
      simp [lastValue?, List.findRev?_eq_find?_reverse, hfirst, hsecond]

/-- The keys of a table that is filled from a list are those of the list. -/
lemma mem_keys_ofList {entries : List (κ × α)} {key : κ} :
    key ∈ (ofList entries).keys ↔ key ∈ entries.map Prod.fst := by
  induction entries using List.reverseRecOn with
  | nil => exact Iff.rfl
  | append_singleton entries e ih =>
    have hplace : key ∈ ((ofList entries).insert e.1 e.2).keys ↔
        key = e.1 ∨ key ∈ (ofList entries).keys := mem_keys_place
    rw [ofList_concat, hplace, ih, List.map_append, List.mem_append, List.map_singleton,
      List.mem_singleton, or_comm]

/-- A table that is filled from a list has as many entries as the list has different keys. -/
lemma size_ofList (entries : List (κ × α)) :
    (ofList entries).size = (entries.map Prod.fst).dedup.length := by
  have hsize : (ofList entries).size = (ofList entries).keys.length := (List.length_map _).symm
  have hnodup : (ofList entries).keys.Nodup := (ofList entries).nodup_keys
  have hperm : (ofList entries).keys.Perm (entries.map Prod.fst).dedup := by
    rw [List.perm_ext_iff_of_nodup hnodup (List.nodup_dedup _)]
    intro key
    rw [List.mem_dedup]
    exact mem_keys_ofList
  rw [hsize, hperm.length_eq]

/-! ### Several lists, one after the other -/

/-- Of several lists one after the other, the last one in which a key has a value counts. -/
lemma lastValue?_flatten (lists : List (List (κ × α))) (key : κ) :
    lastValue? lists.flatten key =
      lists.reverse.findSome? fun entries => lastValue? entries key := by
  induction lists with
  | nil => rfl
  | cons entries lists ih =>
    rw [List.flatten_cons, lastValue?_append, ih, List.reverse_cons, List.findSome?_append,
      List.findSome?_singleton]

/-- When the tables of several lists are added, the last value of each key counts. -/
lemma get?_foldl_union (lists : List (List (κ × α))) (t : Table κ α) (key : κ) :
    (lists.foldl (fun t entries => t.union (ofList entries)) t).get? key =
      (lastValue? lists.flatten key).or (t.get? key) := by
  induction lists generalizing t with
  | nil => rfl
  | cons entries lists ih =>
    rw [List.foldl_cons, ih, get?_union, get?_ofList, List.flatten_cons, lastValue?_append,
      Option.or_assoc]

/-- When the tables of several lists are added, there are as many entries as the lists have
different keys. -/
lemma size_foldl_union (lists : List (List (κ × α))) :
    (lists.foldl (fun t entries => t.union (ofList entries)) empty).size =
      (lists.flatten.map Prod.fst).dedup.length := by
  rw [← size_ofList]
  refine (perm_entries fun key => ?_).length_eq
  rw [get?_foldl_union, get?_empty, Option.or_none, get?_ofList]

/-! ### Entries in the order of their keys -/

/-- Entries that are sorted by their keys come in ascending order. -/
lemma pairwise_mergeSort {α : Type} (entries : List (String × α)) :
    (entries.mergeSort fun a b => a.1 ≤ b.1).Pairwise fun a b => a.1 ≤ b.1 := by
  refine (List.pairwise_mergeSort ?_ ?_ _).imp of_decide_eq_true
  · intro a b c hab hbc
    exact decide_eq_true (le_trans (of_decide_eq_true hab) (of_decide_eq_true hbc))
  · intro a b
    rcases le_total a.1 b.1 with hab | hba
    · simp [hab]
    · simp [hba]

end Table

end AppLauncher
