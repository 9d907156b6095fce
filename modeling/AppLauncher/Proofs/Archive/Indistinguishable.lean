import AppLauncher.Proofs.Handler.Descent
import AppLauncher.Proofs.Loader.Likeness

/-!
# Archives that cannot be told apart

Two archives over different bytes may answer every question alike, and still hold different archives
for an entry, whose differences show when these are asked.  So archives are compared by all that can
be reached from them: they cannot be told apart if a relation between archives holds of them that
passes from related archives to what is nested in them, and under which all answers are the same
(`Archive.IsBisimulation`, `Archive.Indistinguishable`).

For packaged archives it is enough that the index is the same and leads to the same bytes
(`Stream.LooksLike`, `Archive.indistinguishable_packaged`).  A view of a directory has the same
items at the same places then, and the archives in files are over the same bytes.
-/

namespace AppLauncher

namespace Archive

/-- A relation under which archives cannot be told apart: related archives are equivalent, both or
neither of them is packaged, and what is nested in them is related. -/
structure IsBisimulation (R : Archive → Archive → Prop) : Prop where
  equivalent : ∀ {a b}, R a b → a.Equivalent b
  isPackaged : ∀ {a b}, R a b → a.isPackaged = b.isPackaged
  nestedAll : ∀ {a b}, R a b → ∀ filter s t,
    ResultRel Eq (List.Forall₂ R) (a.nestedAll filter s).1 (b.nestedAll filter t).1
  nested? : ∀ {a b}, R a b → ∀ name s t,
    ResultRel Eq (Option.Rel R) (a.nested? name s).1 (b.nested? name t).1

/-- Two archives that cannot be told apart, whatever is asked of them and of the archives reached
from them in whatever stores. -/
def Indistinguishable (a b : Archive) : Prop := ∃ R, IsBisimulation R ∧ R a b

end Archive

/-! ### Streams that look alike -/

/-- Two streams with one index that leads to the same bytes in both. -/
structure Stream.LooksLike (s t : Stream) : Prop where
  url : s.url = t.url
  directory : s.directory = t.directory
  index : s.index = t.index
  dataIn : ∀ {index}, s.index = .ok index → ∀ item ∈ index.items,
    item.dataIn s.data = item.dataIn t.data

namespace Stream.LooksLike

variable {s t : Stream} {index : Index}

/-- A stream looks like itself. -/
lemma refl (s : Stream) : s.LooksLike s := ⟨rfl, rfl, rfl, fun _ _ _ => rfl⟩

/-- What is nested in streams that look alike for an item of the index looks alike. -/
lemma nested (h : s.LooksLike t) (hindex : s.index = .ok index) {item : Item}
    (hitem : item ∈ index.items) : (s.nested item).LooksLike (t.nested item) := by
  have hindex' : t.index = .ok index := h.index ▸ hindex
  cases hkind : item.entry.isDirectory with
  | true =>
    have hnested : ∀ u : Stream, u.nested item = ⟨u.url.nested item.entry.name, u.data,
        some (u.directory.getD "" ++ item.entry.name)⟩ := fun u => by simp [Stream.nested, hkind]
    have hview := index_view hindex (s.url.nested item.entry.name) item.entry.name
    have hview' := index_view hindex' (t.url.nested item.entry.name) item.entry.name
    rw [hnested, hnested]
    refine ⟨by rw [h.url], by rw [h.directory], hview.trans hview'.symm, ?_⟩
    intro view hviewed seen hseen
    rw [hview] at hviewed
    cases hviewed
    -- an item of the view is at the place of an item of the index
    obtain ⟨whole, hwhole, hwithin⟩ := List.mem_filterMap.mp hseen
    obtain ⟨-, rfl⟩ := Item.within?_eq_some_iff.mp hwithin
    exact h.dataIn hindex (seen.under item.entry.name) hwhole
  | false =>
    have hnested : ∀ u : Stream, u.nested item = ⟨u.url.nested item.entry.name, item.dataIn u.data,
        none⟩ := fun u => by simp [Stream.nested, hkind]
    rw [hnested, hnested, h.url, h.dataIn hindex item hitem]
    exact .refl _

end Stream.LooksLike

/-! ### Archives over streams that look alike -/

namespace Archive

/-- Both archives are packaged, over streams that look alike. -/
def OverLookalikes (a b : Archive) : Prop :=
  ∃ s t, a.body = .packaged s ∧ b.body = .packaged t ∧ s.LooksLike t

section

variable {x y : Stream} (h : x.LooksLike y) (id id' : Nat)

include h

/-- Archives over streams that look alike are equivalent. -/
lemma equivalent_of_looksLike : (packaged id x).Equivalent (packaged id' y) where
  entries s t := by rw [entries_packaged, entries_packaged, h.index]
  find? name s t := by rw [find?_packaged, find?_packaged, h.index]
  read? name s t := by
    rw [read?_packaged, read?_packaged, ← h.index]
    cases hindex : x.index with
    | error cause => rfl
    | ok index =>
      refine congrArg Except.ok (Option.map_congr fun item hitem => ?_)
      have hfound := (Option.filter_eq_some_iff.mp hitem).1
      exact h.dataIn hindex item (Stream.mem_of_find? hindex hfound).1
  manifest s t := by rw [manifest_packaged, manifest_packaged, h.index]
  url := h.url

/-- What passes a filter is nested alike in streams that look alike. -/
lemma nestedAll_of_looksLike (filter : Entry → Bool) (s t : Store) :
    ResultRel Eq (List.Forall₂ OverLookalikes) ((packaged id x).nestedAll filter s).1
      ((packaged id' y).nestedAll filter t).1 := by
  cases hindex : x.index with
  | error cause =>
    rw [nestedAll_packaged_error id x s hindex,
      nestedAll_packaged_error id' y t (h.index ▸ hindex)]
    exact .error rfl
  | ok index =>
    obtain ⟨views, hviews, hbodies⟩ := nestedAll_packaged id x s hindex filter
    obtain ⟨views', hviews', hbodies'⟩ := nestedAll_packaged id' y t (h.index ▸ hindex) filter
    rw [hviews, hviews']
    have hrel : List.Forall₂ (fun a b : Body => ∃ s t, a = .packaged s ∧ b = .packaged t ∧
        s.LooksLike t) (views.map body) (views'.map body) := by
      rw [hbodies, hbodies', List.forall₂_map_left_iff, List.forall₂_map_right_iff,
        List.forall₂_same]
      intro item hitem
      exact ⟨_, _, rfl, rfl, h.nested hindex (List.mem_filter.mp hitem).1⟩
    rw [List.forall₂_map_left_iff, List.forall₂_map_right_iff] at hrel
    exact .ok hrel

/-- What has a name is nested alike in streams that look alike. -/
lemma nested?_of_looksLike (name : String) (s t : Store) :
    ResultRel Eq (Option.Rel OverLookalikes) ((packaged id x).nested? name s).1
      ((packaged id' y).nested? name t).1 := by
  cases hindex : x.index with
  | error cause =>
    rw [nested?_packaged_error id x s hindex, nested?_packaged_error id' y t (h.index ▸ hindex)]
    exact .error rfl
  | ok index =>
    obtain ⟨found, hfound, hbody⟩ := nested?_packaged id x s hindex name
    obtain ⟨found', hfound', hbody'⟩ := nested?_packaged id' y t (h.index ▸ hindex) name
    rw [hfound, hfound']
    refine .ok ?_
    cases hitem : index.findLoosely? (Text.dropSlashes name) with
    | none =>
      rw [hitem, Option.map_none, Option.map_eq_none_iff] at hbody hbody'
      rw [hbody, hbody']
      exact .none
    | some item =>
      rw [hitem, Option.map_some, Option.map_eq_some_iff] at hbody hbody'
      obtain ⟨a, rfl, ha⟩ := hbody
      obtain ⟨b, rfl, hb⟩ := hbody'
      have hmem := Stream.mem_of_findLoosely? hindex hitem
      exact .some ⟨_, _, ha, hb, h.nested hindex hmem⟩

end

/-- Archives over streams that look alike are related by a bisimulation. -/
lemma isBisimulation_overLookalikes : IsBisimulation OverLookalikes := by
  have hpackaged : ∀ {a b}, OverLookalikes a b →
      ∃ id id' x y, a = packaged id x ∧ b = packaged id' y ∧ x.LooksLike y := by
    rintro a b ⟨x, y, ha, hb, h⟩
    obtain ⟨id, rfl⟩ := eq_packaged_of_body ha
    obtain ⟨id', rfl⟩ := eq_packaged_of_body hb
    exact ⟨id, id', x, y, rfl, rfl, h⟩
  refine ⟨fun hab => ?_, fun hab => ?_, fun hab => ?_, fun hab => ?_⟩ <;>
    obtain ⟨id, id', x, y, rfl, rfl, h⟩ := hpackaged hab
  · exact equivalent_of_looksLike h id id'
  · rfl
  · exact nestedAll_of_looksLike h id id'
  · exact nested?_of_looksLike h id id'

/-- Archives over streams that look alike cannot be told apart. -/
lemma indistinguishable_packaged {x y : Stream} (h : x.LooksLike y) (id id' : Nat) :
    (packaged id x).Indistinguishable (packaged id' y) :=
  ⟨OverLookalikes, isBisimulation_overLookalikes, x, y, rfl, rfl, h⟩

end Archive

end AppLauncher
