import AppLauncher.Proofs.Archive.Packaged
import Mathlib.Data.List.Forall2

/-!
# Packaged archives at different urls

The url of a packaged archive tells where its bytes are from.  It shows in the urls of nested
archives and in what is reported when a stream cannot be indexed, and in nothing else.  So two
archives with the same bytes, of which the same directory is viewed (`Archive.HoldSame`), give the
same answers up to the url (`Archive.SameButUrl`), and what is nested in them holds the same bytes
again (`Archive.HoldSame.sameButUrl`).
-/

namespace AppLauncher

/-! ### Streams with the same content -/

/-- A cause as it reads at another url. -/
def ArchiveError.movedTo (url : Url) : ArchiveError → ArchiveError
  | .io path fault => .io path fault
  | .malformed _ reason => .malformed url reason
  | .missingEntry _ name => .missingEntry url name

/-- Two streams have the same bytes, and the same directory of them is viewed. -/
structure Stream.SameContent (s t : Stream) : Prop where
  data : s.data = t.data
  directory : s.directory = t.directory

namespace Stream.SameContent

variable {s t : Stream}

/-- Streams with the same content have the same index, or fail for the same reason. -/
lemma index (h : s.SameContent t) : s.index = t.index.mapError (·.movedTo s.url) := by
  obtain ⟨url, data, directory⟩ := s
  obtain ⟨url', data', directory'⟩ := t
  obtain ⟨rfl, rfl⟩ := h
  have hmalformation : (⟨url', data, directory⟩ : Stream).malformation? =
      (⟨url, data, directory⟩ : Stream).malformation? := rfl
  unfold Stream.index
  rw [hmalformation]
  cases (⟨url, data, directory⟩ : Stream).malformation? <;> rfl

/-- What is nested in streams with the same content has the same content. -/
lemma nested (h : s.SameContent t) (item : Item) : (s.nested item).SameContent (t.nested item) := by
  unfold Stream.nested
  rw [h.data, h.directory]
  split
  · exact ⟨rfl, rfl⟩
  · exact ⟨rfl, rfl⟩

end Stream.SameContent

/-! ### Archives that differ in their urls -/

namespace Archive

/-- Two bodies are packaged, with the same content. -/
def Body.HoldSame (a b : Body) : Prop :=
  ∃ s t, a = .packaged s ∧ b = .packaged t ∧ s.SameContent t

/-- Two archives are packaged, with the same content. -/
def HoldSame (a b : Archive) : Prop := a.body.HoldSame b.body

/-- Two archives differ in their urls alone: the answers of the first are those of the second, with
the url of the first in what has failed, and the archives nested in them hold the same content. -/
structure SameButUrl (a b : Archive) : Prop where
  holdSame : a.HoldSame b
  isPackaged : a.isPackaged = b.isPackaged
  entries : ∀ s t, (a.entries s).1 = (b.entries t).1.mapError (·.movedTo a.url)
  find? : ∀ name s t, (a.find? name s).1 = (b.find? name t).1.mapError (·.movedTo a.url)
  read? : ∀ name s t, (a.read? name s).1 = (b.read? name t).1.mapError (·.movedTo a.url)
  manifest : ∀ s t, (a.manifest s).1 = (b.manifest t).1.mapError (·.movedTo a.url)
  nested? : ∀ name s t,
    (∃ found found', (a.nested? name s).1 = .ok found ∧ (b.nested? name t).1 = .ok found' ∧
      Option.Rel HoldSame found found') ∨
    ∃ cause, (a.nested? name s).1 = .error (cause.movedTo a.url) ∧
      (b.nested? name t).1 = .error cause
  nestedAll : ∀ filter s t,
    (∃ views views', (a.nestedAll filter s).1 = .ok views ∧
      (b.nestedAll filter t).1 = .ok views' ∧ List.Forall₂ HoldSame views views') ∨
    ∃ cause, (a.nestedAll filter s).1 = .error (cause.movedTo a.url) ∧
      (b.nestedAll filter t).1 = .error cause

section

variable {s t : Stream} (h : s.SameContent t)

include h

/-- What is nested in streams with the same content holds the same content. -/
lemma forall₂_holdSame {items : List Item} {views views' : List Archive}
    (hviews : views.map body = items.map fun item => .packaged (s.nested item))
    (hviews' : views'.map body = items.map fun item => .packaged (t.nested item)) :
    List.Forall₂ HoldSame views views' := by
  have hbodies : List.Forall₂ Body.HoldSame (views.map body) (views'.map body) := by
    rw [hviews, hviews', List.forall₂_map_left_iff, List.forall₂_map_right_iff, List.forall₂_same]
    exact fun item _ => ⟨_, _, rfl, rfl, h.nested item⟩
  rw [List.forall₂_map_left_iff, List.forall₂_map_right_iff] at hbodies
  exact hbodies

/-- The archives nested under a name hold the same content. -/
lemma nested?_sameContent (id id' : Nat) (name : String) (u v : Store) :
    (∃ found found', ((packaged id s).nested? name u).1 = .ok found ∧
      ((packaged id' t).nested? name v).1 = .ok found' ∧ Option.Rel HoldSame found found') ∨
    ∃ cause, ((packaged id s).nested? name u).1 = .error (cause.movedTo s.url) ∧
      ((packaged id' t).nested? name v).1 = .error cause := by
  cases hindex : t.index with
  | ok index =>
    have hsame : s.index = .ok index := by
      rw [h.index, hindex]
      rfl
    obtain ⟨found, hfound, hbody⟩ := nested?_packaged id s u hsame name
    obtain ⟨found', hfound', hbody'⟩ := nested?_packaged id' t v hindex name
    refine .inl ⟨found, found', hfound, hfound', ?_⟩
    cases hitem : index.findLoosely? (Text.dropSlashes name) with
    | none =>
      rw [hitem] at hbody hbody'
      rw [Option.map_eq_none_iff.mp hbody, Option.map_eq_none_iff.mp hbody']
      exact .none
    | some item =>
      rw [hitem] at hbody hbody'
      obtain ⟨a, rfl, ha⟩ := Option.map_eq_some_iff.mp hbody
      obtain ⟨b, rfl, hb⟩ := Option.map_eq_some_iff.mp hbody'
      refine .some ?_
      exact ⟨_, _, ha, hb, h.nested item⟩
  | error cause =>
    have hsame : s.index = .error (cause.movedTo s.url) := by
      rw [h.index, hindex]
      rfl
    exact .inr ⟨cause, nested?_packaged_error id s u hsame name,
      nested?_packaged_error id' t v hindex name⟩

/-- The archives nested under the entries that pass a filter hold the same content. -/
lemma nestedAll_sameContent (id id' : Nat) (filter : Entry → Bool) (u v : Store) :
    (∃ views views', ((packaged id s).nestedAll filter u).1 = .ok views ∧
      ((packaged id' t).nestedAll filter v).1 = .ok views' ∧ List.Forall₂ HoldSame views views') ∨
    ∃ cause, ((packaged id s).nestedAll filter u).1 = .error (cause.movedTo s.url) ∧
      ((packaged id' t).nestedAll filter v).1 = .error cause := by
  cases hindex : t.index with
  | ok index =>
    have hsame : s.index = .ok index := by
      rw [h.index, hindex]
      rfl
    obtain ⟨views, hviews, hbodies⟩ := nestedAll_packaged id s u hsame filter
    obtain ⟨views', hviews', hbodies'⟩ := nestedAll_packaged id' t v hindex filter
    exact .inl ⟨views, views', hviews, hviews', forall₂_holdSame h hbodies hbodies'⟩
  | error cause =>
    have hsame : s.index = .error (cause.movedTo s.url) := by
      rw [h.index, hindex]
      rfl
    exact .inr ⟨cause, nestedAll_packaged_error id s u hsame filter,
      nestedAll_packaged_error id' t v hindex filter⟩

end

/-- Archives that hold the same content differ in their urls alone. -/
theorem HoldSame.sameButUrl {a b : Archive} (h : a.HoldSame b) : a.SameButUrl b := by
  have hbodies := h
  obtain ⟨s, t, ha, hb, hsame⟩ := hbodies
  obtain ⟨id, rfl⟩ := eq_packaged_of_body ha
  obtain ⟨id', rfl⟩ := eq_packaged_of_body hb
  constructor
  · exact h
  · rfl
  · intro u v
    rw [entries_packaged, entries_packaged, hsame.index]
    cases t.index <;> rfl
  · intro name u v
    rw [find?_packaged, find?_packaged, hsame.index]
    cases t.index <;> rfl
  · intro name u v
    rw [read?_packaged, read?_packaged, hsame.index, hsame.data]
    cases t.index <;> rfl
  · intro u v
    rw [manifest_packaged, manifest_packaged, hsame.index]
    cases t.index <;> rfl
  · exact nested?_sameContent hsame id id'
  · exact nestedAll_sameContent hsame id id'

end Archive

end AppLauncher
