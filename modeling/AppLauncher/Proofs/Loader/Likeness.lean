import AppLauncher.Proofs.FileSystem.Components
import AppLauncher.Proofs.Loader.History

/-!
# What alike archives have in common

Alike bodies differ in how paths are written at most, and by definition they have the same entries.
They also have the same manifest (`Archive.Body.Alike.manifest`) and the same contents
(`Archive.Body.Alike.read?`): whatever an archive finds at a path, the other one finds at a path
with the same components, so both paths lead to one node.  Only where a packaged archive cannot be
indexed does the cause that is reported show the path (`ArchiveError.Alike`).

Comparisons can also be closer and not allow for this (`Closeness`).  Two classes are alike if they
come from archives with bodies that are, and have the same package (`Class.Alike`); compared
closely, they differ in the numbers of the archives at most.  An archive that cannot be indexed has
nothing that a lookup could find (`Archive.Body.item?_of_not_isReadable`).
-/

namespace AppLauncher

open Archive (Body)

/-! ### How closely things are compared -/

/-- What is allowed for in a comparison: that paths are written in another way, or nothing. -/
inductive Closeness where
  | respelled
  | same

namespace Closeness

variable {α : Type} {k : Closeness} {alike : α → α → Prop} {a b c : α}

/-- Things are alike, and the same if nothing is allowed for. -/
def Like (k : Closeness) (alike : α → α → Prop) (a b : α) : Prop := alike a b ∧ (k = .same → a = b)

/-- What is like itself compares closely, too. -/
lemma Like.of_refl (h : alike a a) : k.Like alike a a := ⟨h, fun _ => rfl⟩

/-- A close comparison of likes is symmetric. -/
lemma Like.symm (hsymm : alike a b → alike b a) (h : k.Like alike a b) : k.Like alike b a :=
  ⟨hsymm h.1, fun hk => (h.2 hk).symm⟩

/-- A close comparison of likes is transitive. -/
lemma Like.trans (htrans : alike a b → alike b c → alike a c) (h : k.Like alike a b)
    (g : k.Like alike b c) : k.Like alike a c :=
  ⟨htrans h.1 g.1, fun hk => (h.2 hk).trans (g.2 hk)⟩

end Closeness

/-! ### Related results -/

/-- Two results are related: both are failures, or both are not, and the causes or the values are
related. -/
inductive ResultRel {ε δ α β : Type} (cause : ε → δ → Prop) (value : α → β → Prop) :
    Except ε α → Except δ β → Prop where
  | ok {a : α} {b : β} : value a b → ResultRel cause value (.ok a) (.ok b)
  | error {e : ε} {d : δ} : cause e d → ResultRel cause value (.error e) (.error d)

/-- Results whose causes and values are equal are equal. -/
lemma ResultRel.eq {ε α : Type} {r r' : Except ε α} (h : ResultRel Eq Eq r r') : r = r' := by
  cases h with
  | ok hab => rw [hab]
  | error hed => rw [hed]

/-- Two causes are the same, but for how the path of a malformed archive is written. -/
inductive ArchiveError.Alike : ArchiveError → ArchiveError → Prop where
  | refl (cause : ArchiveError) : Alike cause cause
  | malformed {url url' : Url} {reason : Malformation} : url.Respells url' →
      Alike (.malformed url reason) (.malformed url' reason)

/-- Two causes are the same, but for how the path of a malformed archive is written. -/
inductive LoaderError.Alike : LoaderError → LoaderError → Prop where
  | refl (cause : LoaderError) : Alike cause cause
  | classRead {name : String} {cause cause' : ArchiveError} : cause.Alike cause' →
      Alike (.classRead name cause) (.classRead name cause')

/-- Streams with the same content have the same index, or are malformed in the same way. -/
lemma Stream.Alike.index_rel {s t : Stream} (h : s.Alike t) :
    ResultRel ArchiveError.Alike Eq s.index t.index := by
  have hindex := h.index
  cases hs : s.index with
  | ok index =>
    rw [hs] at hindex
    rw [eq_ok_of_toOption hindex.symm]
    exact .ok rfl
  | error cause =>
    have hsame : s.SameContent t := ⟨h.data, h.directory⟩
    have hmoved := hsame.index
    unfold Stream.index at hmoved hs ⊢
    cases ht : t.malformation? with
    | none =>
      rw [ht, hs] at hmoved
      cases hmoved
    | some reason =>
      rw [ht, hs] at hmoved
      cases hmoved
      exact .error (.malformed h.url)

/-! ### What directories have in common -/

/-- A regular file can be read. -/
lemma FileSystem.exists_read_of_isFile {files : FileSystem} {path : Path}
    (h : files.isFile path = true) : ∃ content, files.read path = .ok content := by
  unfold FileSystem.isFile at h
  unfold FileSystem.read
  cases hnode : files.node path with
  | error fault =>
    rw [hnode] at h
    cases h
  | ok node =>
    rw [hnode] at h
    cases node with
    | file content | image content => exact ⟨content, rfl⟩
    | _ => cases h

namespace Exploded

variable {files : FileSystem} {p q : Path}

/-- The path of a name depends on the name alone, but for the directory. -/
lemma pathOf?_eq (root : Path) (name : String) :
    pathOf? root name = (pathOf? ⟨""⟩ name).map fun _ => root.join ⟨Text.dropSlashes name⟩ := by
  unfold pathOf?
  dsimp only
  split <;> rfl

/-- What stands where a name leads is found, if its kind is the one that the name asks for. -/
lemma find?_of_node {root path : Path} {name : String} {node : FileSystem.Node}
    (hpath : pathOf? root name = some path) (hnode : files.node path = .ok node)
    (hkind : node.isDirectory = Text.endsWithSlash name) :
    find? files root name = some ⟨name, node.isDirectory⟩ := by
  unfold find?
  rw [hpath, Option.bind_some, hnode]
  exact if_pos hkind

/-- Two directories with the same components that have the same entries have one node under each
name. -/
lemma node_eq_of_find? (hpq : p.components = q.components) {name : String}
    (hfind : find? files p name = find? files q name) {path path' : Path}
    (hpath : pathOf? p name = some path) (hpath' : pathOf? q name = some path')
    {node : FileSystem.Node} (hnode : files.node path = .ok node)
    (hkind : node.isDirectory = Text.endsWithSlash name) : files.node path' = .ok node := by
  have hcomponents : path.components = path'.components := by
    rw [pathOf?_eq, Option.map_eq_some_iff] at hpath hpath'
    obtain ⟨-, -, rfl⟩ := hpath
    obtain ⟨-, -, rfl⟩ := hpath'
    exact Path.components_join hpq _
  have hfound := find?_of_node hpath hnode hkind
  rw [hfind] at hfound
  unfold find? at hfound
  rw [hpath', Option.bind_some] at hfound
  cases hnode' : files.node path' with
  | error fault =>
    rw [hnode'] at hfound
    cases hfound
  | ok node' => rw [FileSystem.node_unique hcomponents hnode hnode']

variable (hpq : p.components = q.components)
  (hfind : ∀ name, find? files p name = find? files q name)

include hpq hfind

/-- What is read under a name in one of two such directories is read in the other. -/
lemma read?_of_isFile {name : String} {path path' : Path} (hpath : pathOf? p name = some path)
    (hpath' : pathOf? q name = some path') (hslash : Text.endsWithSlash name = false)
    (hfile : files.isFile path = true) :
    files.isFile path' = true ∧ files.read path' = files.read path := by
  unfold FileSystem.isFile at hfile
  cases hnode : files.node path with
  | error fault =>
    rw [hnode] at hfile
    cases hfile
  | ok node =>
    rw [hnode] at hfile
    have hkind : node.isDirectory = Text.endsWithSlash name := by
      rw [hslash]
      cases node with
      | directory children => cases hfile
      | _ => rfl
    have hnode' := node_eq_of_find? hpq (hfind name) hpath hpath' hnode hkind
    unfold FileSystem.isFile FileSystem.read
    rw [hnode, hnode']
    exact ⟨hfile, rfl⟩

/-- Two such directories have the same contents. -/
lemma read?_eq_of_find? (name : String) : read? files p name = read? files q name := by
  have hboth := pathOf?_eq p name
  have hboth' := pathOf?_eq q name
  unfold read?
  cases hpath : pathOf? p name with
  | none =>
    have hnone : pathOf? q name = none := by
      rw [hpath, eq_comm, Option.map_eq_none_iff] at hboth
      rw [hboth', hboth, Option.map_none]
    rw [hnone]
  | some path =>
    obtain ⟨path', hpath'⟩ : ∃ path', pathOf? q name = some path' := by
      rw [hpath, eq_comm, Option.map_eq_some_iff] at hboth
      obtain ⟨any, hany, -⟩ := hboth
      exact ⟨_, by rw [hboth', hany, Option.map_some]⟩
    rw [hpath']
    dsimp only
    by_cases hslash : Text.endsWithSlash name = true
    · rw [if_pos (.inl hslash), if_pos (.inl hslash)]
    · rw [Bool.not_eq_true] at hslash
      by_cases hfile : files.isFile path = true
      · obtain ⟨hfile', hread⟩ := read?_of_isFile hpq hfind hpath hpath' hslash hfile
        obtain ⟨content, hcontent⟩ := FileSystem.exists_read_of_isFile hfile
        rw [if_neg (by simp [hslash, hfile]), if_neg (by simp [hslash, hfile']), hread, hcontent]
      · have hfile' : files.isFile path' = false := by
          by_contra hfile'
          rw [Bool.not_eq_false] at hfile'
          exact hfile (read?_of_isFile hpq.symm (fun name => (hfind name).symm) hpath' hpath hslash
            hfile').1
        rw [Bool.not_eq_true] at hfile
        rw [if_pos (.inr hfile), if_pos (.inr hfile')]

/-- Two such directories have the same manifest. -/
lemma manifest_eq_of_find? :
    (manifest files p).toOption.join = (manifest files q).toOption.join := by
  have hpath : ∀ root, pathOf? root Manifest.entryName = some (root.join ⟨Manifest.entryName⟩) := by
    intro root
    have hsome : pathOf? ⟨""⟩ Manifest.entryName = some ⟨Manifest.entryName⟩ := by decide +kernel
    rw [pathOf?_eq, hsome]
    exact congrArg (fun name => some (root.join ⟨name⟩)) (by decide +kernel)
  have hmanifest : ∀ root, (manifest files root).toOption.join =
      (files.read (root.join ⟨Manifest.entryName⟩)).toOption.map Manifest.parse := by
    intro root
    unfold manifest
    dsimp only
    cases files.read (root.join ⟨Manifest.entryName⟩) with
    | ok content => rfl
    | error fault => cases fault <;> rfl
  -- what is read at one of the paths is read at the other
  have hread : ∀ {p q : Path}, p.components = q.components →
      (∀ name, find? files p name = find? files q name) → ∀ content,
      files.read (p.join ⟨Manifest.entryName⟩) = .ok content →
      files.read (q.join ⟨Manifest.entryName⟩) = .ok content := by
    intro p q hpq hfind content hcontent
    have hslash : Text.endsWithSlash Manifest.entryName = false := by decide +kernel
    unfold FileSystem.read at hcontent ⊢
    cases hnode : files.node (p.join ⟨Manifest.entryName⟩) with
    | error fault =>
      rw [hnode] at hcontent
      cases hcontent
    | ok node =>
      rw [hnode] at hcontent
      have hkind : node.isDirectory = Text.endsWithSlash Manifest.entryName := by
        rw [hslash]
        cases node with
        | directory children => cases hcontent
        | _ => rfl
      rw [node_eq_of_find? hpq (hfind _) (hpath p) (hpath q) hnode hkind]
      exact hcontent
  rw [hmanifest, hmanifest]
  cases hp : files.read (p.join ⟨Manifest.entryName⟩) with
  | ok content => rw [hread hpq hfind content hp]
  | error fault =>
    cases hq : files.read (q.join ⟨Manifest.entryName⟩) with
    | ok content =>
      rw [hread hpq.symm (fun name => (hfind name).symm) content hq] at hp
      cases hp
    | error fault' => rfl

end Exploded

/-! ### What alike bodies have in common -/

namespace Archive

/-- The content of an entry that is no directory. -/
def Body.read? (files : FileSystem) :
    Body → String → Except ArchiveError (Option (List UInt8))
  | packaged stream, name => stream.index.map fun index =>
      ((index.find? name).filter (!·.entry.isDirectory)).map (·.dataIn stream.data)
  | exploded root, name => Exploded.read? files root name
  | scripted script, name => script.read? name

/-- Asking for the content of an entry gives the content of the body. -/
lemma read?_spec (a : Archive) (name : String) (s : Store) :
    (a.read? name s).1 = a.body.read? s.files name := by
  cases a with
  | packaged id stream => exact read?_packaged id stream s name
  | exploded id root =>
    dsimp only [read?]
    rw [Attempt.run_bind_files, Attempt.run_liftExcept]
    rfl
  | scripted id script =>
    dsimp only [read?]
    rw [Attempt.run_liftExcept]
    rfl

namespace Body

/-- Whether entries can be looked up in a body at all. -/
def isReadable : Body → Bool
  | packaged stream => stream.index.toOption.isSome
  | exploded _ => true
  | scripted script => script.entryFault.isNone

/-- Entries can be looked up in a packaged body if it can be indexed. -/
lemma isReadable_packaged (stream : Stream) :
    (packaged stream).isReadable = stream.index.toOption.isSome := rfl

/-- There is nothing in a body in which entries cannot be looked up. -/
lemma item?_of_not_isReadable {files : FileSystem} {body : Body} (h : body.isReadable = false)
    (name : String) : body.item? name files = none := by
  cases body with
  | packaged stream =>
    rw [isReadable_packaged, Option.isSome_eq_false_iff, Option.isNone_iff_eq_none] at h
    rw [item?_packaged, h, Option.bind_none]
  | exploded root => cases h
  | scripted script =>
    obtain ⟨fault, hfault⟩ := Option.isSome_iff_exists.mp (Option.isNone_eq_false_iff.mp h)
    dsimp only [item?, find?]
    unfold Script.find? Script.listed
    rw [hfault]
    rfl

/-- Nothing is nested in a body in which entries cannot be looked up. -/
lemma descend_of_not_isReadable {files : FileSystem} {body : Body} (h : body.isReadable = false)
    {names : List String} (hne : names ≠ []) : (body.descend files names).toOption = none := by
  obtain ⟨name, rest, rfl⟩ := List.exists_cons_of_ne_nil hne
  rw [descend]
  cases body with
  | packaged stream =>
    cases hindex : stream.index with
    | ok index =>
      rw [isReadable_packaged, hindex] at h
      cases h
    | error cause =>
      dsimp only [nested?]
      rw [hindex]
      rfl
  | exploded root => cases h
  | scripted script => rfl

namespace Alike

variable {files : FileSystem} {a b : Body}

/-- Alike bodies are packaged both or neither. -/
lemma isPackaged (h : Alike files a b) : a.isPackaged = b.isPackaged := by
  cases h <;> rfl

/-- Entries can be looked up in alike bodies both or neither. -/
lemma isReadable (h : Alike files a b) : a.isReadable = b.isReadable := by
  cases h with
  | refl | exploded => rfl
  | packaged h => rw [isReadable_packaged, isReadable_packaged, h.index]

/-- Alike bodies have the same manifest. -/
lemma manifest (h : Alike files a b) :
    (a.manifest files).toOption.join = (b.manifest files).toOption.join := by
  have hpackaged : ∀ stream : Stream, ((Body.packaged stream).manifest files).toOption.join =
      stream.index.toOption.bind (·.manifest) := by
    intro stream
    dsimp only [Body.manifest]
    cases stream.index <;> rfl
  cases h with
  | refl => rfl
  | packaged h => rw [hpackaged, hpackaged, h.index]
  | exploded hpq hfind => exact Exploded.manifest_eq_of_find? hpq hfind

/-- Alike bodies are fit to define the same packages. -/
lemma fit? (h : Alike files a b) (className packageName : String) :
    a.fit? className packageName files = b.fit? className packageName files := by
  unfold Body.fit?
  rw [h.isPackaged, h.item?, h.item?, h.manifest]

/-- Alike bodies have the same contents. -/
lemma read? (h : Alike files a b) (name : String) :
    ResultRel ArchiveError.Alike Eq (a.read? files name) (b.read? files name) := by
  have hself : ∀ r : Except ArchiveError (Option (List UInt8)),
      ResultRel ArchiveError.Alike Eq r r := by
    intro r
    cases r with
    | ok content => exact .ok rfl
    | error cause => exact .error (.refl cause)
  cases h with
  | refl => exact hself _
  | @packaged s t h =>
    have hindex := h.index_rel
    dsimp only [Body.read?]
    rw [h.data]
    generalize s.index = index at hindex
    generalize t.index = index' at hindex
    cases hindex with
    | ok heq =>
      rw [heq]
      exact .ok rfl
    | error hcause => exact .error hcause
  | exploded hpq hfind =>
    dsimp only [Body.read?]
    rw [Exploded.read?_eq_of_find? hpq hfind]
    exact hself _

end Alike

/-- Two bodies are alike, and the same if they are compared closely. -/
def Like (k : Closeness) (files : FileSystem) : Body → Body → Prop := k.Like (Alike files)

namespace Like

variable {k : Closeness} {files : FileSystem} {a b c : Body}

/-- A body is like itself. -/
lemma refl (a : Body) : Like k files a a := .of_refl (.refl a)

/-- Likeness is symmetric. -/
lemma symm (h : Like k files a b) : Like k files b a := Closeness.Like.symm Alike.symm h

/-- What may be there is like itself. -/
lemma option_refl (x : Option Body) : Option.Rel (Like k files) x x := by
  cases x with
  | none => exact .none
  | some a => exact .some (.refl a)

/-- Likeness of what may be there is transitive. -/
lemma option_trans {x y z : Option Body} (h : Option.Rel (Like k files) x y)
    (g : Option.Rel (Like k files) y z) : Option.Rel (Like k files) x z := by
  cases h with
  | none => exact g
  | some h =>
    cases g with
    | some g => exact .some (Closeness.Like.trans Alike.trans h g)

/-- Bodies have the same contents, as closely as they are alike. -/
lemma read? (h : Like k files a b) (name : String) :
    ResultRel (k.Like ArchiveError.Alike) Eq (a.read? files name) (b.read? files name) := by
  have hread := h.1.read? name
  have hsame : k = .same → a.read? files name = b.read? files name := fun hk => by rw [h.2 hk]
  generalize a.read? files name = r at hread hsame
  generalize b.read? files name = r' at hread hsame
  cases hread with
  | ok heq => exact .ok heq
  | error hcause => exact .error ⟨hcause, fun hk => Except.error.inj (hsame hk)⟩

end Like

end Body

end Archive

/-! ### Alike classes -/

/-- Two classes come from the same: from one class file, in archives with bodies that are alike. -/
inductive Class.Source.Like (k : Closeness) (files : FileSystem) :
    Class.Source → Class.Source → Prop where
  | builtin (main : Option EntryPoint) : Like k files (.builtin main) (.builtin main)
  | archived {url : Url} {a b : Archive} {entry : String} :
      a.body.Like k files b.body → Like k files (.archived url a entry) (.archived url b entry)

/-- Two classes are the same, but for the numbers of the archives that they come from, and for how
paths are written there, if this is allowed for. -/
structure Class.Alike (k : Closeness) (files : FileSystem) (c d : Class) : Prop where
  name : c.name = d.name
  definer : c.definer = d.definer
  package : c.package = d.package
  source : c.source.Like k files d.source

end AppLauncher
