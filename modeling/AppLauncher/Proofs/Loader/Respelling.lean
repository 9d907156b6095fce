import AppLauncher.Proofs.Archive.Relocation
import AppLauncher.Proofs.Loader.Answers
import Mathlib.Data.List.Find

/-!
# Paths that are written differently

Archives are held under the components of their paths, so that `lib.jar` and `lib.jar/` are one
archive.  The files see such paths as they are written, and need not find the same at both.
`Url.Agree` says that they do.  Then it does not matter through which of the two urls an archive
has been opened: the bodies differ in the spelling of paths at most (`Archive.Body.Alike`), and
opening one url does not change what another one opens (`Handler.alike_opens?_holding`).
-/

namespace AppLauncher

open Archive (Body)

/-! ### Alike bodies -/

/-- Two urls differ in how the path of an artifact is written at most. -/
inductive Url.Respells : Url → Url → Prop where
  | refl (url : Url) : Respells url url
  | packaged {p q : Path} {names : List String} : p.components = q.components →
      Respells (.packaged p names) (.packaged q names)

namespace Url.Respells

/-- Writing paths differently is symmetric. -/
lemma symm {u v : Url} (h : u.Respells v) : v.Respells u := by
  cases h with
  | refl => exact .refl u
  | packaged hpq => exact .packaged hpq.symm

/-- Writing paths differently is transitive. -/
lemma trans {u v w : Url} (h : u.Respells v) (g : v.Respells w) : u.Respells w := by
  cases h with
  | refl => exact g
  | packaged hpq =>
    cases g with
    | refl => exact .packaged hpq
    | packaged hqr => exact .packaged (hpq.trans hqr)

/-- What is nested in an artifact is at urls that differ like those of the artifact. -/
lemma nested {u v : Url} (h : u.Respells v) (name : String) :
    (u.nested name).Respells (v.nested name) := by
  cases h with
  | refl => exact .refl _
  | packaged hpq => exact .packaged hpq

end Url.Respells

/-- Two streams have the same content. -/
structure Stream.Alike (s t : Stream) : Prop where
  url : s.url.Respells t.url
  data : s.data = t.data
  directory : s.directory = t.directory

namespace Stream.Alike

variable {s t u : Stream}

/-- Having the same content is symmetric. -/
lemma symm (h : s.Alike t) : t.Alike s := ⟨h.url.symm, h.data.symm, h.directory.symm⟩

/-- Having the same content is transitive. -/
lemma trans (h : s.Alike t) (g : t.Alike u) : s.Alike u :=
  ⟨h.url.trans g.url, h.data.trans g.data, h.directory.trans g.directory⟩

/-- Streams with the same content have the same index. -/
lemma index (h : s.Alike t) : s.index.toOption = t.index.toOption := by
  have hsame : s.SameContent t := ⟨h.data, h.directory⟩
  rw [hsame.index]
  cases t.index <;> rfl

/-- What is nested in streams with the same content has the same content. -/
lemma nested (h : s.Alike t) (item : Item) : (s.nested item).Alike (t.nested item) := by
  unfold Stream.nested
  rw [h.data, h.directory]
  split
  · exact ⟨h.url.nested _, rfl, rfl⟩
  · exact ⟨h.url.nested _, rfl, rfl⟩

end Stream.Alike

namespace Archive.Body

/-- Two bodies have the same entries: they differ in how paths are written at most. -/
inductive Alike (files : FileSystem) : Body → Body → Prop where
  | refl (body : Body) : Alike files body body
  | packaged {s t : Stream} : s.Alike t → Alike files (.packaged s) (.packaged t)
  | exploded {p q : Path} : p.components = q.components →
      (∀ name, Exploded.find? files p name = Exploded.find? files q name) →
      Alike files (.exploded p) (.exploded q)

namespace Alike

variable {files : FileSystem} {a b c : Body}

/-- Likeness is symmetric. -/
lemma symm (h : Alike files a b) : Alike files b a := by
  cases h with
  | refl => exact .refl a
  | packaged h => exact .packaged h.symm
  | exploded hpq hfind => exact .exploded hpq.symm fun name => (hfind name).symm

/-- Likeness is transitive. -/
lemma trans (h : Alike files a b) (g : Alike files b c) : Alike files a c := by
  cases h with
  | refl => exact g
  | packaged h =>
    cases g with
    | refl => exact .packaged h
    | packaged g => exact .packaged (h.trans g)
  | exploded hpq hfind =>
    cases g with
    | refl => exact .exploded hpq hfind
    | exploded hqr hfind' =>
      exact .exploded (hpq.trans hqr) fun name => (hfind name).trans (hfind' name)

/-- Alike bodies have the same entries. -/
lemma item? (h : Alike files a b) (name : String) : a.item? name files = b.item? name files := by
  cases h with
  | refl => rfl
  | packaged h => rw [item?_packaged, item?_packaged, h.index]
  | exploded _ hfind => rw [item?_exploded, item?_exploded, hfind]

/-- Alike bodies have the same files. -/
lemma file? (h : Alike files a b) (name : String) : a.file? name files = b.file? name files := by
  unfold Body.file?
  rw [h.item?]

end Alike

/-- Both bodies are packaged, with the same content. -/
def BothPackaged (a b : Body) : Prop :=
  ∃ s t, a = .packaged s ∧ b = .packaged t ∧ s.Alike t

/-- Packaged bodies with the same content are alike. -/
lemma BothPackaged.alike {files : FileSystem} {a b : Body} (h : a.BothPackaged b) :
    Alike files a b := by
  obtain ⟨s, t, rfl, rfl, h⟩ := h
  exact .packaged h

/-- Walking into packaged bodies with the same content leads to such bodies. -/
lemma descend_bothPackaged {files : FileSystem} {a b : Body} (h : a.BothPackaged b)
    (names : List String) :
    Option.Rel BothPackaged (a.descend files names).toOption (b.descend files names).toOption := by
  induction names generalizing a b with
  | nil => exact .some h
  | cons name names ih =>
    obtain ⟨s, t, rfl, rfl, h⟩ := h
    have hindex := h.index
    rw [descend, descend, nested?, nested?]
    rcases hs : s.index with cause | index <;> rcases ht : t.index with cause' | index'
    · exact .none
    · rw [hs, ht] at hindex
      cases hindex
    · rw [hs, ht] at hindex
      cases hindex
    · rw [hs, ht] at hindex
      cases hindex
      dsimp only [Except.map]
      cases index.findLoosely? (Text.dropSlashes name) with
      | none => exact .none
      | some item => exact ih ⟨_, _, rfl, rfl, h.nested item⟩

/-- Artifacts with the same content have alike bodies. -/
lemma open?_bothPackaged {files : FileSystem} {p q : Path} (hpq : p.components = q.components)
    (hread : (files.read p).toOption = (files.read q).toOption) :
    Option.Rel BothPackaged (open? files p).toOption (open? files q).toOption := by
  unfold open?
  rcases hp : files.read p with fault | file <;> rcases hq : files.read q with fault' | file'
  · exact .none
  · rw [hp, hq] at hread
    cases hread
  · rw [hp, hq] at hread
    cases hread
  · rw [hp, hq] at hread
    cases hread
    dsimp only
    cases Trailer.payload file with
    | error offset => exact .none
    | ok data => exact .some ⟨_, _, rfl, rfl, .packaged hpq, rfl, rfl⟩

end Archive.Body

/-! ### Opening through another spelling -/

/-- If two urls count as one, they lead to the same thing, however they are written. -/
def Url.Agree (files : FileSystem) : Url → Url → Prop
  | .directory p, .directory q => p.components = q.components →
    files.isDirectory p = files.isDirectory q ∧
      ∀ name, Exploded.find? files p name = Exploded.find? files q name
  | .packaged p _, .packaged q _ => p.components = q.components →
    (files.read p).toOption = (files.read q).toOption
  | _, _ => True

/-- A url leads to the same thing as itself. -/
lemma Url.Agree.refl (files : FileSystem) (url : Url) : url.Agree files url := by
  cases url with
  | directory path => exact fun _ => ⟨rfl, fun _ => rfl⟩
  | packaged root names => exact fun _ => rfl

namespace Handler

variable {files : FileSystem} {held : Url.Key → Option Body}

/-- What may be there is alike to itself. -/
lemma alike_refl (x : Option Body) : Option.Rel (Body.Alike files) x x := by
  cases x with
  | none => exact .none
  | some body => exact .some (.refl body)

/-- Likeness of what may be there is transitive. -/
lemma alike_trans {x y z : Option Body} (h : Option.Rel (Body.Alike files) x y)
    (g : Option.Rel (Body.Alike files) y z) : Option.Rel (Body.Alike files) x z := by
  cases h with
  | none => exact g
  | some h =>
    cases g with
    | some g => exact .some (h.trans g)

/-- What may be there, packaged and with the same content, is alike. -/
lemma alike_of_bothPackaged {x y : Option Body} (h : Option.Rel Body.BothPackaged x y) :
    Option.Rel (Body.Alike files) x y := by
  cases h with
  | none => exact .none
  | some h => exact .some h.alike

/-- Walking into what may be there, packaged and with the same content. -/
lemma alike_bind_descend {x y : Option Body} (h : Option.Rel Body.BothPackaged x y)
    (names : List String) :
    Option.Rel (Body.Alike files) (x.bind fun body => (body.descend files names).toOption)
      (y.bind fun body => (body.descend files names).toOption) := by
  cases h with
  | none => exact .none
  | some h => exact alike_of_bothPackaged (Body.descend_bothPackaged h names)

/-- The body of an artifact that is held. -/
lemma artifactBody_of_held {root : Path} {body : Body}
    (h : held (Url.artifact root).key = some body) :
    artifactBody files held true root = .ok body := by
  unfold artifactBody
  rw [h]
  rfl

/-- The body of an artifact that is not held. -/
lemma artifactBody_of_not_held {root : Path} (h : held (Url.artifact root).key = none) :
    artifactBody files held true root = Body.open? files root := by
  unfold artifactBody
  rw [h]

/-- Urls that count as one open to alike bodies, if they lead to the same thing. -/
lemma alike_opens?_of_key {u v : Url} (hkey : u.key = v.key) (h : u.Agree files v) :
    Option.Rel (Body.Alike files) (opens? files held u) (opens? files held v) := by
  cases hheld : held v.key with
  | some body =>
    rw [opens?_of_held (hkey ▸ hheld), opens?_of_held hheld]
    exact .some (.refl body)
  | none =>
    have hfree : held u.key = none := hkey ▸ hheld
    cases u with
    | directory p =>
      cases v with
      | packaged => cases hkey
      | directory q =>
        have hpq : p.components = q.components := Url.Key.directory.inj hkey
        obtain ⟨hdir, hfind⟩ := h hpq
        rw [opens?_directory hfree, opens?_directory hheld, hdir]
        split
        · exact .some (.exploded hpq hfind)
        · exact .none
    | packaged p names =>
      cases v with
      | directory => cases hkey
      | packaged q names' =>
        obtain ⟨hpq, rfl⟩ : p.components = q.components ∧ names = names' :=
          Url.Key.packaged.inj hkey
        have hroot : (Url.artifact p).key = (Url.artifact q).key :=
          congrArg (Url.Key.packaged · []) hpq
        rw [opens?_packaged hfree, opens?_packaged hheld]
        cases hq : held (Url.artifact q).key with
        | some body =>
          rw [artifactBody_of_held (hroot ▸ hq), artifactBody_of_held hq]
          exact alike_refl _
        | none =>
          rw [artifactBody_of_not_held (hroot ▸ hq), artifactBody_of_not_held hq]
          exact alike_bind_descend (Body.open?_bothPackaged hpq (h hpq)) names

/-- Walking into the artifact of a url leads to the same when the artifact has been opened under
the spelling of another url. -/
lemma alike_bind_artifactBody {v : Url} {p : Path} {names : List String} {body : Body}
    (hv : opens? files held v = some body) (hroot : (Url.artifact p).key = v.key)
    (h : v.Agree files (.packaged p names)) :
    Option.Rel (Body.Alike files) (body.descend files names).toOption
      ((artifactBody files held true p).toOption.bind fun found =>
        (found.descend files names).toOption) := by
  cases hfree : held v.key with
  | some c =>
    rw [opens?_of_held hfree] at hv
    cases hv
    rw [artifactBody_of_held (hroot ▸ hfree)]
    exact alike_refl _
  | none =>
    cases v with
    | directory => cases hroot
    | packaged q names' =>
      obtain ⟨hpq, rfl⟩ : p.components = q.components ∧ [] = names' := Url.Key.packaged.inj hroot
      rw [opens?_packaged hfree, artifactBody_of_not_held hfree] at hv
      have hopen : (Body.open? files q).toOption = some body := by
        rw [← hv]
        cases Body.open? files q <;> rfl
      have hboth := Body.open?_bothPackaged hpq.symm (h hpq.symm)
      rw [hopen] at hboth
      rw [artifactBody_of_not_held (hroot ▸ hfree)]
      exact alike_bind_descend hboth names

/-- What a url opens stays alike when another url is opened, if urls that count as one lead to the
same thing. -/
lemma alike_opens?_holding {u v : Url} {body : Body} (hv : opens? files held v = some body)
    (h : v.Agree files u) :
    Option.Rel (Body.Alike files) (opens? files (holding held v body) u)
      (opens? files held u) := by
  by_cases hkey : u.key = v.key
  · have hself : holding held v body u.key = some body := if_pos hkey
    rw [opens?_of_held hself, ← hv]
    exact alike_opens?_of_key hkey.symm h
  · have hother : holding held v body u.key = held u.key := if_neg hkey
    cases hheld : held u.key with
    | some c =>
      rw [opens?_of_held (hother.trans hheld), opens?_of_held hheld]
      exact .some (.refl c)
    | none =>
      cases u with
      | directory p =>
        rw [opens?_directory (hother.trans hheld), opens?_directory hheld]
        exact alike_refl _
      | packaged p names =>
        rw [opens?_packaged (hother.trans hheld), opens?_packaged hheld]
        by_cases hroot : (Url.artifact p).key = v.key
        · -- the artifact of the url has been opened, under the spelling of the other url
          have hself : holding held v body (Url.artifact p).key = some body := if_pos hroot
          rw [artifactBody_of_held hself]
          exact alike_bind_artifactBody hv hroot h
        · have hsame : artifactBody files (holding held v body) true p =
              artifactBody files held true p := by
            unfold artifactBody holding
            rw [if_neg hroot]
          rw [hsame]
          exact alike_refl _

/-! ### A search does not depend on what it opens on its way -/

variable {β : Type} {answer : Body → Option β}

/-- An answer that alike bodies share. -/
lemma bind_of_alike (hanswer : ∀ a b, Body.Alike files a b → answer a = answer b)
    {x y : Option Body} (h : Option.Rel (Body.Alike files) x y) :
    x.bind answer = y.bind answer := by
  cases h with
  | none => rfl
  | some h => exact hanswer _ _ h

/-- All urls that open, from the start, to a body with an answer have one in the order of the
list. -/
lemma answers_fst (hanswer : ∀ a b, Body.Alike files a b → answer a = answer b) {urls : List Url}
    (hagree : ∀ u ∈ urls, ∀ v ∈ urls, u.Agree files v) :
    (answers files held answer urls).map Prod.fst =
      urls.filter fun url => ((opens? files held url).bind answer).isSome := by
  induction urls generalizing held with
  | nil => rfl
  | cons url urls ih =>
    have htail : ∀ u ∈ urls, ∀ v ∈ urls, u.Agree files v :=
      fun u hu v hv => hagree u (.tail _ hu) v (.tail _ hv)
    rw [List.filter_cons]
    cases hopens : opens? files held url with
    | none =>
      rw [answers_cons_of_closed hopens, ih htail]
      rfl
    | some body =>
      have hlater : (answers files (holding held url body) answer urls).map Prod.fst =
          urls.filter fun url => ((opens? files held url).bind answer).isSome := by
        rw [ih htail]
        refine List.filter_congr fun u hu => ?_
        rw [bind_of_alike hanswer
          (alike_opens?_holding hopens (hagree url (.head _) u (.tail _ hu)))]
      rw [answers_cons_of_opened hopens, List.map_append, hlater, Option.bind_some]
      cases answer body <;> rfl

/-- A search ends at the first url that opens, from the start, to a body with an answer. -/
lemma first?_fst (hanswer : ∀ a b, Body.Alike files a b → answer a = answer b) {urls : List Url}
    (hagree : ∀ u ∈ urls, ∀ v ∈ urls, u.Agree files v) :
    (first? files held answer urls).map Prod.fst =
      urls.find? fun url => ((opens? files held url).bind answer).isSome := by
  rw [← head?_answers, ← List.head?_map, answers_fst hanswer hagree, List.head?_filter]

end Handler

/-- What urls open stays alike while archives are opened, if urls that count as one lead to the same
thing. -/
lemma Store.Opens.alike {reach : Nat → Url → Prop} {s t : Store} (h : Store.Opens reach s t)
    (hagree : ∀ handler u v, reach handler u → reach handler v → u.Agree s.files v) :
    t.files = s.files ∧ ∀ handler url, reach handler url →
      Option.Rel (Body.Alike s.files) (Handler.opens? s.files (t.bodies handler) url)
        (Handler.opens? s.files (s.bodies handler) url) := by
  induction h with
  | refl => exact ⟨rfl, fun handler url _ => Handler.alike_refl _⟩
  | same _ hfiles hhandlers ih =>
    refine ⟨hfiles.trans ih.1, fun handler url hurl => ?_⟩
    rw [bodies_of_handlers hhandlers]
    exact ih.2 handler url hurl
  | @opened v w handler url a _ hreach hopens ho ih =>
    obtain ⟨hfiles, hstart⟩ := ih
    refine ⟨ho.files.trans hfiles, fun handler' url' hurl => ?_⟩
    rw [hfiles] at hopens
    refine Handler.alike_trans ?_ (hstart handler' url' hurl)
    by_cases hh : handler' = handler
    · subst hh
      rw [Layer.bodies_of_opened ho]
      exact Handler.alike_opens?_holding hopens (hagree handler' url url' hreach hurl)
    · have hsame : w.bodies handler' = v.bodies handler' := by
        funext key
        rw [ho.bodies, if_neg fun h => hh h.1]
      rw [hsame]
      exact Handler.alike_refl _

end AppLauncher
