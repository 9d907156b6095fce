import AppLauncher.Proofs.Loader.Calls

/-!
# Broken urls are harmless

A url is broken if nothing can be used of it (`Store.Broken`): it does not open, or to an archive
that cannot be indexed.  The same has to go for its other spellings, as far as the chain has them,
since a handler holds archives under the components of their paths, so that `lib.jar/` opens once
`lib.jar` has been opened (`Loader.answers_change_with_padding`).  If the path of the url is written
in one way only, the url itself tells (`Store.broken_of_spelling`), and so it does where the path
leads to a file (`Store.broken_of_read`, `Store.broken_of_node`): an artifact or a nested archive
that is malformed, an entry that is missing, and a file in place of a directory are broken.

Urls that are broken can be put into a chain, and all answers stay the same, up to the numbers of
archives (`Loader.answers_of_padding`).
-/

namespace AppLauncher

open Archive (Body)

/-! ### Which urls are broken -/

namespace Store

variable {reach : Nat → Url → Prop} {start : Store} {handler : Nat}

/-- A url of which nothing can be used is broken, if the urls that are reached do not write its path
in another way. -/
lemma broken_of_spelling {url : Url} (hnone : start.usable? handler url = none)
    (hspelling : ∀ v, reach handler v → v.root.key = url.root.key → v.root = url.root) :
    start.Broken reach handler url := by
  intro v hkey hreached
  have hrootKey : v.root.key = url.root.key := by
    cases v with
    | directory p =>
      cases url with
      | directory q => exact hkey
      | packaged => cases hkey
    | packaged p names =>
      cases url with
      | directory => cases hkey
      | packaged q names' => exact congrArg (Url.Key.packaged · []) (Url.Key.packaged.inj hkey).1
  have hroot : v.root = url.root := by
    rcases hreached with rfl | hv | hv
    · rfl
    · exact hspelling v hv hrootKey
    · have hself : v.root.root = v.root := by cases v <;> rfl
      have hsame := hspelling v.root hv
      rw [hself] at hsame
      exact hsame hrootKey
  have hurl : v = url := by
    cases v with
    | directory p =>
      cases url with
      | directory q => exact hroot
      | packaged => cases hkey
    | packaged p names =>
      cases url with
      | directory => cases hkey
      | packaged q names' =>
        obtain rfl : p = q := (Url.packaged.inj hroot).1
        obtain rfl : names = names' := (Url.Key.packaged.inj hkey).2
        rfl
  rw [hurl]
  exact hnone

/-- If an artifact can be read at one spelling of its path, then an archive in it that opens at
another spelling opens at this one. -/
lemma isSome_opens?_of_read {held : Url.Key → Option Body} {files : FileSystem} {q root : Path}
    {names : List String} {content : List UInt8} (hread : files.read root = .ok content)
    (hq : q.components = root.components)
    (hopens : (Handler.opens? files held (.packaged q names)).isSome) :
    (Handler.opens? files held (.packaged root names)).isSome := by
  have hkey : (Url.packaged q names).key = (Url.packaged root names).key :=
    congrArg (Url.Key.packaged · names) hq
  cases hreadq : files.read q with
  | ok content' =>
    have hagree : (Url.packaged q names).Agree files (.packaged root names) := fun _ => by
      rw [hread, hreadq, FileSystem.read_unique hq hreadq hread]
    have halike : Option.Rel (Body.Alike files) (Handler.opens? files held (.packaged q names))
        (Handler.opens? files held (.packaged root names)) :=
      Handler.alike_opens?_of_key hkey hagree
    generalize Handler.opens? files held (.packaged q names) = x at hopens halike
    generalize Handler.opens? files held (.packaged root names) = y at halike
    cases halike with
    | none => cases hopens
    | some _ => rfl
  | error fault =>
    cases hheld : held (Url.packaged q names).key with
    | some body =>
      rw [Handler.opens?_of_held (hkey ▸ hheld)]
      rfl
    | none =>
      rw [Handler.opens?_of_artifact hheld] at hopens
      rw [Handler.opens?_of_artifact (hkey ▸ hheld)]
      have hroot : (Url.artifact q).key = (Url.artifact root).key :=
        congrArg (Url.Key.packaged · []) hq
      cases hartifact : held (Url.artifact q).key with
      | some body =>
        rw [Handler.opens?_of_held hartifact] at hopens
        rw [Handler.opens?_of_held (hroot ▸ hartifact)]
        exact hopens
      | none =>
        rw [Handler.opens?_artifact, Handler.artifactBody_of_not_held hartifact] at hopens
        unfold Body.open? at hopens
        rw [hreadq] at hopens
        cases hopens

/-- A packaged archive of which nothing can be used is broken if its artifact can be read. -/
lemma broken_of_read {root : Path} {names : List String} {content : List UInt8}
    (hread : start.files.read root = .ok content)
    (hnone : start.usable? handler (.packaged root names) = none) :
    start.Broken reach handler (.packaged root names) := by
  intro v hv _
  cases v with
  | directory => cases hv
  | packaged q names' =>
    obtain ⟨hq, rfl⟩ : q.components = root.components ∧ names' = names := Url.Key.packaged.inj hv
    rw [Option.eq_none_iff_forall_ne_some]
    intro body hbody
    obtain ⟨hopens, hreadable⟩ := Handler.usable?_eq_some_iff.mp hbody
    obtain ⟨found, hfound⟩ := Option.isSome_iff_exists.mp
      (isSome_opens?_of_read hread hq (by rw [hopens]; rfl))
    have hakin := Handler.akin_of_opens? hq hopens hfound
    rw [hakin.isReadable] at hreadable
    unfold usable? at hnone
    rw [Handler.usable?_eq_some_iff.mpr ⟨hfound, hreadable⟩] at hnone
    cases hnone

/-- A directory of which nothing can be used is broken if its path leads to something else. -/
lemma broken_of_node {path : Path} {node : FileSystem.Node}
    (hnode : start.files.node path = .ok node)
    (hnone : start.usable? handler (.directory path) = none) :
    start.Broken reach handler (.directory path) := by
  intro v hv _
  cases v with
  | packaged => cases hv
  | directory q =>
    have hq : q.components = path.components := Url.Key.directory.inj hv
    unfold usable? Handler.usable? at hnone ⊢
    cases hheld : start.bodies handler (Url.directory path).key with
    | some body =>
      rw [Handler.opens?_of_held hheld] at hnone
      rw [Handler.opens?_of_held (hv ▸ hheld), hnone]
    | none =>
      rw [Handler.opens?_directory hheld] at hnone
      rw [Handler.opens?_directory (hv ▸ hheld)]
      have hdirectory : start.files.isDirectory q = false := by
        by_contra hdirectory
        rw [Bool.not_eq_false] at hdirectory
        unfold FileSystem.isDirectory at hdirectory
        cases hnodeq : start.files.node q with
        | error fault =>
          rw [hnodeq] at hdirectory
          cases hdirectory
        | ok node' =>
          rw [hnodeq, ← FileSystem.node_unique hq.symm hnode hnodeq] at hdirectory
          have hpath : start.files.isDirectory path = true := by
            unfold FileSystem.isDirectory
            rw [hnode]
            exact hdirectory
          rw [if_pos hpath] at hnone
          cases hnone
      rw [hdirectory]
      rfl

end Store

namespace Loader

variable {start : Store} {loader padded : Loader}

/-! ### Putting broken urls into a chain -/

/-- Whatever is asked of a chain, and in whatever order, the answers are the same, up to the numbers
of archives, when urls are put between those of the chain that are broken, together with their
spellings in the chain that comes of it. -/
theorem answers_of_padding (hs : start.Undisturbed) (hn : start.Numbered)
    (hpad : loader.Padding padded.reach start padded) (calls : List Call) :
    List.Forall₂ (Answer.Alike .same start.files) (loader.answers calls start).1
      (padded.answers calls start).1 :=
  (hpad.answers (fun _ _ h => h) (.refl (.refl hs hn)) calls).results

/-- Two libraries and a directory with a class of one name. -/
def paddedFiles : FileSystem where
  root := .directory (.cons "lib.jar" (.file (Tar.member "A.class" []))
    (.cons "old.jar" (.file (Tar.member "A.class" []))
      (.cons "d" (.directory (.cons "A.class" (.file []) .nil)) .nil)))
  working := []

/-- A layer over a library and the directory, with urls in between that are broken: a file in place
of a directory, an entry that the library does not have, and a spelling of the other library, which
is not opened under another one. -/
def paddedChain : Loader :=
  .isolated ⟨1, [.directory ⟨"lib.jar"⟩, .packaged ⟨"lib.jar"⟩ [],
    .packaged ⟨"lib.jar"⟩ ["gone.jar"], .packaged ⟨"old.jar/"⟩ [], .directory ⟨"d"⟩], 2⟩ .absent

/-- The broken urls make no difference to the resources and classes of the layer. -/
theorem answers_of_padding_paddedChain :
    (Store.start paddedFiles 3).usable? 2 (.packaged ⟨"old.jar"⟩ []) ≠ none ∧
      List.Forall₂ (Answer.Alike .same paddedFiles)
        ((isolated ⟨1, [.packaged ⟨"lib.jar"⟩ [], .directory ⟨"d"⟩], 2⟩ absent).answers
          [.ask (.findResources 0 "A.class"), .ask (.load 0 "A" true)] (.start paddedFiles 3)).1
        (paddedChain.answers [.ask (.findResources 0 "A.class"), .ask (.load 0 "A" true)]
          (.start paddedFiles 3)).1 := by
  have hread : paddedFiles.read ⟨"lib.jar"⟩ = .ok (Tar.member "A.class" []) := by rfl
  have hnode : paddedFiles.node ⟨"lib.jar"⟩ = .ok (.file (Tar.member "A.class" [])) := by rfl
  have hs : (Store.start paddedFiles 3).Undisturbed := rfl
  have hspelling : ∀ v, paddedChain.reach 2 v →
      v.root.key = (Url.packaged ⟨"old.jar/"⟩ []).root.key →
      v.root = .packaged ⟨"old.jar/"⟩ [] := by
    rintro v ⟨layer, hlayer, -, hurl⟩
    obtain rfl := List.mem_singleton.mp hlayer
    revert v
    decide +kernel
  have hold : (Store.start paddedFiles 3).Broken paddedChain.reach 2 (.packaged ⟨"old.jar/"⟩ []) :=
    Store.broken_of_spelling (by decide +kernel) hspelling
  have hgone : (Store.start paddedFiles 3).Broken paddedChain.reach 2
      (.packaged ⟨"lib.jar"⟩ ["gone.jar"]) := Store.broken_of_read hread (by decide +kernel)
  have hfile : (Store.start paddedFiles 3).Broken paddedChain.reach 2 (.directory ⟨"lib.jar"⟩) :=
    Store.broken_of_node hnode (by decide +kernel)
  refine ⟨by decide +kernel, answers_of_padding hs (.start paddedFiles 3) (.isolated ?_ .absent) _⟩
  exact .insert hfile (.keep _ (.insert hgone (.insert hold (.keep _ .nil))))

/-- The number of resources in an answer. -/
def Answer.count : Answer → Nat
  | .resources found => found.length
  | _ => 0

/-- Alike answers have the same number of resources. -/
lemma Answer.Alike.count {k : Closeness} {files : FileSystem} {a b : Answer}
    (h : a.Alike k files b) : a.count = b.count := by
  cases h with
  | resources h => exact h.length_eq
  | _ => rfl

/-- A url of which nothing can be used as it is written can make a difference: here a second
spelling of a library, which does not open before the library has been opened. -/
theorem answers_change_with_padding :
    (Store.start spellingFiles 3).usable? 2 (.packaged ⟨"lib.jar/"⟩ []) = none ∧
      ¬List.Forall₂ (Answer.Alike .same spellingFiles)
        ((isolated ⟨1, [.packaged ⟨"lib.jar"⟩ []], 2⟩ absent).answers
          [.ask (.findResources 0 "A.class")] (.start spellingFiles 3)).1
        ((isolated ⟨1, [.packaged ⟨"lib.jar"⟩ [], .packaged ⟨"lib.jar/"⟩ []], 2⟩ absent).answers
          [.ask (.findResources 0 "A.class")] (.start spellingFiles 3)).1 := by
  refine ⟨by decide +kernel, fun h => ?_⟩
  have hone : ((isolated ⟨1, [.packaged ⟨"lib.jar"⟩ []], 2⟩ absent).answers
      [.ask (.findResources 0 "A.class")] (.start spellingFiles 3)).1.map Answer.count = [1] := by
    decide +kernel
  have htwo : ((isolated ⟨1, [.packaged ⟨"lib.jar"⟩ [], .packaged ⟨"lib.jar/"⟩ []], 2⟩
      absent).answers [.ask (.findResources 0 "A.class")]
        (.start spellingFiles 3)).1.map Answer.count = [2] := by
    decide +kernel
  have hsame := Answer.map_eq_of_alike Answer.Alike.count h
  rw [hone, htwo] at hsame
  cases hsame

end Loader

end AppLauncher
