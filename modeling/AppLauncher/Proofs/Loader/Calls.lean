import AppLauncher.Proofs.Loader.Clearing

/-!
# Calls and their answers

All that the loaders of a chain can be asked, with the answers (`Loader.Call.answer`).  Two answers
are alike if they differ in the numbers of archives and in how paths are written at most
(`Loader.Answer.Alike`).

A call does the same on two stores that resemble each other, with broken urls put between those of
one of the chains (`Loader.Padding.answer`), and so does every sequence of calls
(`Loader.Padding.answers`).
-/

namespace AppLauncher

open Archive (Body)

namespace Loader

/-- A call of the loader that is a number of steps up the chain. -/
inductive Call where
  | ask (request : Request)
  | package (depth : Nat) (name : String)
  | packages (depth : Nat)

/-- What is answered. -/
inductive Answer where
  | loaded (result : Except LoaderError Class)
  | resource (resource? : Option Resource)
  | resources (resources : List Resource)
  | package (package? : Option Package)
  | packages (packages : List Package)
  | defined (result : Except LoaderError Package)
  /-- The loader defines no packages. -/
  | refused
  | cleared

/-- All packages that a loader has defined itself. -/
def packages : Loader → Action (List Package)
  | isolated layer _ => Layer.packages layer.id
  | _ => pure []

/-- Defines a package, if the loader has packages of its own. -/
def definePackage (loader : Loader) (name : String) (manifest : Option Manifest) (url : Url) :
    Action Answer :=
  match loader with
  | isolated layer _ => do
    return .defined (← (Layer.definePackage layer.id name manifest url).run)
  | _ => pure .refused

/-- Answers a request. -/
def Request.answer (loader : Loader) : Request → Action Answer
  | load depth name resolve => do
    return .loaded (← ((loader.ancestor depth).load name resolve).run)
  | findResource depth name => do return .resource (← (loader.ancestor depth).findResource? name)
  | findResources depth name => do return .resources (← (loader.ancestor depth).findResources name)
  | resource depth name => do return .resource (← (loader.ancestor depth).resource? name)
  | resources depth name => do return .resources (← (loader.ancestor depth).resources name)
  | definePackage depth name manifest url =>
    (loader.ancestor depth).definePackage name manifest url
  | clearCache depth => do
    (loader.ancestor depth).clearCache
    return .cleared

/-- Answers a call. -/
def Call.answer (loader : Loader) : Call → Action Answer
  | ask request => request.answer loader
  | package depth name => do return .package (← (loader.ancestor depth).package? name)
  | packages depth => do return .packages (← (loader.ancestor depth).packages)

/-- Answers calls one after the other. -/
def answers (loader : Loader) : List Call → Action (List Answer)
  | [] => pure []
  | call :: calls => do
    let answer ← call.answer loader
    return answer :: (← answers loader calls)

/-- Two answers are the same, but for the numbers of archives, and for how paths are written if this
is allowed for. -/
inductive Answer.Alike (k : Closeness) (files : FileSystem) : Answer → Answer → Prop where
  | loaded {r r' : Except LoaderError Class} :
      ResultRel (k.Like LoaderError.Alike) (Class.Alike k files) r r' →
      Alike k files (.loaded r) (.loaded r')
  | resource {r r' : Option Resource} :
      Option.Rel (Resource.Alike k files) r r' → Alike k files (.resource r) (.resource r')
  | resources {l l' : List Resource} :
      List.Forall₂ (Resource.Alike k files) l l' → Alike k files (.resources l) (.resources l')
  | refl (answer : Answer) : Alike k files answer answer

/-- What alike answers have in common, sequences of alike answers have in common. -/
lemma Answer.map_eq_of_alike {k : Closeness} {files : FileSystem} {α : Type} {f : Answer → α}
    (hf : ∀ {a b : Answer}, a.Alike k files b → f a = f b) {l l' : List Answer}
    (h : List.Forall₂ (Answer.Alike k files) l l') : l.map f = l'.map f := by
  induction h with
  | nil => rfl
  | cons hfirst _ ih => rw [List.map_cons, List.map_cons, hf hfirst, ih]

variable {k : Closeness} {reach : Nat → Url → Prop} {start s t : Store} {loader padded : Loader}

/-- A package is defined on both sides, or refused on both. -/
lemma Padding.definePackage (hpad : loader.Padding reach start padded)
    (h : Store.Resembles k reach start s t) (name : String) (manifest : Option Manifest)
    (url : Url) :
    (loader.definePackage name manifest url).Matches k reach start (Answer.Alike k start.files)
      (padded.definePackage name manifest url) s t := by
  cases hpad with
  | @isolated id handler urls padded parent parent' _ _ =>
    have hdefine := Layer.matches_definePackage h id name manifest url
    refine ⟨hdefine.stores, ?_⟩
    have hresults : (Layer.definePackage id name manifest url s).1 =
        (Layer.definePackage id name manifest url t).1 := hdefine.results.eq
    show (Answer.defined (Layer.definePackage id name manifest url s).1).Alike k start.files
      (.defined (Layer.definePackage id name manifest url t).1)
    rw [hresults]
    exact .refl _
  | _ => exact Action.matches_pure h (.refl _)

/-- A loader has the same package on both sides. -/
lemma Padding.package? (hpad : loader.Padding reach start padded)
    (h : Store.Resembles k reach start s t) (name : String) :
    (loader.package? name).Matches k reach start Eq (padded.package? name) s t := by
  cases hpad with
  | @isolated id handler urls padded parent parent' _ _ => exact Layer.matches_package? h id name
  | _ => exact Action.matches_pure h rfl

/-- A loader has the same packages on both sides. -/
lemma Padding.packages (hpad : loader.Padding reach start padded)
    (h : Store.Resembles k reach start s t) :
    loader.packages.Matches k reach start Eq padded.packages s t := by
  cases hpad with
  | @isolated id handler urls padded parent parent' _ _ =>
    exact ⟨h, congrArg Table.values (h.packages id)⟩
  | _ => exact Action.matches_pure h rfl

/-- A call does the same on both sides. -/
lemma Padding.answer (hpad : loader.Padding reach start padded)
    (hreach : ∀ handler url, padded.reach handler url → reach handler url)
    (h : Store.Resembles k reach start s t) (call : Call) :
    (call.answer loader).Matches k reach start (Answer.Alike k start.files) (call.answer padded)
      s t := by
  have habove : ∀ depth handler url, (padded.ancestor depth).reach handler url →
      reach handler url := fun depth handler url hurl => hreach handler url (reach_of_ancestor hurl)
  have hreturn : ∀ {α : Type} {rel : α → α → Prop} {x y : Action α} {f : α → Answer},
      x.Matches k reach start rel y s t → (∀ a b, rel a b → (f a).Alike k start.files (f b)) →
      Action.Matches k reach start (Answer.Alike k start.files) (x >>= fun a => pure (f a))
        (y >>= fun b => pure (f b)) s t :=
    fun hxy hf => ⟨hxy.stores, hf _ _ hxy.results⟩
  cases call with
  | ask request =>
    cases request with
    | load depth name resolve =>
      have hload := (hpad.ancestor depth).load (habove depth) h name resolve
      have hrun : Action.Matches k reach start
          (ResultRel (k.Like LoaderError.Alike) (Class.Alike k start.files))
          ((loader.ancestor depth).load name resolve).run
          ((padded.ancestor depth).load name resolve).run s t := ⟨hload.stores, hload.results⟩
      exact hreturn hrun fun _ _ => .loaded
    | findResource depth name =>
      exact hreturn ((hpad.ancestor depth).findResource? (habove depth) h name)
        fun _ _ => .resource
    | findResources depth name =>
      exact hreturn ((hpad.ancestor depth).findResources (habove depth) h name)
        fun _ _ => .resources
    | resource depth name =>
      exact hreturn ((hpad.ancestor depth).resource? (habove depth) h name) fun _ _ => .resource
    | resources depth name =>
      exact hreturn ((hpad.ancestor depth).resources (habove depth) h name) fun _ _ => .resources
    | definePackage depth name manifest url =>
      exact (hpad.ancestor depth).definePackage h name manifest url
    | clearCache depth =>
      exact hreturn ((hpad.ancestor depth).clearCache (habove depth) h) fun _ _ _ => .refl _
  | package depth name =>
    exact hreturn ((hpad.ancestor depth).package? h name) fun _ _ heq => heq ▸ .refl _
  | packages depth =>
    exact hreturn ((hpad.ancestor depth).packages h) fun _ _ heq => heq ▸ .refl _

/-- A sequence of calls does the same on both sides. -/
lemma Padding.answers (hpad : loader.Padding reach start padded)
    (hreach : ∀ handler url, padded.reach handler url → reach handler url)
    (h : Store.Resembles k reach start s t) (calls : List Call) :
    (loader.answers calls).Matches k reach start (List.Forall₂ (Answer.Alike k start.files))
      (padded.answers calls) s t := by
  induction calls generalizing s t with
  | nil => exact Action.matches_pure h .nil
  | cons call calls ih =>
    refine (hpad.answer hreach h call).bind fun _ _ hanswer h => (ih h).bind fun _ _ hrest h => ?_
    exact Action.matches_pure h (.cons hanswer hrest)

end Loader

end AppLauncher
