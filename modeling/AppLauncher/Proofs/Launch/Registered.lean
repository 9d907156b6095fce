import AppLauncher.Proofs.Handler.Numbering
import AppLauncher.Proofs.Launch.InMemory
import AppLauncher.Proofs.Loader.Running

/-!
# Registered classes in a launch

The entry point that is registered for a name is that of the first definition of the name
(`Builtins.main?`).  A layer over the registry that has not defined a class yet finds the registered
class of the name, if there is one, and otherwise a class from an archive, which has no entry point;
so the class that it finds has the entry point that is registered for the name
(`Loader.load_over_registry`).

The loader of a launch is such a layer.  Opening the class path and making the loader keep what
loaders have defined (`Archive.quiet_nestedAll`, `Launcher.keeps_createLoader`), and the layer gets
a number under which nothing has been defined (`Launcher.createLoader_isNew`).
-/

namespace AppLauncher

/-- The entry point that is registered for a name: the first definition of the name counts. -/
def Builtins.main? (registered : Builtins) (name : String) : Option EntryPoint :=
  (registered.find? fun definition => definition.1 = name).bind Prod.snd

/-! ### Loading over the registry -/

namespace Loader

variable {registered : Builtins} {name : String} {s : Store}

/-- The registered class of a name has the registered entry point, and a name without a class has
none. -/
lemma bind_main?_builtinClasses (id : Nat) (registered : Builtins) (name : String) :
    ((builtinClasses id registered).get? name).bind Class.main? = registered.main? name := by
  rw [get?_builtinClasses]
  unfold Builtins.main?
  cases registered.find? fun definition => definition.1 = name <;> rfl

/-- What the registry finds has the registered entry point, and it finds all that has one. -/
lemma Finds.of_registry {r : Except LoaderError Class} {t : Store}
    (h : Finds name (.registry registered) s r t) :
    (∀ c, r = .ok c → c.main? = registered.main? name) ∧
      ∀ cause, r = .error cause → registered.main? name = none := by
  have hmain := bind_main?_builtinClasses registryId registered name
  cases h with
  | provided hclass =>
    rw [hclass] at hmain
    refine ⟨fun c hc => ?_, fun cause hcause => ?_⟩
    · cases hc
      exact hmain
    · cases hcause
  | unprovided hclass =>
    rw [hclass] at hmain
    refine ⟨fun c hc => ?_, fun cause _ => hmain.symm⟩
    cases hc

/-- The class that a layer over the registry loads has the entry point that is registered for the
name, and the class of a name with an entry point is loaded, if the layer has not defined a class of
that name before. -/
lemma load_over_registry (registered : Builtins) {layer : Layer} (hs : s.Undisturbed)
    (hnew : s.classOf layer.id name = none) :
    (∀ c, ((isolated layer (.registry registered)).load name false s).1 = .ok c →
      c.main? = registered.main? name) ∧
    ∀ cause, ((isolated layer (.registry registered)).load name false s).1 = .error cause →
      registered.main? name = none := by
  have hids : (isolated layer (.registry registered)).ids.Nodup := List.pairwise_singleton _ _
  obtain ⟨r, t, hrun, hfinds⟩ := finds_find name hids hs
  rw [load_false, hrun]
  cases hfinds with
  | known hclass => cases hnew.symm.trans hclass
  | inherited _ _ hparent => exact hparent.of_registry
  | failed _ _ hparent => exact hparent.of_registry
  | missing _ _ hparent =>
    refine ⟨fun c hc => ?_, fun cause _ => hparent.of_registry.2 _ rfl⟩
    cases hc
  | defined _ _ hparent _ htakes =>
    -- the registry does not have the class, and classes of archives have no entry point
    refine ⟨fun c hc => ?_, fun cause hcause => ?_⟩
    · cases hc
      rw [hparent.of_registry.2 _ rfl]
      cases htakes
      rfl
    · cases hcause

end Loader

/-! ### Opening the class path and making the loader -/

/-- Quiet attempts for each element of a list are quiet together. -/
lemma Attempt.quiet_mapM {ε α β : Type} {f : α → Attempt ε β}
    (hf : ∀ (a : α) (s : Store), s.Quiet (f a s).2) (l : List α) (s : Store) :
    s.Quiet (l.mapM f s).2 := by
  induction l generalizing s with
  | nil => exact .refl s
  | cons a l ih =>
    have hfirst := hf a s
    rw [List.mapM_cons, run_bind]
    rcases hrun : f a s with ⟨cause | b, t⟩
    · rw [hrun] at hfirst
      exact hfirst
    · rw [hrun] at hfirst
      have hrest := ih t
      dsimp only
      rw [run_bind]
      rcases hruns : l.mapM f t with ⟨cause | bs, u⟩
      · rw [hruns] at hrest
        exact hfirst.trans hrest
      · rw [hruns] at hrest
        exact hfirst.trans hrest

namespace Archive

/-- Opening what is nested in an exploded archive is quiet. -/
lemma quiet_openNesting (nesting : Exploded.Nesting) (s : Store) :
    s.Quiet (openNesting nesting s).2 := by
  cases nesting with
  | exploded root => exact Store.quiet_freshId s
  | artifact path =>
    obtain ⟨r, t, hrun, -, hquiet⟩ := open?_spec path s
    show s.Quiet (open? path s).2
    rw [hrun]
    exact hquiet

/-- Opening the archives nested in an archive is quiet. -/
lemma quiet_nestedAll (archive : Archive) (filter : Entry → Bool) (s : Store) :
    s.Quiet (archive.nestedAll filter s).2 := by
  cases archive with
  | packaged id stream =>
    obtain ⟨t, hrun, hquiet⟩ := indexOf_spec id stream s
    unfold nestedAll
    dsimp only
    rw [Attempt.run_bind, hrun]
    cases stream.index with
    | error cause => exact hquiet
    | ok index =>
      exact hquiet.trans (Attempt.quiet_mapM (fun item u => Store.quiet_freshId u) _ t)
  | exploded id root =>
    unfold nestedAll
    dsimp only
    rw [Attempt.run_bind_files, Attempt.run_bind, Attempt.run_liftExcept]
    cases Exploded.entries s.files root with
    | error cause => exact .refl s
    | ok entries => exact Attempt.quiet_mapM quiet_openNesting _ s
  | scripted id script => exact .refl s

/-- Opening the archives nested in an archive leaves loaders still to be made without classes. -/
lemma unclaimed_nestedAll {archive : Archive} {filter : Entry → Bool} {s t : Store}
    {r : Except ArchiveError (List Archive)} (hs : s.Unclaimed)
    (h : archive.nestedAll filter s = (r, t)) : t.Unclaimed := by
  have hquiet := archive.quiet_nestedAll filter s
  have hnext := (archive.obeys_nestedAll Store.next_law.toAskingLaw filter).of_run h
  rw [h] at hquiet
  exact hs.of_keeps hquiet.toKeeps hnext

end Archive

/-- Registering archives keeps what loaders have defined. -/
lemma Handler.keeps_forM_register (handler : Nat) (archives : List Archive) (s : Store) :
    s.Keeps (archives.forM (register handler) s).2 := by
  induction archives generalizing s with
  | nil => exact .refl s
  | cons archive archives ih =>
    have hfirst : s.Keeps (register handler archive s).2 := ⟨⟨rfl, rfl, rfl, rfl⟩, rfl⟩
    exact hfirst.trans (ih _)

namespace Launcher

variable {parent loader : Loader} {archives : List Archive} {s t : Store}

/-- Before a new loader gets its number, loaders still to be made have no classes. -/
lemma unclaimed_of_registered (hs : s.Unclaimed) (archives : List Archive) :
    s.next ≤ (archives.forM (Handler.register s.next) (Action.freshId s).2).2.next ∧
      (archives.forM (Handler.register s.next) (Action.freshId s).2).2.Unclaimed := by
  have hnext := Action.obeys_forM Store.next_law.toAskingLaw
    (Handler.obeys_register Store.next_law.toOpeningLaw s.next) archives (Action.freshId s).2
  have hkeeps := (Store.quiet_freshId s).toKeeps.trans
    (Handler.keeps_forM_register s.next archives (Action.freshId s).2)
  have hall := Nat.le_trans (Nat.le_succ s.next) hnext
  exact ⟨hall, hs.of_keeps hkeeps hall⟩

/-- Making a loader keeps what loaders have defined. -/
lemma keeps_createLoader (h : createLoader parent archives s = (loader, t)) : s.Keeps t := by
  cases h
  have hheld := Handler.keeps_forM_register s.next archives (Action.freshId s).2
  exact ((Store.quiet_freshId s).toKeeps.trans hheld).trans ⟨⟨rfl, rfl, rfl, rfl⟩, rfl⟩

/-- A new loader is a layer over its parent, which has defined no class. -/
lemma createLoader_isNew (hs : s.Unclaimed) (h : createLoader parent archives s = (loader, t)) :
    ∃ layer, loader = .isolated layer parent ∧ ∀ name, t.classOf layer.id name = none := by
  have hfree := (unclaimed_of_registered hs archives).2
  cases h
  exact ⟨_, rfl, fun name => hfree _ name (Nat.le_refl _)⟩

end Launcher

end AppLauncher
