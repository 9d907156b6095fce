import AppLauncher.Proofs.Loader.Running

/-!
# A class that is not found leaves no trace

A layer defines the package of a class before it knows whether anyone has the class.  Nevertheless
a search that ends without the class is a lookup and nothing else
(`Loader.Finds.looks_of_not_found`): an archive that is fit to define the package has the class,
and the handler holds it from then on, so that the search of the same layer for the class cannot
fail.
-/

namespace AppLauncher

open Archive (Body)

namespace Layer

/-- A layer that has prepared a package from an archive finds the class.  Between the two searches
the parent may be asked, as long as no archive is let go of. -/
lemma Prepares.looks_of_first?_none {layer : Layer} {name : String} {s t u : Store}
    (h : layer.Prepares name s t) (hs : s.Genuine)
    (hheld : ∀ key a, (t.held layer.handler).get? key = some a →
      (u.held layer.handler).get? key = some a)
    (hfiles : u.files = s.files)
    (hfirst : layer.firstFile? u name = none) :
    s.Looks layer.reach t := by
  cases h with
  | undotted | held => exact .refl s
  | unfit _ _ _ hlooks => exact hlooks
  | @fit packageName v url manifest a _ _ _ hurl hlooks ha hfit =>
    have hbody : v.bodies layer.handler url.key = some a.body := by
      unfold Store.bodies
      rw [ha]
      rfl
    have hgenuine : a.body.IsGenuine := hlooks.opens.genuine hs _ _ _ hbody
    have hstill : u.bodies layer.handler url.key = some a.body := by
      unfold Store.bodies
      rw [hheld url.key a ha]
      rfl
    have hfile := Body.file?_of_fit? hgenuine hfit
    rw [← hfiles] at hfile
    exact absurd hfirst (Handler.first?_ne_none_of_held hurl hstill hfile)

end Layer

namespace Loader

variable {loader : Loader} {s t : Store} {name other : String}

/-- A search that ends without the class is a lookup. -/
lemma Finds.looks_of_not_found (h : Finds name loader s (.error (.classNotFound other)) t)
    (hs : s.Genuine) : s.Looks loader.reach t := by
  generalize hr : (.error (.classNotFound other) : Except LoaderError Class) = r at h
  induction h generalizing other with
  | absent | unprovided => exact .refl _
  | provided | failing | known | inherited | defined => cases hr
  | failed _ _ _ hcause =>
    cases hr
    exact absurd rfl (hcause other)
  | @missing layer parent s t u v _ _ hp hf hfirst hlooks ih =>
    have hparent : t.Looks parent.reach u := ih (hp.opens.genuine hs) rfl
    have hprepared : s.Looks layer.reach t :=
      hp.looks_of_first?_none hs (fun _ _ h => hparent.opens.get?_of_get? h)
        (hparent.files.trans hp.still.files) hfirst
    exact (hprepared.of_layer.trans hparent.of_parent).trans hlooks.of_layer

/-- Failing to load a class is failing to find it. -/
lemma finds_of_load_not_found (hids : loader.ids.Nodup) (hs : s.Undisturbed) {resolve : Bool}
    (h : loader.load name resolve s = (.error (.classNotFound other), t)) :
    Finds name loader s (.error (.classNotFound other)) t := by
  obtain ⟨r, u, hfinds, hrun⟩ := load_spec hids hs name resolve
  cases r with
  | error cause =>
    dsimp only at hrun
    rw [hrun] at h
    cases h
    exact hfinds
  | ok c =>
    rcases hrun with hrun | ⟨x, v, hyields, hrun⟩
    · rw [hrun] at h
      cases h
    · rw [hrun] at h
      -- what cannot be read is there, so the failure is another one
      cases hyields <;> cases h

/-- A step gives no script to a handler. -/
def Step.IsGenuine : Step → Prop
  | register _ archive => archive.body.IsGenuine
  | _ => True

/-- Handlers that hold no scripts hold none after a step that gives them none. -/
lemma Step.genuine (step : Step) (hstep : step.IsGenuine) (hl : loader.Proper)
    (ho : s.Orderly loader) (hs : s.Genuine) : (step.perform loader s).2.Genuine := by
  cases step with
  | ask request => exact (request.serves hl ho.undisturbed).opens.genuine hs
  | changeFiles files => exact hs
  | register handler archive =>
    intro handler' key body hb
    unfold Store.bodies at hb
    dsimp only [perform] at hb
    rw [Handler.get?_register] at hb
    split at hb
    · cases hb
      exact hstep
    · exact hs handler' key body hb
  | read depth name =>
    rcases Step.read_spec depth name s with hrun | ⟨_, _, _, _, _, hyields⟩
    · rw [hrun]
      exact hs
    · exact (hyields.opens loader.reach).genuine hs

/-- Handlers that hold no scripts hold none after a run that gives them none. -/
lemma run_genuine {steps : List Step} (hsteps : ∀ step ∈ steps, step.IsGenuine)
    (hl : loader.Proper) (ho : s.Orderly loader) (hs : s.Genuine) :
    (loader.run steps s).Genuine := by
  induction steps generalizing s with
  | nil => exact hs
  | cons step steps ih =>
    refine ih (fun step' h => hsteps step' (.tail _ h)) (ho.evolves hl (step.evolves hl ho)) ?_
    exact step.genuine (hsteps step (.head _)) hl ho hs

/-- In every run on a chain over packaged and exploded archives: when a class is not found, what
loaders have defined and read is exactly as before, and so are the files.  The handlers hold what
they have held, and maybe more. -/
theorem no_trace_of_not_found (hl : loader.Proper) (hs : s.Fresh loader) (hg : s.Genuine)
    {steps : List Step} (hsteps : ∀ step ∈ steps, step.IsGenuine) {depth : Nat} {resolve : Bool}
    (h : (loader.ancestor depth).load name resolve (loader.run steps s) =
      (.error (.classNotFound other), t)) :
    t.loaders = (loader.run steps s).loaders ∧ t.contents = (loader.run steps s).contents ∧
      t.manifests = (loader.run steps s).manifests ∧ t.files = (loader.run steps s).files ∧
      ∀ handler key a, ((loader.run steps s).held handler).get? key = some a →
        (t.held handler).get? key = some a := by
  have ho := run_orderly steps hl hs.orderly
  have hfinds := finds_of_load_not_found (hl.ancestor depth).nodup_ids ho.undisturbed h
  have hlooks := hfinds.looks_of_not_found (run_genuine hsteps hl hs.orderly hg)
  exact ⟨hlooks.loaders, hlooks.contents, hlooks.manifests, hlooks.files,
    fun _ _ _ => hlooks.opens.get?_of_get?⟩

/-- The small chain does not have a class of a package that it has a class of. -/
theorem no_trace_of_not_found_sampleChain :
    ∃ t, sampleChain.load "p.B" true (sampleChain.run [.ask (.resources 0 "p/")] sampleStore) =
        (.error (.classNotFound "p.B"), t) ∧
      t.loaders = (sampleChain.run [.ask (.resources 0 "p/")] sampleStore).loaders := by
  have hmissing : (sampleChain.load "p.B" true
      (sampleChain.run [.ask (.resources 0 "p/")] sampleStore)).1 =
        .error (.classNotFound "p.B") := by
    decide +kernel
  have hload : (sampleChain.ancestor 0).load "p.B" true
      (sampleChain.run [.ask (.resources 0 "p/")] sampleStore) =
        (.error (.classNotFound "p.B"), _) := Prod.ext hmissing rfl
  refine ⟨_, hload, ?_⟩
  refine (no_trace_of_not_found proper_sampleChain (fresh_start _ _ _) ?_ ?_ hload).1
  · exact fun _ _ _ h => by cases h
  · exact fun step hstep => by
      cases List.mem_singleton.mp hstep
      exact trivial

end Loader

end AppLauncher
