import AppLauncher.Proofs.Loader.Simulation

/-!
# Dropping the caches of a layer

To drop its caches a layer connects to each of its urls and drops the index of the archive found
there (`Layer.clearAt`).  Indexes are not part of what stores have in common when they resemble each
other, but a url that has not been opened before is held from then on.  If no url is broken in one
spelling and not in another one, this is idle, so that caches can be dropped on one side of two
(`Loader.idles_clearCache`); dropped on both sides they leave stores that resemble each other in any
case (`Loader.Padding.clearCache`).
-/

namespace AppLauncher

open Archive (Body)

variable {k : Closeness} {reach : Nat → Url → Prop} {start s t : Store}

/-- Drops the index of an archive that can have one. -/
def Archive.forget (a : Archive) : Action Unit := if a.isPackaged then a.clearCache else pure ()

/-- Dropping the index of an archive is quiet, and numbers go on. -/
lemma Archive.quiet_forget (a : Archive) (s : Store) :
    s.Quiet (a.forget s).2 ∧ s.next ≤ (a.forget s).2.next := by
  unfold forget
  split
  · exact ⟨Loader.quiet_clearCache a s, a.obeys_clearCache Store.next_law.toAskingLaw s⟩
  · exact ⟨.refl s, Nat.le_refl _⟩

/-- Dropping the index of an archive is idle. -/
lemma Archive.idles_forget (a : Archive) (h : start.Derives reach s) :
    Store.Idles k reach start s (a.forget s).2 :=
  .of_quiet h (a.quiet_forget s).1 (a.quiet_forget s).2

namespace Layer

variable {layer layer' : Layer} {url : Url}

/-- What is logged when a url is passed over while caches are dropped. -/
def clearingNote : String := passedOver ++ " while clearing cache"

/-- Drops the index of the archive at one url. -/
def clearAt (layer : Layer) (url : Url) : Action Unit := do
  match ← layer.connect? clearingNote url with
  | some connection => connection.archive.forget
  | none => pure ()

/-- Dropping the caches of a layer is dropping the index at each url. -/
lemma clearCache_eq (layer : Layer) : layer.clearCache = layer.urls.forM layer.clearAt := rfl

/-- Dropping the index at a url of which nothing can be used is idle. -/
lemma clearAt_of_not_usable (layer : Layer) (hurl : reach layer.handler url)
    (h : start.Derives reach s) (hnone : s.usable? layer.handler url = none) :
    Store.Idles k reach start s (layer.clearAt url s).2 := by
  obtain ⟨c?, t, hrun, hidles, -⟩ := layer.connect?_of_not_usable (k := k) _ hurl h hnone
  unfold clearAt
  rw [Action.run_bind, hrun]
  cases c? with
  | none => exact hidles
  | some c => exact hidles.trans (c.archive.idles_forget hidles.derives)

/-- Dropping the index at a url is idle, if the url leads to the same thing as the others that count
as one with it. -/
lemma clearAt_of_agree (layer : Layer) (hurl : reach layer.handler url)
    (h : start.Derives reach s) (hagree : ∀ v, reach layer.handler v → url.Agree start.files v) :
    Store.Idles .respelled reach start s (layer.clearAt url s).2 := by
  have hconnect := layer.connect?_derives clearingNote hurl h
  have hnext := layer.obeys_connect? Store.next_law.toOpeningLaw clearingNote url s
  unfold clearAt
  rw [Action.run_bind]
  split at hconnect
  · rename_i body hopens
    obtain ⟨a, t, hrun, rfl, ho, ht⟩ := hconnect
    rw [hrun]
    have hidles : Store.Idles .respelled reach start s t := by
      refine .of_opened ht ho (fun v hv => ?_) fun hk => by cases hk
      unfold Store.usable?
      rw [h.files] at hopens ⊢
      refine optionRel_mono (fun _ _ halike => ⟨halike, fun hk => by cases hk⟩) ?_
      exact Handler.usable?_rel (Handler.alike_opens?_holding hopens (hagree v hv))
    exact hidles.trans (a.idles_forget ht)
  · obtain ⟨t, hrun, hq, ht⟩ := hconnect
    rw [hrun] at hnext ⊢
    exact .of_quiet h hq hnext

/-- Dropping the index at a url of the chain does the same on both sides. -/
lemma matches_clearAt (hhandler : layer'.handler = layer.handler) (hurl : reach layer.handler url)
    (h : Store.Resembles k reach start s t) :
    (layer.clearAt url).Matches k reach start Eq (layer'.clearAt url) s t := by
  have hurl' : reach layer'.handler url := hhandler ▸ hurl
  refine ⟨?_, rfl⟩
  rcases h.usable_cases hurl with ⟨hs, ht⟩ | ⟨body, body', hs, ht, hab⟩
  · exact h.idle (layer.clearAt_of_not_usable hurl h.left hs)
      (layer'.clearAt_of_not_usable hurl' h.right (hhandler ▸ ht))
  · obtain ⟨a, v, hrun, rfl, ho, hv⟩ :=
      layer.connect?_of_usable clearingNote hurl h.left hs
    obtain ⟨b, w, hrun', rfl, ho', hw⟩ :=
      layer'.connect?_of_usable clearingNote hurl' h.right (hhandler ▸ ht)
    rw [hhandler] at ho'
    unfold clearAt
    rw [Action.run_bind, Action.run_bind, hrun, hrun']
    exact (h.opened hs ht hab ho ho' hv hw).idle (a.idles_forget hv) (b.idles_forget hw)

/-- Dropping the indexes at urls does the same on both sides, whatever broken urls there are. -/
lemma matches_clearUrls (layer layer' : Layer) {urls padded : List Url}
    (hhandler : layer'.handler = layer.handler)
    (hpad : start.Padding reach layer.handler urls padded)
    (hurls : ∀ url ∈ padded, reach layer.handler url)
    (h : Store.Resembles k reach start s t) :
    Action.Matches k reach start Eq (urls.forM layer.clearAt) (padded.forM layer'.clearAt) s t := by
  induction hpad generalizing s t with
  | nil => exact Action.matches_pure h rfl
  | @keep url urls padded _ ih =>
    have hfirst := matches_clearAt hhandler (hurls url (.head _)) h
    exact hfirst.bind fun _ _ _ h => ih (fun v hv => hurls v (.tail _ hv)) h
  | @insert url urls padded hbroken _ ih =>
    have hurl : reach layer'.handler url := hhandler ▸ hurls url (.head _)
    have hidles := layer'.clearAt_of_not_usable (k := k) hurl h.right
      (hhandler ▸ hbroken.not_usable h.right)
    obtain ⟨hstores, hresults⟩ := ih (fun v hv => hurls v (.tail _ hv)) (h.idle_right hidles)
    exact ⟨hstores, hresults⟩

end Layer

namespace Loader

variable {loader padded : Loader}

/-- Dropping the caches of a loader does the same on both sides. -/
lemma Padding.clearCache (hpad : loader.Padding reach start padded)
    (hreach : ∀ handler url, padded.reach handler url → reach handler url)
    (h : Store.Resembles k reach start s t) :
    loader.clearCache.Matches k reach start Eq padded.clearCache s t := by
  cases hpad with
  | @isolated id handler urls padded parent parent' hpad _ =>
    exact Layer.matches_clearUrls ⟨id, urls, handler⟩ ⟨id, padded, handler⟩
      rfl hpad (reach_layer hreach) h
  | _ => exact Action.matches_pure h rfl

/-- Computations for the urls of a list are idle if each is. -/
lemma idles_forM {f : Url → Action Unit} {urls : List Url}
    (hf : ∀ url ∈ urls, ∀ {s}, start.Derives reach s → Store.Idles k reach start s (f url s).2)
    (h : start.Derives reach s) : Store.Idles k reach start s (urls.forM f s).2 := by
  induction urls generalizing s with
  | nil => exact .refl h
  | cons url urls ih =>
    have hfirst := hf url (.head _) h
    exact hfirst.trans (ih (fun v hv => hf v (.tail _ hv)) hfirst.derives)

/-- Dropping the caches of a loader is idle, if urls of the chain that count as one lead to the same
thing. -/
lemma idles_clearCache {chain : Loader} (hu : chain.Unambiguous start.files)
    (hreach : ∀ handler url, loader.reach handler url → chain.reach handler url)
    (h : start.Derives chain.reach s) :
    Store.Idles .respelled chain.reach start s (loader.clearCache s).2 := by
  cases loader with
  | isolated layer parent =>
    refine idles_forM (f := layer.clearAt) (fun url hurl {s} h => ?_) h
    have hchain : chain.reach layer.handler url := reach_layer hreach url hurl
    exact layer.clearAt_of_agree hchain h fun v hv => hu layer.handler url v hchain hv
  | _ => exact .refl h

end Loader

end AppLauncher
