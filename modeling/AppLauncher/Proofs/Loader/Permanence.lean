import AppLauncher.Proofs.Loader.Running

/-!
# Loaded classes and defined packages are permanent

Whatever a run does, a package that a layer has defined stays the package of its name, and a second
definition is refused.  A class that a loader has given is what the loader gives from then on, with
the content that has been read once.  Since a class found by a parent is not kept by its children,
this is not a matter of one table: it holds because the chain has settled on the class, and what a
chain has settled on stays (`Store.Evolves.settled?_of_some`).
-/

namespace AppLauncher

namespace Loader

variable {loader : Loader} {s t u : Store} {depth : Nat} {name : String} {c : Class}

/-! ### Loading -/

/-- A chain has settled on a class that it has loaded. -/
lemma settled?_of_load (hids : loader.ids.Nodup) (hs : s.Undisturbed) {resolve : Bool}
    (h : loader.load name resolve s = (.ok c, t)) : t.settled? name loader = some c := by
  obtain ⟨r, u, hfinds, hrun⟩ := load_spec hids hs name resolve
  cases r with
  | error cause =>
    dsimp only at hrun
    rw [hrun] at h
    cases h
  | ok d =>
    have hsettled := hfinds.settled?_of_ok hids
    rcases hrun with hrun | ⟨x, v, hyields, hrun⟩
    · rw [hrun] at h
      cases h
      exact hsettled
    · rw [hrun] at h
      cases x with
      | error cause => cases h
      | ok content =>
        cases h
        rw [Store.settled?_congr fun l _ => hyields.classOf l.id name, hsettled]

/-- A loader gives the class that it has settled on. -/
lemma load_of_settled? (hids : loader.ids.Nodup) (hs : s.Undisturbed)
    (h : s.settled? name loader = some c) : ∃ t, loader.load name false s = (.ok c, t) := by
  obtain ⟨r, t, hrun, hfinds⟩ := finds_find name hids hs
  rw [hfinds.eq_of_settled? h] at hrun
  exact ⟨t, (load_false name).symm ▸ hrun⟩

/-- Loading a class lets the definitions of the chain evolve. -/
lemma load_evolves (hl : loader.Proper) (hs : s.Orderly loader) {resolve : Bool}
    {r : Except LoaderError Class} (h : (loader.ancestor depth).load name resolve s = (r, t)) :
    s.Evolves loader t := by
  have hstep := (Step.ask (.load depth name resolve)).evolves hl hs
  have hrun : ((Step.ask (.load depth name resolve)).perform loader s).2 = t := by
    show ((((loader.ancestor depth).load name resolve).run >>= _) s).2 = t
    rw [Action.run_bind, Attempt.run_run, h]
    rfl
  rwa [hrun] at hstep

/-! ### Reading -/

/-- A class that has been read is kept with its content, or it is builtin and has none. -/
lemma contents_of_content {content : List UInt8} (h : c.content s = (.ok content, t)) :
    t.contents.get? c.key = some content ∨
      ∃ main, c.source = .builtin main ∧ s.contents.get? c.key = none ∧ content = [] := by
  obtain ⟨r, v, hrun, hyields⟩ := c.content_spec s
  rw [hrun] at h
  cases h
  cases hyields with
  | kept hkept => exact .inl hkept
  | builtin hnone hsource => exact .inr ⟨_, hsource, hnone, rfl⟩
  | read _ _ _ =>
    refine .inl ?_
    unfold Store.withContent
    rw [Table.get?_insert, if_pos rfl]

/-- A content that is kept is what reading gives. -/
lemma content_of_contents {content : List UInt8} (h : s.contents.get? c.key = some content) :
    c.content s = (.ok content, s) := by
  unfold Class.content
  rw [Attempt.run_bind_lift]
  dsimp only [Class.kept?]
  rw [h]
  rfl

/-- A builtin class has no content, as long as none is kept. -/
lemma content_of_builtin {main : Option EntryPoint} (h : s.contents.get? c.key = none)
    (hc : c.source = .builtin main) : c.content s = (.ok [], s) := by
  unfold Class.content
  rw [Attempt.run_bind_lift]
  dsimp only [Class.kept?]
  rw [h]
  dsimp only
  rw [hc]
  rfl

/-- Reading a class that the chain has loaded lets its definitions evolve. -/
lemma content_evolves (hl : loader.Proper) (hs : s.Orderly loader)
    (hc : s.settled? name (loader.ancestor depth) = some c) {r : Except LoaderError (List UInt8)}
    (h : c.content s = (r, t)) : s.Evolves loader t := by
  obtain ⟨r', t', hrun, hyields⟩ := c.content_spec s
  rw [hrun] at h
  cases h
  refine evolves_of_yields hyields ?_
  rcases hl.origin hs.sound hc with ⟨layer, hlayer, -, hdef, -⟩ | ⟨_, _, _, main, -, rfl⟩
  · exact .inl ⟨layer, hlayer, hdef⟩
  · exact .inr ⟨main, rfl⟩

/-- Reading a class again gives the same content. -/
lemma content_again (hl : loader.Proper) (hu : u.Orderly loader)
    (hc : s.settled? name (loader.ancestor depth) = some c) (hs : s.Orderly loader)
    {content : List UInt8} (h : c.content s = (.ok content, t)) (htu : t.Evolves loader u) :
    c.content u = (.ok content, u) := by
  rcases contents_of_content h with hkept | ⟨main, hsource, -, rfl⟩
  · exact content_of_contents (htu.contents_of_some hkept)
  · refine content_of_builtin ?_ hsource
    rcases hl.origin hs.sound hc with
      ⟨layer, -, -, -, ⟨url, a, harchived⟩, -⟩ | ⟨more, id, classes, _, hanc, rfl⟩
    · rw [hsource] at harchived
      cases harchived
    · exact hu.contents more id classes hanc name

/-! ### Permanence -/

/-- A run is a run after a run. -/
lemma run_append (before after : List Step) (s : Store) :
    loader.run (before ++ after) s = loader.run after (loader.run before s) :=
  List.foldl_append

/-- A class from an archive has the package that its definer holds. -/
lemma package_of_settled? (hl : loader.Proper) (hs : s.Orderly loader)
    (hc : s.settled? name (loader.ancestor depth) = some c) {url : Url} {a : Archive}
    {entry : String} (hsource : c.source = .archived url a entry) :
    c.name = name ∧ (∃ layer ∈ loader.layers, c.definer = layer.id) ∧ s.Attributed c := by
  rcases hl.origin hs.sound hc with
    ⟨layer, hlayer, hname, hdef, -, hattr⟩ | ⟨_, _, _, main, -, rfl⟩
  · exact ⟨hname, ⟨layer, hlayer, hdef⟩, hattr⟩
  · cases hsource

/-- In every run on a chain:

* a package that a layer has defined stays, and defining it again is refused without effect;
* a class that a loader has given is given again, and so is a content of it that has been read;
* a class from an archive has the package that its definer holds under the name before the last
  dot, and none when there is no dot. -/
theorem load_permanent (hl : loader.Proper) (hs : s.Fresh loader) (before : List Step) :
    (∀ layer ∈ loader.layers, ∀ name p,
      (Layer.package? layer.id name (loader.run before s)).1 = some p → ∀ after,
        (Layer.package? layer.id name (loader.run (before ++ after) s)).1 = some p ∧
        ∀ manifest url,
          Layer.definePackage layer.id name manifest url (loader.run (before ++ after) s) =
            (.error (.packageAlreadyDefined name), loader.run (before ++ after) s)) ∧
    (∀ depth name resolve c t,
      (loader.ancestor depth).load name resolve (loader.run before s) = (.ok c, t) →
        (∀ after, ∃ u, (loader.ancestor depth).load name false (loader.run after t) = (.ok c, u)) ∧
        (∀ middle content u, c.content (loader.run middle t) = (.ok content, u) →
          ∀ after, c.content (loader.run after u) = (.ok content, loader.run after u)) ∧
        (∀ url a entry, c.source = .archived url a entry →
          c.name = name ∧ (∃ layer ∈ loader.layers, c.definer = layer.id) ∧
          match Text.beforeLastDot? name with
          | some packageName => ∃ p, c.package = some p ∧
              ∀ after, (Layer.package? c.definer packageName (loader.run after t)).1 = some p
          | none => c.package = none)) := by
  have hu := run_orderly before hl hs.orderly
  refine ⟨fun layer _ name p hp after => ?_, fun depth name resolve c t hload => ?_⟩
  · have hstays := (run_evolves after hl hu).packageOf_of_some hp
    rw [run_append]
    exact ⟨hstays, Layer.definePackage_of_some hstays⟩
  · have ht := hu.evolves hl (load_evolves hl hu hload)
    have hids := (hl.ancestor depth).nodup_ids
    have hc := settled?_of_load hids hu.undisturbed hload
    have hstays : ∀ after, (loader.run after t).settled? name (loader.ancestor depth) = some c :=
      fun after => (run_evolves after hl ht).settled?_of_some hl.nodup_ids hc
    refine ⟨fun after => ?_, fun middle content u hcontent after => ?_,
      fun url a entry hsource => ?_⟩
    · exact load_of_settled? hids (run_orderly after hl ht).undisturbed (hstays after)
    · have hmiddle := run_orderly middle hl ht
      have hafter := hmiddle.evolves hl (content_evolves hl hmiddle (hstays middle) hcontent)
      exact content_again hl (run_orderly after hl hafter) (hstays middle) hmiddle hcontent
        (run_evolves after hl hafter)
    · obtain ⟨rfl, hdef, hattr⟩ := package_of_settled? hl ht hc hsource
      refine ⟨rfl, hdef, ?_⟩
      unfold Store.Attributed at hattr
      split
      · rename_i packageName hname
        rw [hname] at hattr
        obtain ⟨p, hp, hheld⟩ := hattr
        exact ⟨p, hp, fun after => (run_evolves after hl ht).packageOf_of_some hheld⟩
      · rename_i hname
        rw [hname] at hattr
        exact hattr

/-- The small chain gives its class again after the directory is gone and the caches are dropped. -/
theorem load_permanent_sampleChain :
    ∃ c t, sampleChain.load "p.A" true sampleStore = (.ok c, t) ∧ c.definer = 1 ∧
      ∃ u, sampleChain.load "p.A" false
        (sampleChain.run [.changeFiles .fresh, .ask (.clearCache 0)] t) = (.ok c, u) := by
  have hfound : (sampleChain.load "p.A" true sampleStore).1.toOption.map (·.definer) = some 1 := by
    decide +kernel
  rcases hrun : sampleChain.load "p.A" true sampleStore with ⟨cause | c, t⟩
  · rw [hrun] at hfound
    cases hfound
  · rw [hrun] at hfound
    refine ⟨c, t, rfl, Option.some.inj hfound, ?_⟩
    exact ((load_permanent proper_sampleChain (fresh_start _ _ _) []).2 0 "p.A" true c t hrun).1 _

end Loader

end AppLauncher
