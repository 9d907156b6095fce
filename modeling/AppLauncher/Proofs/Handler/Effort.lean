import AppLauncher.Proofs.Handler.Opening

/-!
# What more effort gains

A quick connection is content with what the handler holds and what can be reached from there; a
thorough one looks on disk once more before it fails.  So the two agree where the quick one
succeeds, and where it fails the thorough one has the last word from the disk (`efforts_agree`).

A connection that fails leaves no trace either.  The outcome of a request is a function of the files
and of the bodies that are held, and a failure changes neither, so the outcomes of all later
requests are what they would have been without it (`run_sameBodies`).  Requests of all kinds
are made one after the other by `run`.
-/

namespace AppLauncher

open Archive (Body)

namespace Handler

/-! ### Requests -/

/-- Something that happens while handlers are in use. -/
inductive Request where
  | register (handler : Nat) (archive : Archive)
  | connect (handler : Nat) (effort : Effort) (url : Url)
  | changeFiles (files : FileSystem)

/-- Carries out a request.  A connection is the only one with an answer. -/
def Request.perform : Request → Action (Option (Except ConnectionError Connection))
  | register handler archive => do
    Handler.register handler archive
    return none
  | connect handler effort url => return some (← (Handler.connect handler effort url).run)
  | changeFiles files => do
    modify fun s => { s with files := files }
    return none

/-- Carries out requests one after the other and gives their answers. -/
def run : List Request → Action (List (Option (Except ConnectionError Connection)))
  | [] => return []
  | request :: requests => do
    let answer ← request.perform
    return answer :: (← run requests)

/-- What an answer says about the archive that it gives, the number of the archive left out. -/
def shown (answer : Option (Except ConnectionError Connection)) :
    Option (Except ConnectionError (Url × Body)) :=
  answer.map fun result => result.map fun c => (c.url, c.archive.body)

end Handler

/-! ### Requests on stores that hold the same bodies -/

/-- Two stores with the same files, whose handlers hold the same bodies. -/
structure Store.SameBodies (s t : Store) : Prop where
  files : t.files = s.files
  bodies : ∀ handler key, t.bodies handler key = s.bodies handler key

/-- A quiet computation leaves the files and the bodies that are held as they are. -/
lemma Store.Quiet.sameBodies {s t : Store} (h : s.Quiet t) : s.SameBodies t :=
  ⟨h.files, fun handler _ => congrFun (h.bodies handler) _⟩

namespace Handler

variable {s t : Store}

/-- Connections to a url from stores that hold the same bodies have the same outcome and leave such
stores behind. -/
lemma connect_sameBodies (h : s.SameBodies t) (handler : Nat) (effort : Effort) (url : Url) :
    ∃ r s' r' t', connect handler effort url s = (r, s') ∧ connect handler effort url t = (r', t') ∧
      shown (some r') = shown (some r) ∧ s'.SameBodies t' := by
  have hs := connect_spec handler effort url s
  have ht := connect_spec handler effort url t
  have hheld : t.bodies handler = s.bodies handler := funext (h.bodies handler)
  rw [h.files, hheld] at ht
  cases houtcome : outcome s.files (s.bodies handler) effort url with
  | ok body =>
    rw [houtcome] at hs ht
    obtain ⟨a, s', hs', ha, hopened⟩ := hs
    obtain ⟨b, t', ht', hb, hopened'⟩ := ht
    refine ⟨_, s', _, t', hs', ht', ?_, ?_, fun handler' key => ?_⟩
    · show some (Except.ok (url, b.body)) = some (Except.ok (url, a.body))
      rw [ha, hb]
    · rw [hopened.files, hopened'.files, h.files]
    · rw [hopened.bodies, hopened'.bodies, h.bodies, ha, hb]
  | error cause =>
    rw [houtcome] at hs ht
    obtain ⟨s', hs', hq⟩ := hs
    obtain ⟨t', ht', hq'⟩ := ht
    refine ⟨_, s', _, t', hs', ht', rfl, ?_, fun handler' key => ?_⟩
    · rw [hq.files, hq'.files, h.files]
    · rw [hq.bodies, hq'.bodies, h.bodies]

/-- The bodies that handlers hold once an archive has been given to one of them. -/
lemma bodies_register (handler : Nat) (archive : Archive) (handler' : Nat) (key : Url.Key) :
    (Handler.register handler archive s).2.bodies handler' key =
      if handler = handler' ∧ archive.url.key = key then some archive.body
      else s.bodies handler' key := by
  unfold Store.bodies
  rw [get?_register]
  split <;> rfl

/-- A request has the same outcome in stores that hold the same bodies, and leaves such stores
behind. -/
lemma perform_sameBodies (h : s.SameBodies t) (request : Request) :
    shown (request.perform t).1 = shown (request.perform s).1 ∧
      (request.perform s).2.SameBodies (request.perform t).2 := by
  cases request with
  | register handler archive =>
    refine ⟨rfl, h.files, fun handler' key => ?_⟩
    show (Handler.register handler archive t).2.bodies handler' key =
      (Handler.register handler archive s).2.bodies handler' key
    rw [bodies_register, bodies_register, h.bodies]
  | connect handler effort url =>
    obtain ⟨r, s', r', t', hs', ht', hshown, hsame⟩ := connect_sameBodies h handler effort url
    have hs : (Request.connect handler effort url).perform s = (some r, s') :=
      congrArg (fun x : Except _ _ × Store => (some x.1, x.2)) hs'
    have ht : (Request.connect handler effort url).perform t = (some r', t') :=
      congrArg (fun x : Except _ _ × Store => (some x.1, x.2)) ht'
    rw [hs, ht]
    exact ⟨hshown, hsame⟩
  | changeFiles files => exact ⟨rfl, rfl, h.bodies⟩

/-- The answers to requests, one after the other, are those of each. -/
lemma run_cons (request : Request) (requests : List Request) (s : Store) :
    run (request :: requests) s =
      ((request.perform s).1 :: (run requests (request.perform s).2).1,
        (run requests (request.perform s).2).2) := rfl

/-- Requests have the same outcomes in stores that hold the same bodies. -/
lemma run_sameBodies (h : s.SameBodies t) (requests : List Request) :
    (run requests t).1.map shown = (run requests s).1.map shown := by
  induction requests generalizing s t with
  | nil => rfl
  | cons request requests ih =>
    obtain ⟨hshown, hsame⟩ := perform_sameBodies h request
    rw [run_cons, run_cons, List.map_cons, List.map_cons, hshown, ih hsame]

/-! ### The two efforts -/

section

variable {files : FileSystem} {held : Url.Key → Option Body} {url : Url}

/-- A quick connection fails exactly if nothing is held under the url and it resolves to nothing. -/
lemma outcome_quick_eq_error_iff {e : ConnectionError} :
    outcome files held .quick url = .error e ↔
      e = .notFound url ∧ held url.key = none ∧
        ∃ cause, resolution files held true url = .error cause := by
  cases hheld : held url.key with
  | some body => simp [outcome_of_held hheld]
  | none =>
    cases hresolution : resolution files held true url with
    | ok body => simp [outcome_of_ok hheld hresolution]
    | error cause => simp [outcome_of_error hheld hresolution, eq_comm]

/-- A thorough connection fails exactly if a quick one does and the disk has nothing either; it
reports what the disk says. -/
lemma outcome_thorough_eq_error_iff {e : ConnectionError} :
    outcome files held .thorough url = .error e ↔
      held url.key = none ∧ (∃ cause, resolution files held true url = .error cause) ∧
        fromDisk files url = .error e := by
  cases hheld : held url.key with
  | some body => simp [outcome_of_held hheld]
  | none =>
    cases hresolution : resolution files held true url with
    | ok body => simp [outcome_of_ok hheld hresolution]
    | error cause => simp [outcome_of_error hheld hresolution]

/-- What a handler finds that holds nothing is on disk. -/
lemma fromDisk_of_outcome (hempty : ∀ key, held key = none) {effort : Effort} {body : Body}
    (h : outcome files held effort url = .ok body) : fromDisk files url = .ok body := by
  cases hresolution : resolution files held true url with
  | error cause =>
    rw [outcome_of_error (hempty _) hresolution] at h
    cases effort with
    | quick => cases h
    | thorough => exact h
  | ok b =>
    rw [outcome_of_ok (hempty _) hresolution] at h
    cases h
    cases url with
    | directory path =>
      dsimp only [fromDisk, resolution] at hresolution ⊢
      split at hresolution
      · rename_i hdir
        cases hresolution
        exact if_pos hdir
      · cases hresolution
    | packaged root nested =>
      dsimp only [fromDisk, resolution, artifactBody] at hresolution ⊢
      rw [hempty] at hresolution
      dsimp only at hresolution
      cases hread : (Body.open? files root).bind fun body => body.descend files nested with
      | error cause =>
        rw [hread] at hresolution
        cases hresolution
      | ok b =>
        rw [hread] at hresolution
        cases hresolution
        rfl

end

/-- A connection fails exactly if its outcome is a failure. -/
lemma connect_eq_error_iff {handler : Nat} {effort : Effort} {url : Url} {e : ConnectionError} :
    (connect handler effort url s).1 = .error e ↔
      outcome s.files (s.bodies handler) effort url = .error e := by
  have hspec := connect_spec handler effort url s
  cases houtcome : outcome s.files (s.bodies handler) effort url with
  | ok body =>
    rw [houtcome] at hspec
    obtain ⟨a, t, ht, -⟩ := hspec
    simp [ht]
  | error cause =>
    rw [houtcome] at hspec
    obtain ⟨t, ht, -⟩ := hspec
    rw [ht, Except.error.injEq, Except.error.injEq]

/-- A connection succeeds exactly if its outcome is a body. -/
lemma exists_connect_eq_ok_iff {handler : Nat} {effort : Effort} {url : Url} :
    (∃ c, (connect handler effort url s).1 = .ok c) ↔
      ∃ body, outcome s.files (s.bodies handler) effort url = .ok body := by
  have hspec := connect_spec handler effort url s
  cases houtcome : outcome s.files (s.bodies handler) effort url with
  | ok body =>
    rw [houtcome] at hspec
    obtain ⟨a, t, ht, -⟩ := hspec
    simp [ht]
  | error cause =>
    rw [houtcome] at hspec
    obtain ⟨t, ht, -⟩ := hspec
    simp [ht]

/-- Nothing is held under a url exactly if no body is. -/
lemma bodies_eq_none_iff {handler : Nat} {key : Url.Key} :
    s.bodies handler key = none ↔ (s.held handler).get? key = none :=
  Option.map_eq_none_iff

/-- It is only after a failure that the effort counts: a quick connection that succeeds is the
thorough one. -/
lemma connect_thorough_of_quick {handler : Nat} {url : Url} {c : Connection}
    (h : connect handler .quick url s = (.ok c, t)) :
    connect handler .thorough url s = (.ok c, t) := by
  cases hheld : (s.held handler).get? url.key with
  | some a => rwa [connect_of_held hheld] at h ⊢
  | none =>
    unfold connect at h ⊢
    rw [Attempt.run_bind_lift] at h ⊢
    dsimp only [held?] at h ⊢
    rw [hheld] at h ⊢
    dsimp only at h ⊢
    rw [Attempt.run_bind, Attempt.run_result] at h ⊢
    rcases hresolve : resolve handler true url s with ⟨cause | a, u⟩
    · -- a quick connection does not survive this
      rw [hresolve] at h
      cases h
    · rw [hresolve] at h
      exact h

/-- A thorough connection finds whatever a handler would find that holds nothing. -/
lemma exists_connect_thorough {handler : Nat} {url : Url} (hfiles : t.files = s.files)
    {handler' : Nat} (hempty : ∀ key, (t.held handler').get? key = none) {effort : Effort}
    {c : Connection} (h : (connect handler' effort url t).1 = .ok c) :
    ∃ c, (connect handler .thorough url s).1 = .ok c := by
  obtain ⟨body, hbody⟩ := exists_connect_eq_ok_iff.mp ⟨c, h⟩
  have hdisk := fromDisk_of_outcome (fun key => bodies_eq_none_iff.mpr (hempty key)) hbody
  rw [hfiles] at hdisk
  cases hthorough : (connect handler .thorough url s).1 with
  | ok c => exact ⟨c, rfl⟩
  | error e =>
    have houtcome := outcome_thorough_eq_error_iff.mp (connect_eq_error_iff.mp hthorough)
    rw [hdisk] at houtcome
    cases houtcome.2.2

/-- A connection that fails is quiet. -/
lemma quiet_of_connect_error {handler : Nat} {effort : Effort} {url : Url} {e : ConnectionError}
    (h : connect handler effort url s = (.error e, t)) : s.Quiet t := by
  have houtcome := connect_eq_error_iff.mp (congrArg Prod.fst h)
  have hspec := connect_spec handler effort url s
  rw [houtcome] at hspec
  obtain ⟨u, hu, hq⟩ := hspec
  rw [h] at hu
  cases hu
  exact hq

/-- Both efforts give the same where the quick one succeeds.  The quick one fails where nothing is
held under the url and what it resolves to with the held archives is nothing, and it does not say
why; the thorough one fails if there is nothing on disk either, for the reason found there, so that
it opens all that a handler holding nothing could open.  After a failure of either the handlers hold
what they held before, and every later request goes as it would have gone without it. -/
theorem efforts_agree (s : Store) (handler : Nat) (url : Url) :
    (∀ c t, connect handler .quick url s = (.ok c, t) →
      connect handler .thorough url s = (.ok c, t)) ∧
    (∀ e, (connect handler .quick url s).1 = .error e ↔
      e = .notFound url ∧ (s.held handler).get? url.key = none ∧
        ∃ cause, resolution s.files (s.bodies handler) true url = .error cause) ∧
    (∀ e, (connect handler .thorough url s).1 = .error e ↔
      (s.held handler).get? url.key = none ∧
        (∃ cause, resolution s.files (s.bodies handler) true url = .error cause) ∧
        fromDisk s.files url = .error e) ∧
    (∀ (t : Store) (handler' : Nat) (effort : Effort) (c : Connection), t.files = s.files →
      (∀ key, (t.held handler').get? key = none) → (connect handler' effort url t).1 = .ok c →
      ∃ c, (connect handler .thorough url s).1 = .ok c) ∧
    ∀ effort e t, connect handler effort url s = (.error e, t) →
      (∀ handler', t.held handler' = s.held handler') ∧
        ∀ requests, (run requests t).1.map shown = (run requests s).1.map shown := by
  refine ⟨fun c t => connect_thorough_of_quick, fun e => ?_, fun e => ?_, ?_, ?_⟩
  · rw [connect_eq_error_iff, outcome_quick_eq_error_iff, bodies_eq_none_iff]
  · rw [connect_eq_error_iff, outcome_thorough_eq_error_iff, bodies_eq_none_iff]
  · intro t handler' effort c hfiles hempty h
    exact exists_connect_thorough hfiles hempty h
  · intro effort e t h
    have hq := quiet_of_connect_error h
    exact ⟨hq.held, run_sameBodies hq.sameBodies⟩

/-- A handler that holds an artifact which is no longer on disk: a quick connection into it does not
say why it fails, a thorough one does. -/
theorem efforts_agree_stale :
    let url := Url.packaged ⟨"p.jar"⟩ ["x"]
    let s := (register 0 (.packaged 0 ⟨.artifact ⟨"p.jar"⟩, [], none⟩) (.start default 1)).2
    (connect 0 .quick url s).1 = .error (.notFound url) ∧
      (connect 0 .thorough url s).1 = .error (.archive url (.io ⟨"p.jar"⟩ .notFound)) := by
  intro url s
  have hheld : (s.held 0).get? url.key = none := by decide +kernel
  have hresolution : resolution s.files (s.bodies 0) true url =
      .error (some (.missingEntry (.artifact ⟨"p.jar"⟩) "x")) := by decide +kernel
  have hdisk : fromDisk s.files url = .error (.archive url (.io ⟨"p.jar"⟩ .notFound)) := by
    decide +kernel
  obtain ⟨-, hquick, hthorough, -⟩ := efforts_agree s 0 url
  exact ⟨(hquick _).mpr ⟨rfl, hheld, _, hresolution⟩,
    (hthorough _).mpr ⟨hheld, ⟨_, hresolution⟩, hdisk⟩⟩

end Handler

end AppLauncher
