import AppLauncher.Loader.Handler
import AppLauncher.Proofs.Archive.Body

/-!
# What opening a url gives

A handler opens a url through the archives that it holds, or else from the files.  `outcome` says
which body it finds there, or why it finds none, as a function of the files and of the bodies held.
The spec of a connection, `connect_spec`, says that the connection has this body and that the store
holds the archive afterwards (`Store.Opened`); a connection that fails leaves the handlers alone.
For a quick connection `opens?` says the same without the reason (`connect_quick_spec`).
-/

namespace AppLauncher

open Archive (Body)

/-! ### What handlers hold -/

namespace Store

/-- What a handler holds, the numbers of archives left out. -/
def bodies (s : Store) (handler : Nat) (key : Url.Key) : Option Body :=
  ((s.held handler).get? key).map Archive.body

/-- An archive has been opened: the handler holds it under its url, unless it held one there
before, which then is the archive. -/
structure Opened (handler : Nat) (url : Url) (a : Archive) (s t : Store) : Prop
    extends Keeps s t where
  manifests : t.manifests = s.manifests
  held : ∀ h key, (t.held h).get? key =
    if h = handler ∧ key = url.key then some a else (s.held h).get? key
  first : ∀ b, (s.held handler).get? url.key = some b → b = a

/-- What a handler holds does not change while archives are read. -/
lemma Reads.held {s t : Store} (h : s.Reads t) (handler : Nat) :
    t.held handler = s.held handler := by
  unfold Store.held
  rw [h.handlers]

/-- The bodies that a handler holds do not change while archives are read. -/
lemma Reads.bodies {s t : Store} (h : s.Reads t) (handler : Nat) :
    t.bodies handler = s.bodies handler := by
  unfold Store.bodies
  rw [h.held]

/-- An archive is held once it has been opened. -/
lemma Opened.get?_self {handler : Nat} {url : Url} {a : Archive} {s t : Store}
    (h : Opened handler url a s t) : (t.held handler).get? url.key = some a := by
  rw [h.held, if_pos ⟨rfl, rfl⟩]

/-- What was held before an archive was opened is held afterwards. -/
lemma Opened.get?_of_get? {handler : Nat} {url : Url} {a b : Archive} {s t : Store}
    (h : Opened handler url a s t) {h' : Nat} {key : Url.Key}
    (hb : (s.held h').get? key = some b) : (t.held h').get? key = some b := by
  rw [h.held]
  split
  · rename_i heq
    obtain ⟨rfl, rfl⟩ := heq
    rw [h.first b hb]
  · exact hb

/-- The bodies held after an archive has been opened. -/
lemma Opened.bodies {handler : Nat} {url : Url} {a : Archive} {s t : Store}
    (h : Opened handler url a s t) (h' : Nat) (key : Url.Key) :
    t.bodies h' key =
      if h' = handler ∧ key = url.key then some a.body else s.bodies h' key := by
  unfold Store.bodies
  rw [h.held]
  split <;> rfl

/-- An archive that is held under a url is open already. -/
lemma opened_of_held {handler : Nat} {url : Url} {a : Archive} {s : Store}
    (hheld : (s.held handler).get? url.key = some a) : s.Opened handler url a s := by
  refine ⟨.refl s, rfl, ?_, ?_⟩
  · intro h key
    split
    · rename_i heq
      rw [heq.1, heq.2, hheld]
    · rfl
  · intro b hb
    rw [hheld] at hb
    exact (Option.some.inj hb).symm

/-- What handlers hold once one of them holds something else. -/
lemma held_hold (handler : Nat) (change : Table Url.Key Archive → Table Url.Key Archive)
    (s : Store) (handler' : Nat) :
    (Handler.hold handler change s).2.held handler' =
      if handler = handler' then change (s.held handler) else s.held handler' := by
  show (s.handlers.insert handler _).getD handler' _ = _
  unfold Table.getD
  rw [Table.get?_insert]
  split <;> rfl

/-- Holding a new archive opens it. -/
lemma opened_hold {s t : Store} (hq : s.Quiet t) {handler : Nat} {url : Url} {a : Archive}
    (hfree : (s.held handler).get? url.key = none) :
    s.Opened handler url a
      (Handler.hold handler (fun archives => archives.insertIfNew url.key a) t).2 := by
  refine ⟨⟨⟨hq.files, hq.schedules, hq.contents, hq.context⟩, hq.loaders⟩, hq.manifests, ?_, ?_⟩
  · intro h key
    rw [← hq.held] at hfree ⊢
    rw [held_hold]
    by_cases hh : h = handler
    · subst hh
      rw [if_pos rfl, Table.get?_insertIfNew, hfree]
      by_cases hk : key = url.key
      · subst hk
        simp
      · rw [if_neg (Ne.symm hk), if_neg fun h => hk h.2]
    · rw [if_neg (Ne.symm hh), if_neg fun h => hh h.1]
  · intro b hb
    rw [hfree] at hb
    cases hb

end Store

/-- An archive that is given to a handler is held under its url in place of another one. -/
lemma Handler.get?_register (handler handler' : Nat) (archive : Archive) (key : Url.Key)
    (s : Store) : ((Handler.register handler archive s).2.held handler').get? key =
      if handler = handler' ∧ archive.url.key = key then some archive
      else (s.held handler').get? key := by
  unfold Handler.register
  rw [Action.run_bind, Store.held_hold]
  by_cases hh : handler = handler'
  · subst hh
    rw [if_pos rfl, Table.get?_insert]
    by_cases hk : archive.url.key = key
    · rw [if_pos hk, if_pos ⟨rfl, hk⟩]
    · rw [if_neg hk, if_neg fun h => hk h.2]
      rfl
  · rw [if_neg hh, if_neg fun h => hh h.1]
    rfl

/-! ### Opening as a function of the files and the bodies held -/

/-- The body reached by walking into nested archives. -/
def Archive.Body.descend (files : FileSystem) (body : Body) :
    List String → Except ArchiveError Body
  | [] => .ok body
  | name :: names =>
    match body.nested? files name with
    | .ok (some nested) => nested.descend files names
    | .ok none => .error (.missingEntry body.url name)
    | .error cause => .error cause

namespace Handler

variable (files : FileSystem) (held : Url.Key → Option Body)

/-- The body of the artifact of a path. -/
def artifactBody (useHeld : Bool) (root : Path) : Except ArchiveError Body :=
  match held (Url.artifact root).key with
  | some body => if useHeld then .ok body else Body.open? files root
  | none => Body.open? files root

/-- The body that a url resolves to when it is not looked for among the held ones. -/
def resolution (useHeld : Bool) : Url → Except (Option ArchiveError) Body
  | .directory path => if files.isDirectory path then .ok (.exploded path) else .error none
  | .packaged root nested =>
    ((artifactBody files held useHeld root).bind fun body => body.descend files nested).mapError
      some

/-- What a url denotes on disk, or why it denotes nothing there. -/
def fromDisk : Url → Except ConnectionError Body
  | .directory path =>
    if files.isDirectory path then .ok (.exploded path) else .error (.notFound (.directory path))
  | .packaged root nested =>
    ((Body.open? files root).bind fun body => body.descend files nested).mapError
      (.archive (.packaged root nested))

/-- What a connection to a url comes to: the body held under it, or what it resolves to, or else
what a thorough connection reads from disk. -/
def outcome (effort : Effort) (url : Url) : Except ConnectionError Body :=
  match held url.key with
  | some body => .ok body
  | none =>
    match resolution files held true url, effort with
    | .ok body, _ => .ok body
    | .error _, .quick => .error (.notFound url)
    | .error _, .thorough => fromDisk files url

/-- The body that a quick connection to a url finds. -/
def opens? (url : Url) : Option Body :=
  (held url.key).or (resolution files held true url).toOption

variable {files held}

/-- A url finds what is held under it. -/
lemma opens?_of_held {url : Url} {body : Body} (h : held url.key = some body) :
    opens? files held url = some body := by
  unfold opens?
  rw [h, Option.some_or]

/-- A url under which nothing is held finds what it resolves to. -/
lemma opens?_of_not_held {url : Url} (h : held url.key = none) :
    opens? files held url = (resolution files held true url).toOption := by
  unfold opens?
  rw [h, Option.none_or]

/-- A connection comes to what is held under the url. -/
lemma outcome_of_held {url : Url} {body : Body} (h : held url.key = some body) (effort : Effort) :
    outcome files held effort url = .ok body := by
  unfold outcome
  rw [h]

/-- A connection to a url under which nothing is held comes to what the url resolves to. -/
lemma outcome_of_ok {url : Url} {body : Body} (h : held url.key = none)
    (hresolution : resolution files held true url = .ok body) (effort : Effort) :
    outcome files held effort url = .ok body := by
  unfold outcome
  rw [h, hresolution]

/-- It is only where a url is not held and resolves to nothing that the effort counts. -/
lemma outcome_of_error {url : Url} {cause : Option ArchiveError} (h : held url.key = none)
    (hresolution : resolution files held true url = .error cause) (effort : Effort) :
    outcome files held effort url =
      match effort with
      | .quick => .error (.notFound url)
      | .thorough => fromDisk files url := by
  unfold outcome
  rw [h, hresolution]
  cases effort <;> rfl

/-- A url that resolves to nothing with the held bodies, and to nothing without them, is reported
with the cause of the latter. -/
lemma fromDisk_eq {url : Url} {cause : Option ArchiveError}
    (h : resolution files held true url = .error cause) :
    fromDisk files url = (resolution files held false url).mapError fun again =>
      match again.or cause with
      | some source => .archive url source
      | none => .notFound url := by
  cases url with
  | directory path =>
    dsimp only [fromDisk, resolution] at h ⊢
    split at h
    · cases h
    · rename_i hdir
      cases h
      rw [if_neg hdir, if_neg hdir]
      rfl
  | packaged root nested =>
    have hartifact : artifactBody files held false root = Body.open? files root := by
      unfold artifactBody
      split <;> rfl
    dsimp only [fromDisk, resolution]
    rw [hartifact]
    cases (Body.open? files root).bind fun body => body.descend files nested <;> rfl

/-- A directory under which nothing is held is opened as it is. -/
lemma opens?_directory {path : Path} (h : held (Url.directory path).key = none) :
    opens? files held (.directory path) =
      if files.isDirectory path then some (.exploded path) else none := by
  rw [opens?_of_not_held h]
  dsimp only [resolution]
  split <;> rfl

/-- A packaged archive that is not held is looked for in its artifact. -/
lemma opens?_packaged {root : Path} {nested : List String}
    (h : held (Url.packaged root nested).key = none) :
    opens? files held (.packaged root nested) =
      (artifactBody files held true root).toOption.bind fun body =>
        (body.descend files nested).toOption := by
  rw [opens?_of_not_held h]
  dsimp only [resolution]
  rcases artifactBody files held true root with cause | body
  · rfl
  · dsimp only [Except.bind, Except.toOption, Option.bind_some]
    cases body.descend files nested <;> rfl

end Handler

/-! ### Nothing that is opened is a script -/

namespace Archive.Body

/-- An artifact is packaged. -/
lemma packaged_of_open? {files : FileSystem} {path : Path} {body : Body}
    (h : open? files path = .ok body) : ∃ stream, body = .packaged stream := by
  unfold open? at h
  split at h
  · cases h
  · split at h
    · cases h
    · cases h
      exact ⟨_, rfl⟩

/-- Nothing nested is a script. -/
lemma isGenuine_of_nested? {files : FileSystem} {body nested : Body} {name : String}
    (h : body.nested? files name = .ok (some nested)) : nested.IsGenuine := by
  cases body with
  | packaged stream =>
    dsimp only [nested?] at h
    cases hindex : stream.index with
    | error cause =>
      rw [hindex] at h
      cases h
    | ok index =>
      rw [hindex] at h
      simp only [Except.map, Except.ok.injEq, Option.map_eq_some_iff] at h
      obtain ⟨item, -, rfl⟩ := h
      exact trivial
  | exploded root =>
    dsimp only [nested?] at h
    split at h
    · cases h
      exact trivial
    · rename_i path _
      cases hopen : open? files path with
      | error cause =>
        rw [hopen] at h
        cases h
      | ok body =>
        rw [hopen] at h
        obtain ⟨stream, rfl⟩ := packaged_of_open? hopen
        cases h
        exact trivial
    · cases h
  | scripted script => cases h

/-- Walking into nested archives does not lead to a script. -/
lemma isGenuine_of_descend {files : FileSystem} {names : List String} {body found : Body}
    (hb : body.IsGenuine) (h : body.descend files names = .ok found) : found.IsGenuine := by
  induction names generalizing body with
  | nil =>
    cases h
    exact hb
  | cons name names ih =>
    rw [descend] at h
    split at h
    · rename_i nested hnested
      exact ih (isGenuine_of_nested? hnested) h
    · cases h
    · cases h

end Archive.Body

namespace Handler

variable {files : FileSystem} {held : Url.Key → Option Body}

/-- What a connection finds is no script, if nothing that is held is one. -/
lemma isGenuine_of_opens? (hheld : ∀ key body, held key = some body → body.IsGenuine)
    {url : Url} {body : Body} (h : opens? files held url = some body) : body.IsGenuine := by
  cases hk : held url.key with
  | some b =>
    rw [opens?_of_held hk] at h
    cases h
    exact hheld _ _ hk
  | none =>
    cases url with
    | directory path =>
      rw [opens?_directory hk] at h
      split at h
      · cases h
        exact trivial
      · cases h
    | packaged root nested =>
      rw [opens?_packaged hk, Option.bind_eq_some_iff] at h
      obtain ⟨b, hroot, hd⟩ := h
      have hb : b.IsGenuine := by
        replace hroot := eq_ok_of_toOption hroot
        unfold artifactBody at hroot
        split at hroot
        · rename_i c hc
          cases hroot
          exact hheld _ _ hc
        · obtain ⟨stream, rfl⟩ := Archive.Body.packaged_of_open? hroot
          exact trivial
      exact Archive.Body.isGenuine_of_descend hb (eq_ok_of_toOption hd)

/-! ### A connection finds what the body says -/

/-- Walking into nested archives leads to the nested bodies. -/
lemma descend_spec (names : List String) (a : Archive) (s : Store) :
    ∃ r t, descend a names s = (r, t) ∧ r.map Archive.body = a.body.descend s.files names ∧
      s.Quiet t := by
  induction names generalizing a s with
  | nil => exact ⟨_, s, rfl, rfl, .refl s⟩
  | cons name names ih =>
    obtain ⟨r, t, ht, hr, hq⟩ := Archive.nested?_spec a name s
    rw [descend, Archive.Body.descend, Attempt.run_bind, ht, ← hr]
    rcases r with cause | _ | nested
    · exact ⟨_, t, rfl, rfl, hq⟩
    · refine ⟨_, t, rfl, ?_, hq⟩
      rw [Archive.url_body]
      rfl
    · obtain ⟨r', u, hu, hr', hq'⟩ := ih nested t
      refine ⟨r', u, hu, ?_, hq.trans hq'⟩
      rw [hr', hq.files]
      rfl

/-- The artifact of a path has the body that is held or that the files give it. -/
lemma artifact_spec (handler : Nat) (useHeld : Bool) (root : Path) (s : Store) :
    ∃ r t, artifact handler useHeld root s = (r, t) ∧
      r.map Archive.body = artifactBody s.files (s.bodies handler) useHeld root ∧ s.Quiet t := by
  unfold artifact artifactBody Store.bodies
  rw [Attempt.run_bind_lift]
  dsimp only [held?]
  cases (s.held handler).get? (Url.artifact root).key with
  | none => exact Archive.open?_spec root s
  | some a =>
    cases useHeld with
    | false => exact Archive.open?_spec root s
    | true => exact ⟨_, s, rfl, rfl, .refl s⟩

/-- A url resolves to the body that the files and the held bodies say. -/
lemma resolve_spec (handler : Nat) (useHeld : Bool) (url : Url) (s : Store) :
    ∃ r t, resolve handler useHeld url s = (r, t) ∧
      r.map Archive.body = resolution s.files (s.bodies handler) useHeld url ∧ s.Quiet t := by
  cases url with
  | directory path =>
    dsimp only [resolve, resolution]
    rw [Attempt.run_bind_files]
    by_cases hdir : s.files.isDirectory path
    · rw [if_pos hdir, if_pos hdir]
      exact ⟨_, _, rfl, rfl, Store.quiet_freshId s⟩
    · rw [if_neg hdir, if_neg hdir]
      exact ⟨_, s, rfl, rfl, .refl s⟩
  | packaged root nested =>
    obtain ⟨r, t, ht, hr, hq⟩ := artifact_spec handler useHeld root s
    dsimp only [resolve, resolution]
    rw [Attempt.run_adapt, Attempt.run_bind, ht, ← hr]
    cases r with
    | error cause => exact ⟨_, t, rfl, rfl, hq⟩
    | ok a =>
      obtain ⟨r', u, hu, hr', hq'⟩ := descend_spec nested a t
      refine ⟨r'.mapError some, u, ?_, ?_, hq.trans hq'⟩
      · dsimp only
        rw [hu]
      · dsimp only [Except.map, Except.bind]
        rw [← hq.files, ← hr']
        cases r' <;> rfl

/-- A connection to a url under which an archive is held is a connection to that archive. -/
lemma connect_of_held {handler : Nat} {url : Url} {a : Archive} {s : Store}
    (h : (s.held handler).get? url.key = some a) (effort : Effort) :
    connect handler effort url s = (.ok ⟨url, a⟩, s) := by
  unfold connect
  rw [Attempt.run_bind_lift]
  dsimp only [held?]
  rw [h]
  rfl

/-- A connection comes to what the files and the held bodies say.  It holds the archive that it has
opened from then on, and nothing else when it fails. -/
lemma connect_spec (handler : Nat) (effort : Effort) (url : Url) (s : Store) :
    match outcome s.files (s.bodies handler) effort url with
    | .ok body => ∃ a t, connect handler effort url s = (.ok ⟨url, a⟩, t) ∧ a.body = body ∧
        s.Opened handler url a t
    | .error cause => ∃ t, connect handler effort url s = (.error cause, t) ∧ s.Quiet t := by
  cases hheld : (s.held handler).get? url.key with
  | some a =>
    have hbody : s.bodies handler url.key = some a.body := by
      unfold Store.bodies
      rw [hheld]
      rfl
    rw [outcome_of_held hbody]
    exact ⟨a, s, connect_of_held hheld effort, rfl, Store.opened_of_held hheld⟩
  | none =>
    have hbody : s.bodies handler url.key = none := by
      unfold Store.bodies
      rw [hheld]
      rfl
    unfold connect
    rw [Attempt.run_bind_lift]
    dsimp only [held?]
    rw [hheld]
    obtain ⟨r, t, ht, hr, hq⟩ := resolve_spec handler true url s
    dsimp only
    rw [Attempt.run_bind, Attempt.run_result, ht]
    cases r with
    | ok a =>
      rw [outcome_of_ok hbody hr.symm]
      exact ⟨a, _, rfl, rfl, Store.opened_hold hq hheld⟩
    | error cause =>
      have hfirst : resolution s.files (s.bodies handler) true url = .error cause := hr.symm
      rw [outcome_of_error hbody hfirst]
      cases effort with
      | quick =>
        exact ⟨_, rfl, hq.trans (Store.quiet_log _ _ _ _ t)⟩
      | thorough =>
        let u := (Action.log .debug logTarget "Cached resolution failed, re-reading from disk"
          [.plain "url" url.text, .plain "error" (connect.structureText cause)] t).2
        have hu : s.Quiet u := hq.trans (Store.quiet_log _ _ _ _ t)
        obtain ⟨r', v, hv, hr', hq'⟩ := resolve_spec handler false url u
        rw [hu.files, hu.bodies] at hr'
        dsimp only
        rw [fromDisk_eq hfirst, ← hr', Attempt.run_bind_lift, Attempt.run_bind, Attempt.run_result,
          hv]
        cases r' with
        | ok a => exact ⟨a, _, rfl, rfl, Store.opened_hold (hu.trans hq') hheld⟩
        | error again =>
          dsimp only [Except.map, Except.mapError]
          cases again.or cause with
          | some source => exact ⟨v, rfl, hu.trans hq'⟩
          | none => exact ⟨v, rfl, hu.trans hq'⟩

/-- A quick connection finds the body that `opens?` says and holds its archive from then on; it
fails when there is none. -/
lemma connect_quick_spec (handler : Nat) (url : Url) (s : Store) :
    match opens? s.files (s.bodies handler) url with
    | some body => ∃ a t, connect handler .quick url s = (.ok ⟨url, a⟩, t) ∧ a.body = body ∧
        s.Opened handler url a t
    | none => ∃ t, connect handler .quick url s = (.error (.notFound url), t) ∧ s.Quiet t := by
  have hspec := connect_spec handler .quick url s
  cases hheld : s.bodies handler url.key with
  | some body =>
    rw [outcome_of_held hheld] at hspec
    rw [opens?_of_held hheld]
    exact hspec
  | none =>
    rw [opens?_of_not_held hheld]
    cases hresolution : resolution s.files (s.bodies handler) true url with
    | ok body =>
      rw [outcome_of_ok hheld hresolution] at hspec
      exact hspec
    | error cause =>
      rw [outcome_of_error hheld hresolution] at hspec
      exact hspec

end Handler

end AppLauncher
