import AppLauncher.Proofs.Archive.View
import AppLauncher.Proofs.Handler.Effort

/-!
# What a url denotes

A nested archive makes its url from the name of the entry that holds it, while a handler holds it
under the url that it was asked for.  The two have one key (`Archive.Body.key_of_descend`), because
an entry that is found for a name is called so up to a slash at the end, and a url that is built
step by step has no such slashes in its names (`Url.Built`).

So a handler that starts with nothing holds every archive under the url that the archive calls its
own (`Store.Denotes`), through all requests.  And an archive that is held stays where it is until
another one is given to the handler under its url, so that the url denotes this archive for as long
(`url_denotes_archive`).
-/

namespace AppLauncher

open Archive (Body)

/-! ### Urls that are built step by step -/

/-- A url of an artifact or a directory, or of something nested there. -/
inductive Url.Built : Url → Prop
  | artifact (root : Path) : Built (.artifact root)
  | directory (path : Path) : Built (.directory path)
  | nested {url : Url} (h : Built url) (name : String) : Built (url.nested name)

/-- The names in a url that is built step by step have no slashes at the end. -/
lemma Url.Built.dropSlashes_eq {url : Url} (h : url.Built) {root : Path} {names : List String}
    (hurl : url = .packaged root names) : ∀ name ∈ names, Text.dropSlashes name = name := by
  induction h generalizing root names with
  | artifact _ =>
    cases hurl
    exact fun name hname => absurd hname List.not_mem_nil
  | directory _ => cases hurl
  | @nested outer _ name ih =>
    cases outer with
    | directory path => cases hurl
    | packaged root' names' =>
      cases hurl
      intro name' hname'
      rcases List.mem_append.mp hname' with houter | hlast
      · exact ih rfl name' houter
      · rw [List.mem_singleton.mp hlast]
        exact Text.dropSlashes_dropSlashes name

/-- Which archive is nested somewhere depends on which archive it is nested in. -/
lemma Url.key_nested {url : Url} {root : List Path.Component} {names : List String}
    (h : url.key = .packaged root names) (name : String) :
    (url.nested name).key = .packaged root (names ++ [Text.dropSlashes name]) := by
  cases url with
  | directory path => cases h
  | packaged root' names' =>
    cases h
    rfl

namespace Archive.Body

variable {files : FileSystem} {body found : Body} {root : List Path.Component}

/-- An archive nested under a name calls itself so. -/
lemma key_of_nested? {names : List String} (hbody : body.url.key = .packaged root names)
    {name : String} (hname : Text.dropSlashes name = name)
    (h : body.nested? files name = .ok (some found)) :
    found.url.key = .packaged root (names ++ [name]) := by
  cases body with
  | packaged stream =>
    dsimp only [nested?] at h
    cases hindex : stream.index with
    | error cause =>
      rw [hindex] at h
      cases h
    | ok index =>
      rw [hindex, hname] at h
      simp only [Except.map, Except.ok.injEq, Option.map_eq_some_iff] at h
      obtain ⟨item, hitem, rfl⟩ := h
      -- the entry may be the directory of that name
      have hdrop : Text.dropSlashes item.entry.name = name := by
        rcases Option.or_eq_some_iff.mp hitem with hfile | ⟨-, hdirectory⟩
        · rw [(Stream.mem_of_find? hindex hfile).2, hname]
        · rw [(Stream.mem_of_find? hindex hdirectory).2, Text.dropSlashes_append_slash, hname]
      have hurl : (stream.nested item).url = stream.url.nested item.entry.name := by
        unfold Stream.nested
        split <;> rfl
      have hkey : stream.url.key = .packaged root names := hbody
      show (stream.nested item).url.key = _
      rw [hurl, Url.key_nested hkey, hdrop]
  | exploded path => cases hbody
  | scripted script => cases h

/-- An archive that is reached through names calls itself so. -/
lemma key_of_descend {more : List String} (hmore : ∀ name ∈ more, Text.dropSlashes name = name)
    {names : List String} (hbody : body.url.key = .packaged root names)
    (h : body.descend files more = .ok found) :
    found.url.key = .packaged root (names ++ more) := by
  induction more generalizing body names with
  | nil =>
    cases h
    rw [List.append_nil]
    exact hbody
  | cons name more ih =>
    rw [descend] at h
    split at h
    · rename_i nested hnested
      have hkey := key_of_nested? hbody (hmore name List.mem_cons_self) hnested
      have hfound := ih (fun n hn => hmore n (List.mem_cons_of_mem name hn)) hkey h
      rwa [List.append_assoc] at hfound
    · cases h
    · cases h

/-- An artifact calls itself by its path. -/
lemma url_of_open? {path : Path} (h : open? files path = .ok body) :
    body.url = .artifact path := by
  unfold open? at h
  split at h
  · cases h
  · split at h
    · cases h
    · cases h
      rfl

end Archive.Body

/-! ### What connections find under a url -/

namespace Handler

variable {files : FileSystem} {held : Url.Key → Option Body} {url : Url} {body : Body}

/-- The artifact of a path calls itself so, whether it is held or read. -/
lemma key_of_artifactBody (hheld : ∀ key body, held key = some body → body.url.key = key)
    {useHeld : Bool} {root : Path} (h : artifactBody files held useHeld root = .ok body) :
    body.url.key = .packaged root.components [] := by
  have hopen : ∀ body, Body.open? files root = .ok body →
      body.url.key = .packaged root.components [] := fun body hbody => by
    rw [Body.url_of_open? hbody]
    rfl
  unfold artifactBody at h
  split at h
  · rename_i b hb
    split at h
    · cases h
      exact hheld _ _ hb
    · exact hopen body h
  · exact hopen body h

/-- What a url resolves to calls itself so. -/
lemma key_of_resolution (hheld : ∀ key body, held key = some body → body.url.key = key)
    (hurl : url.Built) {useHeld : Bool} (h : resolution files held useHeld url = .ok body) :
    body.url.key = url.key := by
  cases url with
  | directory path =>
    dsimp only [resolution] at h
    split at h
    · cases h
      rfl
    · cases h
  | packaged root nested =>
    dsimp only [resolution] at h
    cases hartifact : artifactBody files held useHeld root with
    | error cause =>
      rw [hartifact] at h
      cases h
    | ok artifact =>
      rw [hartifact] at h
      dsimp only [Except.bind] at h
      cases hdescend : artifact.descend files nested with
      | error cause =>
        rw [hdescend] at h
        cases h
      | ok found =>
        rw [hdescend] at h
        cases h
        exact Body.key_of_descend (hurl.dropSlashes_eq rfl) (key_of_artifactBody hheld hartifact)
          hdescend

/-- What a connection to a url comes to calls itself so. -/
lemma key_of_outcome (hheld : ∀ key body, held key = some body → body.url.key = key)
    (hurl : url.Built) {effort : Effort} (h : outcome files held effort url = .ok body) :
    body.url.key = url.key := by
  cases hbody : held url.key with
  | some b =>
    rw [outcome_of_held hbody] at h
    cases h
    exact hheld _ _ hbody
  | none =>
    cases hresolution : resolution files held true url with
    | ok b =>
      rw [outcome_of_ok hbody hresolution] at h
      cases h
      exact key_of_resolution hheld hurl hresolution
    | error cause =>
      rw [outcome_of_error hbody hresolution] at h
      cases effort with
      | quick => cases h
      | thorough =>
        dsimp only at h
        rw [fromDisk_eq hresolution] at h
        cases hagain : resolution files held false url with
        | error again =>
          rw [hagain] at h
          cases h
        | ok b =>
          rw [hagain] at h
          cases h
          exact key_of_resolution hheld hurl hagain

end Handler

/-! ### What a handler holds under a url -/

/-- Every archive that a handler holds calls itself by the url that it is held under. -/
def Store.Denotes (handler : Nat) (s : Store) : Prop :=
  ∀ key a, (s.held handler).get? key = some a → a.url.key = key

/-- The bodies that are held call themselves as the archives do. -/
lemma Store.Denotes.bodies {handler : Nat} {s : Store} (h : s.Denotes handler) :
    ∀ key body, s.bodies handler key = some body → body.url.key = key := by
  intro key body hbody
  obtain ⟨a, ha, rfl⟩ := Option.map_eq_some_iff.mp hbody
  rw [Archive.url_body]
  exact h key a ha

namespace Handler

variable {handler : Nat} {s t : Store}

/-- The urls that a request asks for are built step by step. -/
def Request.IsBuilt : Request → Prop
  | connect _ _ url => url.Built
  | _ => True

/-- Whether a request gives an archive with a key to a handler. -/
def Request.Registers (handler : Nat) (key : Url.Key) : Request → Prop
  | register handler' archive => handler' = handler ∧ archive.url.key = key
  | _ => False

/-- A connection that succeeds has opened its archive. -/
lemma opened_of_connect_ok {effort : Effort} {url : Url} {c : Connection}
    (h : connect handler effort url s = (.ok c, t)) :
    c.url = url ∧ outcome s.files (s.bodies handler) effort url = .ok c.archive.body ∧
      s.Opened handler url c.archive t := by
  have hspec := connect_spec handler effort url s
  cases houtcome : outcome s.files (s.bodies handler) effort url with
  | ok body =>
    rw [houtcome] at hspec
    obtain ⟨a, u, hu, hbody, hopened⟩ := hspec
    rw [h] at hu
    cases hu
    exact ⟨rfl, congrArg Except.ok hbody.symm, hopened⟩
  | error cause =>
    rw [houtcome] at hspec
    obtain ⟨u, hu, -⟩ := hspec
    rw [h] at hu
    cases hu

/-- A connection to a url gives an archive that calls itself so. -/
lemma key_of_connect_ok (hs : s.Denotes handler) {effort : Effort} {url : Url} (hurl : url.Built)
    {c : Connection} (h : connect handler effort url s = (.ok c, t)) :
    c.archive.url.key = url.key := by
  rw [← Archive.url_body]
  exact key_of_outcome hs.bodies hurl (opened_of_connect_ok h).2.1

/-- Archives call themselves by the urls that they are held under, after a request as before. -/
lemma denotes_perform (hs : s.Denotes handler) {request : Request} (hrequest : request.IsBuilt) :
    (request.perform s).2.Denotes handler := by
  intro key a ha
  cases request with
  | register handler' archive =>
    have hheld := get?_register handler' handler archive key s
    replace ha : ((Handler.register handler' archive s).2.held handler).get? key = some a := ha
    rw [hheld] at ha
    split at ha
    · rename_i heq
      cases ha
      exact heq.2
    · exact hs key a ha
  | connect handler' effort url =>
    replace ha : ((connect handler' effort url s).2.held handler).get? key = some a := ha
    rcases hconnect : connect handler' effort url s with ⟨e | c, t⟩
    · rw [hconnect, (quiet_of_connect_error hconnect).held] at ha
      exact hs key a ha
    · obtain ⟨-, -, hopened⟩ := opened_of_connect_ok hconnect
      rw [hconnect, hopened.held] at ha
      split at ha
      · rename_i heq
        obtain ⟨rfl, rfl⟩ := heq
        cases ha
        exact key_of_connect_ok hs hrequest hconnect
      · exact hs key a ha
  | changeFiles files => exact hs key a ha

/-- Archives call themselves by the urls that they are held under, after all requests. -/
lemma denotes_run (hs : s.Denotes handler) {requests : List Request}
    (hrequests : ∀ request ∈ requests, request.IsBuilt) : (run requests s).2.Denotes handler := by
  induction requests generalizing s with
  | nil => exact hs
  | cons request requests ih =>
    rw [run_cons]
    exact ih (denotes_perform hs (hrequests request List.mem_cons_self)) fun r hr =>
      hrequests r (List.mem_cons_of_mem request hr)

/-- An archive that is held stays where it is, unless another one takes its place. -/
lemma held_perform {key : Url.Key} {a : Archive} (ha : (s.held handler).get? key = some a)
    {request : Request} (hrequest : ¬request.Registers handler key) :
    ((request.perform s).2.held handler).get? key = some a := by
  cases request with
  | register handler' archive =>
    have hnot : ¬(handler' = handler ∧ archive.url.key = key) := hrequest
    have hheld := get?_register handler' handler archive key s
    rw [if_neg hnot, ha] at hheld
    exact hheld
  | connect handler' effort url =>
    show ((connect handler' effort url s).2.held handler).get? key = some a
    rcases hconnect : connect handler' effort url s with ⟨e | c, t⟩
    · rw [(quiet_of_connect_error hconnect).held, ha]
    · exact (opened_of_connect_ok hconnect).2.2.get?_of_get? ha
  | changeFiles files => exact ha

/-- An archive that is held stays where it is through requests that put no other one there. -/
lemma held_run {key : Url.Key} {a : Archive} (ha : (s.held handler).get? key = some a)
    {requests : List Request} (hrequests : ∀ request ∈ requests, ¬request.Registers handler key) :
    ((run requests s).2.held handler).get? key = some a := by
  induction requests generalizing s with
  | nil => exact ha
  | cons request requests ih =>
    rw [run_cons]
    exact ih (held_perform ha (hrequests request List.mem_cons_self)) fun r hr =>
      hrequests r (List.mem_cons_of_mem request hr)

/-- A url denotes one archive.  After any requests to a handler that held nothing at the start,
every archive is held under the url that it calls its own; a connection that succeeds gives an
archive that calls itself by the url that was asked for; and an archive that has been opened or
registered under a url is what every later connection to the url gives, whatever happens in between,
until another archive of that url is given to the handler. -/
theorem url_denotes_archive {handler : Nat} {start : Store}
    (hempty : ∀ key, (start.held handler).get? key = none) {requests : List Request}
    (hrequests : ∀ request ∈ requests, request.IsBuilt) :
    let s := (run requests start).2
    (∀ key a, (s.held handler).get? key = some a → a.url.key = key) ∧
    (∀ effort url c t, url.Built → connect handler effort url s = (.ok c, t) →
      c.url = url ∧ c.archive.url.key = url.key) ∧
    (∀ effort url c t, connect handler effort url s = (.ok c, t) →
      ∀ later, (∀ request ∈ later, ¬request.Registers handler url.key) →
      ∀ effort' url', url'.key = url.key →
        (connect handler effort' url' (run later t).2).1 = .ok ⟨url', c.archive⟩) ∧
    ∀ archive later, (∀ request ∈ later, ¬request.Registers handler archive.url.key) →
      ∀ effort' url', url'.key = archive.url.key →
        (connect handler effort' url' (run later (register handler archive s).2).2).1 =
          .ok ⟨url', archive⟩ := by
  intro s
  have hs : s.Denotes handler := by
    refine denotes_run (fun key a ha => ?_) hrequests
    rw [hempty] at ha
    cases ha
  have hlater : ∀ {t : Store} {key : Url.Key} {a : Archive}, (t.held handler).get? key = some a →
      ∀ later, (∀ request ∈ later, ¬request.Registers handler key) → ∀ effort url, url.key = key →
        (connect handler effort url (run later t).2).1 = .ok ⟨url, a⟩ := by
    intro t key a ha later hfree effort url hurl
    rw [connect_of_held (by rw [hurl]; exact held_run ha hfree)]
  refine ⟨hs, ?_, ?_, ?_⟩
  · intro effort url c t hurl h
    exact ⟨(opened_of_connect_ok h).1, key_of_connect_ok hs hurl h⟩
  · intro effort url c t h
    exact hlater (opened_of_connect_ok h).2.2.get?_self
  · intro archive
    exact hlater (by rw [get?_register, if_pos ⟨rfl, rfl⟩])

/-- A directory that is registered is what its url denotes, however the path is spelled and whatever
becomes of the files. -/
theorem url_denotes_archive_registered :
    let requests := [Request.connect 0 .thorough (.directory ⟨"lib"⟩)]
    let archive := Archive.exploded 7 ⟨"lib"⟩
    let start := Store.start default 1
    (∀ key, (start.held 0).get? key = none) ∧
      (∀ request ∈ requests, request.IsBuilt) ∧
      (connect 0 .quick (.directory ⟨"lib/"⟩) (run [.changeFiles default]
        (register 0 archive (run requests start).2).2).2).1 =
          .ok ⟨.directory ⟨"lib/"⟩, archive⟩ := by
  intro requests archive start
  have hempty : ∀ key, (start.held 0).get? key = none := fun _ => rfl
  have hbuilt : ∀ request ∈ requests, request.IsBuilt := fun request hrequest => by
    rw [List.mem_singleton.mp hrequest]
    exact .directory _
  refine ⟨hempty, hbuilt, ?_⟩
  refine (url_denotes_archive hempty hbuilt).2.2.2 archive [.changeFiles default] ?_ .quick _
    (by decide)
  intro request hrequest
  rw [List.mem_singleton.mp hrequest]
  exact not_false

end Handler

end AppLauncher
