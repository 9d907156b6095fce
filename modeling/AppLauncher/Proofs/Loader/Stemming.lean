import AppLauncher.Proofs.Loader.Likeness

/-!
# Where what is held comes from

Whatever a handler has opened, each body that it holds was held from the start, or else some
spelling of the url that has been asked for, itself or its artifact, opens it from the start
(`Handler.Stems`), for an artifact is read from disk whenever it is not held.  So two bodies of
packaged archives that have been opened under one key, in whatever order and through whatever
spellings, are the same or have the same content (`Handler.Stems.akin`).

What a search can use of a url is the body that opens there, if entries can be looked up in it
(`Handler.usable?`).  Opening a url at which there is nothing to use does not change what can be
used at another one (`Handler.Stems.usable?_holding_of_not_isReadable`), although the handler holds
a body there from then on; and opening a url on both of two sides on which like bodies can be used
leaves like bodies to be used on both sides (`Handler.Stems.usable?_holding`).  If two sides hold
the same bodies, apart from those that cannot be read, then the very same can be used of each url
(`Handler.Stems.usable?_eq_of_readable`).
-/

namespace AppLauncher

open Archive (Body)

/-! ### Packaged bodies of one content -/

namespace Archive.Body

/-- Two bodies are the same, or they are packaged with the same content. -/
def Akin (a b : Body) : Prop := a = b ∨ a.BothPackaged b

namespace Akin

variable {files : FileSystem} {a b : Body}

/-- Bodies that are akin are alike. -/
lemma alike (h : a.Akin b) : Alike files a b := by
  rcases h with rfl | h
  · exact .refl a
  · exact h.alike

/-- Entries can be looked up in bodies that are akin both or neither. -/
lemma isReadable (h : a.Akin b) : a.isReadable = b.isReadable := by
  rcases h with rfl | ⟨s, t, rfl, rfl, h⟩
  · rfl
  · rw [isReadable_packaged, isReadable_packaged, h.index]

/-- Walking into bodies that are akin leads to such bodies. -/
lemma descend (h : a.Akin b) (names : List String) :
    Option.Rel Akin (a.descend files names).toOption (b.descend files names).toOption := by
  rcases h with rfl | h
  · cases (a.descend files names).toOption with
    | none => exact .none
    | some found => exact .some (.inl rfl)
  · have hdescend : Option.Rel BothPackaged (a.descend files names).toOption
        (b.descend files names).toOption := descend_bothPackaged h names
    generalize (a.descend files names).toOption = x at hdescend
    generalize (b.descend files names).toOption = y at hdescend
    cases hdescend with
    | none => exact .none
    | some h => exact .some (.inr h)

/-- What can be walked into in one of two bodies that are akin can be in the other. -/
lemma isSome_descend (h : a.Akin b) {names : List String}
    (ha : (a.descend files names).toOption.isSome) : (b.descend files names).toOption.isSome := by
  have hdescend : Option.Rel Akin (a.descend files names).toOption
      (b.descend files names).toOption := h.descend names
  generalize (a.descend files names).toOption = x at ha hdescend
  generalize (b.descend files names).toOption = y at hdescend
  cases hdescend with
  | none => cases ha
  | some _ => rfl

end Akin

end Archive.Body

namespace Handler

variable {files : FileSystem} {asked : Url → Prop} {start held held' : Url.Key → Option Body}
  {u w : Url} {a b : Body}

/-! ### Opening through the artifact -/

/-- An artifact opens to its body. -/
lemma opens?_artifact (root : Path) :
    opens? files held (.artifact root) = (artifactBody files held true root).toOption := by
  cases hheld : held (Url.artifact root).key with
  | some body =>
    rw [opens?_of_held hheld, artifactBody_of_held hheld]
    rfl
  | none =>
    rw [Url.artifact, opens?_packaged hheld]
    cases artifactBody files held true root <;> rfl

/-- A packaged archive that is not held opens through its artifact. -/
lemma opens?_of_artifact {root : Path} {names : List String}
    (h : held (Url.packaged root names).key = none) : opens? files held (.packaged root names) =
      (opens? files held (.artifact root)).bind fun body =>
        (body.descend files names).toOption := by
  rw [opens?_packaged h, opens?_artifact]

/-- Opening a url changes nothing for one that is neither the same nor in the same artifact. -/
lemma opens?_holding_of_ne (hkey : u.key ≠ w.key) (hroot : u.root.key ≠ w.key) :
    opens? files (holding held w b) u = opens? files held u := by
  have hother : holding held w b u.key = held u.key := if_neg hkey
  cases hheld : held u.key with
  | some c => rw [opens?_of_held (hother.trans hheld), opens?_of_held hheld]
  | none =>
    cases u with
    | directory p => rw [opens?_directory (hother.trans hheld), opens?_directory hheld]
    | packaged p names =>
      have hartifact : holding held w b (Url.artifact p).key = held (Url.artifact p).key :=
        if_neg hroot
      rw [opens?_packaged (hother.trans hheld), opens?_packaged hheld]
      unfold artifactBody
      rw [hartifact]

/-- Once its artifact has been opened, an archive that is not held opens in it. -/
lemma opens?_holding_of_root {root : Path} {names : List String}
    (hkey : (Url.packaged root names).key ≠ w.key) (hroot : (Url.artifact root).key = w.key)
    (hheld : held (Url.packaged root names).key = none) :
    opens? files (holding held w b) (.packaged root names) =
      (b.descend files names).toOption := by
  have hother : holding held w b (Url.packaged root names).key = none :=
    (if_neg hkey).trans hheld
  have hself : holding held w b (Url.artifact root).key = some b := if_pos hroot
  rw [opens?_of_artifact hother, opens?_of_held hself, Option.bind_some]

/-- A url opens to what has been opened under its key. -/
lemma opens?_holding_self (hkey : u.key = w.key) : opens? files (holding held w b) u = some b :=
  opens?_of_held (if_pos hkey)

/-! ### What is held stems from the start -/

/-- What was held at the start is held still, and what is held was held at the start or is opened
from there by some spelling of the url, and this spelling or its artifact is asked for. -/
structure Stems (files : FileSystem) (asked : Url → Prop) (start held : Url.Key → Option Body) :
    Prop where
  first : ∀ key body, start key = some body → held key = some body
  origin : ∀ (url : Url) body, held url.key = some body →
    ∃ v : Url, v.key = url.key ∧ opens? files start v = some body ∧
      (start url.key = some body ∨ asked v ∨ asked v.root)

/-- Packaged archives that count as one open from the start to bodies that are akin. -/
lemma akin_of_opens? {p q : Path} {names : List String} (hpq : p.components = q.components)
    (ha : opens? files start (.packaged p names) = some a)
    (hb : opens? files start (.packaged q names) = some b) : a.Akin b := by
  have hkey : (Url.packaged p names).key = (Url.packaged q names).key :=
    congrArg (Url.Key.packaged · names) hpq
  have hroot : (Url.artifact p).key = (Url.artifact q).key :=
    congrArg (Url.Key.packaged · []) hpq
  have hread : ∀ path body, Body.open? files path = .ok body →
      ∃ content, files.read path = .ok content := by
    intro path body hopen
    unfold Body.open? at hopen
    split at hopen
    · cases hopen
    · rename_i content hcontent
      exact ⟨content, hcontent⟩
  cases hheld : start (Url.packaged q names).key with
  | some c =>
    rw [opens?_of_held (hkey ▸ hheld)] at ha
    rw [opens?_of_held hheld] at hb
    cases ha
    cases hb
    exact .inl rfl
  | none =>
    rw [opens?_packaged (hkey ▸ hheld)] at ha
    rw [opens?_packaged hheld] at hb
    cases hart : start (Url.artifact q).key with
    | some c =>
      rw [artifactBody_of_held (hroot ▸ hart)] at ha
      rw [artifactBody_of_held hart, ha] at hb
      exact .inl (Option.some.inj hb)
    | none =>
      rw [artifactBody_of_not_held (hroot ▸ hart)] at ha
      rw [artifactBody_of_not_held hart] at hb
      obtain ⟨x, hx, hxa⟩ := Option.bind_eq_some_iff.mp ha
      obtain ⟨y, hy, hyb⟩ := Option.bind_eq_some_iff.mp hb
      obtain ⟨content, hp⟩ := hread p x (eq_ok_of_toOption hx)
      obtain ⟨content', hq⟩ := hread q y (eq_ok_of_toOption hy)
      have hboth := Body.open?_bothPackaged hpq (by
        rw [hp, hq, FileSystem.read_unique hpq hp hq])
      rw [hx, hy] at hboth
      cases hboth with
      | some hxy =>
        have hdescend : Option.Rel Body.BothPackaged (x.descend files names).toOption
            (y.descend files names).toOption := Body.descend_bothPackaged hxy names
        rw [hxa, hyb] at hdescend
        cases hdescend with
        | some h => exact .inr h

namespace Stems

/-- What is held at the start stems from there. -/
lemma refl (files : FileSystem) (asked : Url → Prop) (start : Url.Key → Option Body) :
    Stems files asked start start :=
  ⟨fun _ _ h => h, fun url _ h => ⟨url, rfl, opens?_of_held h, .inl h⟩⟩

/-- What is held stems from the start if more is asked for, too. -/
lemma mono {asked' : Url → Prop} (h : Stems files asked start held)
    (himp : ∀ url, asked url → asked' url) : Stems files asked' start held := by
  refine ⟨h.first, fun url body hheld => ?_⟩
  obtain ⟨v, hv, hopens, hasked⟩ := h.origin url body hheld
  exact ⟨v, hv, hopens, hasked.imp_right (.imp (himp v) (himp v.root))⟩

/-- What is not held was not held at the start. -/
lemma not_held (h : Stems files asked start held) {key : Url.Key} (hnone : held key = none) :
    start key = none := by
  rw [Option.eq_none_iff_forall_ne_some]
  intro body hstart
  rw [h.first key body hstart] at hnone
  cases hnone

/-- What a url opens is opened from the start by the url itself, or by some spelling of it that is
asked for, itself or its artifact. -/
lemma opens? (h : Stems files asked start held) (hopens : Handler.opens? files held u = some a) :
    ∃ v : Url, v.key = u.key ∧ Handler.opens? files start v = some a ∧
      (v = u ∨ asked v ∨ asked v.root) := by
  cases hheld : held u.key with
  | some body =>
    rw [opens?_of_held hheld] at hopens
    cases hopens
    obtain ⟨v, hv, hbody, hfirst | hasked⟩ := h.origin u a hheld
    · exact ⟨u, rfl, opens?_of_held hfirst, .inl rfl⟩
    · exact ⟨v, hv, hbody, .inr hasked⟩
  | none =>
    have hfree := h.not_held hheld
    cases u with
    | directory path =>
      refine ⟨.directory path, rfl, ?_, .inl rfl⟩
      rw [opens?_directory hheld] at hopens
      rw [opens?_directory hfree, hopens]
    | packaged root names =>
      rw [opens?_of_artifact hheld] at hopens
      cases hroot : held (Url.artifact root).key with
      | none =>
        refine ⟨.packaged root names, rfl, ?_, .inl rfl⟩
        rw [opens?_artifact, artifactBody_of_not_held hroot] at hopens
        rw [opens?_packaged hfree, artifactBody_of_not_held (h.not_held hroot), hopens]
      | some body =>
        rw [opens?_of_held hroot, Option.bind_some] at hopens
        obtain ⟨v, hv, hbody, hasked⟩ := h.origin (.artifact root) body hroot
        rcases hasked with hfirst | hasked
        · refine ⟨.packaged root names, rfl, ?_, .inl rfl⟩
          rw [opens?_of_artifact hfree, opens?_of_held hfirst, Option.bind_some, hopens]
        · -- the archive opens through the spelling through which the artifact has been opened
          cases v with
          | directory => cases hv
          | packaged q names' =>
            obtain ⟨hpq, rfl⟩ : q.components = root.components ∧ names' = [] :=
              Url.Key.packaged.inj hv
            have hkey : (Url.packaged q names).key = (Url.packaged root names).key :=
              congrArg (Url.Key.packaged · names) hpq
            have hartifact : Handler.opens? files start (.artifact q) = some body := hbody
            have hroot' : asked (Url.packaged q names).root := hasked.elim id id
            refine ⟨.packaged q names, hkey, ?_, .inr (.inr hroot')⟩
            rw [opens?_of_artifact (hkey ▸ hfree), hartifact, Option.bind_some, hopens]

/-- What is held after a url has been opened that is asked for stems from the start. -/
lemma holding (h : Stems files asked start held) (hw : asked w)
    (hopens : Handler.opens? files held w = some b) :
    Stems files asked start (Handler.holding held w b) := by
  refine ⟨fun key body hstart => ?_, fun url body hheld => ?_⟩
  · have hfirst := h.first key body hstart
    unfold Handler.holding
    split
    · rename_i hkey
      rw [hkey] at hfirst
      rw [opens?_of_held hfirst] at hopens
      exact hopens.symm
    · exact hfirst
  · unfold Handler.holding at hheld
    split at hheld
    · rename_i hkey
      cases hheld
      obtain ⟨v, hv, hbody, hasked⟩ := h.opens? hopens
      refine ⟨v, hv.trans hkey.symm, hbody, .inr ?_⟩
      rcases hasked with rfl | hasked
      · exact .inl hw
      · exact hasked
    · exact h.origin url body hheld

/-- What is held after any url has been opened stems from the start, if it does not matter what is
asked for. -/
lemma holding_of_opens? (h : Stems files asked start held)
    (hopens : Handler.opens? files held w = some b) :
    Stems files (fun _ => True) start (Handler.holding held w b) :=
  (h.mono fun _ _ => trivial).holding trivial hopens

/-- Packaged archives that count as one open to bodies that are akin, whatever has been opened
before. -/
lemma akin (h : Stems files asked start held) (h' : Stems files asked start held')
    (hkey : u.key = w.key)
    (hpack : u.isPackaged = true) (ha : Handler.opens? files held u = some a)
    (hb : Handler.opens? files held' w = some b) : a.Akin b := by
  obtain ⟨v, hv, hstart, -⟩ := h.opens? ha
  obtain ⟨v', hv', hstart', -⟩ := h'.opens? hb
  cases u with
  | directory => cases hpack
  | packaged root names =>
    rw [← hkey] at hv'
    cases v with
    | directory => cases hv
    | packaged p names =>
      cases v' with
      | directory => cases hv'
      | packaged q names' =>
        obtain ⟨hp, rfl⟩ := Url.Key.packaged.inj hv
        obtain ⟨hq, rfl⟩ := Url.Key.packaged.inj hv'
        exact akin_of_opens? (hp.trans hq.symm) hstart hstart'

/-- A url that opens does so after another one has been opened. -/
lemma isSome_opens?_holding (h : Stems files asked start held)
    (hw : Handler.opens? files held w = some b) (hu : (Handler.opens? files held u).isSome) :
    (Handler.opens? files (Handler.holding held w b) u).isSome := by
  by_cases hkey : u.key = w.key
  · rw [opens?_holding_self hkey]
    rfl
  by_cases hroot : u.root.key = w.key
  · cases u with
    | directory path => exact absurd hroot hkey
    | packaged root names =>
      cases hheld : held (Url.packaged root names).key with
      | some c =>
        have hother : Handler.holding held w b (Url.packaged root names).key = some c :=
          (if_neg hkey).trans hheld
        rw [opens?_of_held hother]
        rfl
      | none =>
        rw [opens?_of_artifact hheld] at hu
        obtain ⟨found, hfound⟩ := Option.isSome_iff_exists.mp hu
        obtain ⟨c, hc, hdescend⟩ := Option.bind_eq_some_iff.mp hfound
        rw [opens?_holding_of_root hkey hroot hheld]
        refine (h.akin h hroot rfl hc hw).isSome_descend ?_
        rw [hdescend]
        rfl
  · rw [opens?_holding_of_ne hkey hroot, hu]

end Stems

/-! ### What can be used of a url -/

/-- The body that a url opens, if entries can be looked up in it. -/
def usable? (files : FileSystem) (held : Url.Key → Option Body) (url : Url) : Option Body :=
  (opens? files held url).filter Body.isReadable

/-- What can be used is what opens and can be read. -/
lemma usable?_eq_some_iff :
    usable? files held u = some a ↔ opens? files held u = some a ∧ a.isReadable = true :=
  Option.filter_eq_some_iff

/-- Nothing can be used of a url that opens to what cannot be read. -/
lemma usable?_of_not_isReadable (h : opens? files held u = some a) (ha : a.isReadable = false) :
    usable? files held u = none := by
  unfold usable?
  rw [h, Option.filter_some, ha]
  rfl

/-- Of what opens alike, alike can be used. -/
lemma usable?_rel (h : Option.Rel (Body.Alike files) (opens? files held u) (opens? files held' w)) :
    Option.Rel (Body.Alike files) (usable? files held u) (usable? files held' w) := by
  unfold usable?
  generalize opens? files held u = x at h
  generalize opens? files held' w = y at h
  cases h with
  | none => exact .none
  | some h =>
    rw [Option.filter_some, Option.filter_some, h.isReadable]
    split
    · exact .some h
    · exact .none

namespace Stems

/-- Of a packaged archive alike can be used on both of two sides, if it can be used on both or
neither. -/
lemma usable?_rel_of_iff (h : Stems files asked start held) (h' : Stems files asked start held')
    (hpack : u.isPackaged = true)
    (hiff : (usable? files held u).isSome ↔ (usable? files held' u).isSome) :
    Option.Rel (Body.Alike files) (usable? files held u) (usable? files held' u) := by
  cases ha : usable? files held u with
  | none =>
    cases hb : usable? files held' u with
    | none => exact .none
    | some b =>
      rw [ha, hb] at hiff
      cases hiff.mpr rfl
  | some a =>
    cases hb : usable? files held' u with
    | none =>
      rw [ha, hb] at hiff
      cases hiff.mp rfl
    | some b =>
      exact .some (h.akin h' rfl hpack (usable?_eq_some_iff.mp ha).1
        (usable?_eq_some_iff.mp hb).1).alike

/-- Nothing can be used at any spelling of a url that opens to what cannot be read. -/
lemma usable?_of_key (h : Stems files asked start held) (hkey : u.key = w.key)
    (hw : Handler.opens? files held w = some b) (hb : b.isReadable = false) :
    usable? files held u = none := by
  cases hu : Handler.opens? files held u with
  | none =>
    unfold usable?
    rw [hu]
    rfl
  | some a =>
    refine usable?_of_not_isReadable hu ?_
    cases u with
    | packaged root names => rw [(h.akin h hkey rfl hu hw).isReadable, hb]
    | directory path =>
      cases w with
      | packaged => cases hkey
      | directory path' =>
        cases hheld : held (Url.directory path').key with
        | some c =>
          rw [opens?_of_held (hkey ▸ hheld)] at hu
          rw [opens?_of_held hheld] at hw
          cases hu
          cases hw
          exact hb
        | none =>
          -- a directory that is opened can be read
          rw [opens?_directory hheld] at hw
          split at hw <;> cases hw
          cases hb

/-- Opening a url at which there is nothing to use does not change what can be used at another
one. -/
lemma usable?_holding_of_not_isReadable (h : Stems files asked start held)
    (hw : Handler.opens? files held w = some b) (hb : b.isReadable = false) (u : Url) :
    usable? files (Handler.holding held w b) u = usable? files held u := by
  by_cases hkey : u.key = w.key
  · rw [usable?_of_not_isReadable (opens?_holding_self hkey) hb, h.usable?_of_key hkey hw hb]
  by_cases hroot : u.root.key = w.key
  · cases u with
    | directory path => exact absurd hroot hkey
    | packaged root names =>
      cases hheld : held (Url.packaged root names).key with
      | some c =>
        have hother : Handler.holding held w b (Url.packaged root names).key = some c :=
          (if_neg hkey).trans hheld
        unfold usable?
        rw [opens?_of_held hother, opens?_of_held hheld]
      | none =>
        -- nothing opens in an artifact that cannot be read
        have hnames : names ≠ [] := by
          rintro rfl
          exact hkey hroot
        have hbefore : Handler.opens? files held (.packaged root names) = none := by
          rw [opens?_of_artifact hheld]
          cases hartifact : Handler.opens? files held (.artifact root) with
          | none => rfl
          | some c =>
            have hc := (h.akin h hroot rfl hartifact hw).isReadable
            exact Body.descend_of_not_isReadable (hc.trans hb) hnames
        unfold usable?
        rw [opens?_holding_of_root hkey hroot hheld, Body.descend_of_not_isReadable hb hnames,
          hbefore]
  · unfold usable?
    rw [opens?_holding_of_ne hkey hroot]

section

variable {key : Url.Key}
  (hsame : ∀ key, (held key).filter Body.isReadable = (held' key).filter Body.isReadable)

include hsame

/-- Where the same bodies are held that can be read, such a body is held on both sides. -/
lemma held_of_readable (ha : held key = some a) (hreadable : a.isReadable = true) :
    held' key = some a := by
  have hfilter := hsame key
  rw [ha, Option.filter_some, hreadable] at hfilter
  exact (Option.filter_eq_some_iff.mp hfilter.symm).1

/-- A body that is held on one side only cannot be read. -/
lemma not_isReadable_of_held (hnone : held key = none) (ha : held' key = some a) :
    a.isReadable = false := by
  have hfilter := hsame key
  rw [hnone, ha, Option.filter_some] at hfilter
  by_contra hreadable
  rw [Bool.not_eq_false] at hreadable
  rw [hreadable] at hfilter
  cases hfilter

/-- A directory that opens on one side opens on the other. -/
lemma opens?_directory_of_readable (h : Stems files asked start held)
    (h' : Stems files asked start held') {path : Path}
    (hopens : Handler.opens? files held (.directory path) = some a)
    (hreadable : a.isReadable = true) :
    Handler.opens? files held' (.directory path) = some a := by
  cases hheld : held (Url.directory path).key with
  | some c =>
    rw [opens?_of_held hheld] at hopens
    cases hopens
    exact opens?_of_held (held_of_readable hsame hheld hreadable)
  | none =>
    rw [opens?_directory hheld] at hopens
    cases hheld' : held' (Url.directory path).key with
    | none => rw [opens?_directory hheld', hopens]
    | some c =>
      -- what is held there has been opened as a directory, and so it can be read
      obtain ⟨v, hv, hbody, -⟩ := h'.origin (.directory path) c hheld'
      have hc := not_isReadable_of_held hsame hheld hheld'
      cases v with
      | packaged => cases hv
      | directory q =>
        rw [opens?_directory (hv ▸ h.not_held hheld)] at hbody
        split at hbody <;> cases hbody
        cases hc

/-- An artifact that can be read opens on both sides. -/
lemma opens?_artifact_of_readable (h : Stems files asked start held)
    (h' : Stems files asked start held') {root : Path}
    (hopens : Handler.opens? files held (.artifact root) = some a)
    (hreadable : a.isReadable = true) :
    Handler.opens? files held' (.artifact root) = some a := by
  cases hheld : held (Url.artifact root).key with
  | some c =>
    rw [opens?_of_held hheld] at hopens
    cases hopens
    exact opens?_of_held (held_of_readable hsame hheld hreadable)
  | none =>
    cases hheld' : held' (Url.artifact root).key with
    | none =>
      rw [opens?_artifact, artifactBody_of_not_held hheld] at hopens
      rw [opens?_artifact, artifactBody_of_not_held hheld', hopens]
    | some c =>
      have hakin := h.akin h' rfl rfl hopens (opens?_of_held hheld')
      rw [hakin.isReadable, not_isReadable_of_held hsame hheld hheld'] at hreadable
      cases hreadable

/-- A packaged archive that can be read opens on both sides. -/
lemma opens?_packaged_of_readable (h : Stems files asked start held)
    (h' : Stems files asked start held') {root : Path} {names : List String}
    (hopens : Handler.opens? files held (.packaged root names) = some a)
    (hreadable : a.isReadable = true) :
    Handler.opens? files held' (.packaged root names) = some a := by
  by_cases hnames : names = []
  · subst hnames
    exact opens?_artifact_of_readable hsame h h' hopens hreadable
  cases hheld : held (Url.packaged root names).key with
  | some c =>
    rw [opens?_of_held hheld] at hopens
    cases hopens
    exact opens?_of_held (held_of_readable hsame hheld hreadable)
  | none =>
    cases hheld' : held' (Url.packaged root names).key with
    | some c =>
      have hakin := h.akin h' rfl rfl hopens (opens?_of_held hheld')
      rw [hakin.isReadable, not_isReadable_of_held hsame hheld hheld'] at hreadable
      cases hreadable
    | none =>
      rw [opens?_of_artifact hheld] at hopens
      obtain ⟨x, hx, hdescend⟩ := Option.bind_eq_some_iff.mp hopens
      -- the archive opens in the artifact, so this can be read
      have hxreadable : x.isReadable = true := by
        by_contra hxunreadable
        rw [Bool.not_eq_true] at hxunreadable
        rw [Body.descend_of_not_isReadable hxunreadable hnames] at hdescend
        cases hdescend
      rw [opens?_of_artifact hheld', opens?_artifact_of_readable hsame h h' hx hxreadable]
      exact hdescend

end

/-- What can be used where the same bodies are held that can be read can be used on the other side.
-/
lemma usable?_of_readable (h : Stems files asked start held) (h' : Stems files asked start held')
    (hsame : ∀ key, (held key).filter Body.isReadable = (held' key).filter Body.isReadable)
    (ha : usable? files held u = some a) : usable? files held' u = some a := by
  obtain ⟨hopens, hreadable⟩ := usable?_eq_some_iff.mp ha
  refine usable?_eq_some_iff.mpr ⟨?_, hreadable⟩
  cases u with
  | directory => exact opens?_directory_of_readable hsame h h' hopens hreadable
  | packaged => exact opens?_packaged_of_readable hsame h h' hopens hreadable

/-- Where the same bodies are held that can be read, the same can be used. -/
lemma usable?_eq_of_readable (h : Stems files asked start held) (h' : Stems files asked start held')
    (hsame : ∀ key, (held key).filter Body.isReadable = (held' key).filter Body.isReadable)
    (u : Url) : usable? files held u = usable? files held' u :=
  Option.ext fun _ => ⟨h.usable?_of_readable h' hsame,
    h'.usable?_of_readable h fun key => (hsame key).symm⟩

/-- What can be used on one of two sides after a url has been opened on both can be used on the
other. -/
lemma isSome_usable?_holding (h : Stems files asked start held) (h' : Stems files asked start held')
    (ha : Handler.opens? files held w = some a) (hb : Handler.opens? files held' w = some b)
    (hpack : u.isPackaged = true) (hkey : u.key ≠ w.key)
    (himp : (usable? files held u).isSome → (usable? files held' u).isSome)
    (hu : (usable? files (Handler.holding held w a) u).isSome) :
    (usable? files (Handler.holding held' w b) u).isSome := by
  obtain ⟨c, hc⟩ := Option.isSome_iff_exists.mp hu
  obtain ⟨hc, hreadable⟩ := usable?_eq_some_iff.mp hc
  -- it is enough that the url opens on the other side: what opens there is akin
  suffices hopens : (Handler.opens? files (Handler.holding held' w b) u).isSome by
    obtain ⟨d, hd⟩ := Option.isSome_iff_exists.mp hopens
    have hakin := (h.holding_of_opens? ha).akin (h'.holding_of_opens? hb) rfl hpack hc hd
    have husable : usable? files (Handler.holding held' w b) u = some d :=
      usable?_eq_some_iff.mpr ⟨hd, by rw [← hakin.isReadable, hreadable]⟩
    rw [husable]
    rfl
  -- a url that could be used before can be used still
  have hstill : (usable? files held u).isSome →
      (Handler.opens? files (Handler.holding held' w b) u).isSome := by
    intro hbefore
    obtain ⟨d, hd⟩ := Option.isSome_iff_exists.mp (himp hbefore)
    refine h'.isSome_opens?_holding hb ?_
    rw [(usable?_eq_some_iff.mp hd).1]
    rfl
  have hheld : ∀ d, Handler.opens? files held u = some d → d.isReadable = true →
      (Handler.opens? files (Handler.holding held' w b) u).isSome := by
    intro d hd hdreadable
    refine hstill ?_
    rw [usable?_eq_some_iff.mpr ⟨hd, hdreadable⟩]
    rfl
  by_cases hroot : u.root.key = w.key
  · cases u with
    | directory path => cases hpack
    | packaged root names =>
      cases hfree : held (Url.packaged root names).key with
      | some d =>
        have hother : Handler.holding held w a (Url.packaged root names).key = some d :=
          (if_neg hkey).trans hfree
        rw [opens?_of_held hother] at hc
        cases hc
        exact hheld c (opens?_of_held hfree) hreadable
      | none =>
        cases hfree' : held' (Url.packaged root names).key with
        | some d =>
          have hother : Handler.holding held' w b (Url.packaged root names).key = some d :=
            (if_neg hkey).trans hfree'
          rw [opens?_of_held hother]
          rfl
        | none =>
          rw [opens?_holding_of_root hkey hroot hfree] at hc
          rw [opens?_holding_of_root hkey hroot hfree']
          have hpackw : w.isPackaged = true := by
            cases w with
            | directory => cases hroot
            | packaged => rfl
          refine (h.akin h' rfl hpackw ha hb).isSome_descend ?_
          rw [hc]
          rfl
  · rw [opens?_holding_of_ne hkey hroot] at hc
    exact hheld c hc hreadable

/-- Where alike can be used on two sides, alike can be used after a url has been opened on both of
which alike can be used. -/
lemma usable?_holding (h : Stems files asked start held) (h' : Stems files asked start held')
    (ha : usable? files held w = some a) (hb : usable? files held' w = some b)
    (hab : a.Alike files b)
    (hu : Option.Rel (Body.Alike files) (usable? files held u) (usable? files held' u)) :
    Option.Rel (Body.Alike files) (usable? files (Handler.holding held w a) u)
      (usable? files (Handler.holding held' w b) u) := by
  obtain ⟨hopens, hreadable⟩ := usable?_eq_some_iff.mp ha
  obtain ⟨hopens', hreadable'⟩ := usable?_eq_some_iff.mp hb
  by_cases hkey : u.key = w.key
  · rw [usable?_eq_some_iff.mpr ⟨opens?_holding_self hkey, hreadable⟩,
      usable?_eq_some_iff.mpr ⟨opens?_holding_self hkey, hreadable'⟩]
    exact .some hab
  · cases u with
    | directory path =>
      unfold usable? at hu ⊢
      rw [opens?_holding_of_ne hkey hkey, opens?_holding_of_ne hkey hkey]
      exact hu
    | packaged root names =>
      have hiff : (usable? files held (.packaged root names)).isSome ↔
          (usable? files held' (.packaged root names)).isSome := by
        generalize usable? files held (.packaged root names) = x at hu
        generalize usable? files held' (.packaged root names) = y at hu
        cases hu with
        | none => exact Iff.rfl
        | some _ => exact Iff.rfl
      refine (h.holding_of_opens? hopens).usable?_rel_of_iff (h'.holding_of_opens? hopens') rfl
        ⟨?_, ?_⟩
      · exact h.isSome_usable?_holding h' hopens hopens' rfl hkey hiff.mp
      · exact h'.isSome_usable?_holding h hopens' hopens rfl hkey hiff.mpr

end Stems

end Handler

end AppLauncher
