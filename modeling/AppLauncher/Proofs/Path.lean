import AppLauncher.Archive.Entry
import AppLauncher.Proofs.Archive.Naming
import AppLauncher.Proofs.Text.Splitting
import Mathlib.Data.List.Induction

/-!
# Paths made of steps

A relative path that is made of ordinary steps, with a slash between any two of them
(`Path.joined`), is taken apart into these steps again (`Path.pieces_joined`).  Other paths have
names as well, among which there may be ones that stay or go up (`Path.isSafe_iff`).  Put behind a
directory a relative path leads on from there name by name, whether or not a slash stands at the end
of the directory (`FileSystem.steps_join`).
-/

namespace AppLauncher.Path

/-! ### Steps -/

/-- An ordinary step of a path. -/
structure IsStep (step : String) : Prop where
  ne_empty : step ≠ ""
  slash_notMem : '/' ∉ step.toList
  ne_current : step ≠ "."
  ne_parent : step ≠ ".."

instance : DecidablePred IsStep := fun step =>
  decidable_of_iff (step ≠ "" ∧ '/' ∉ step.toList ∧ step ≠ "." ∧ step ≠ "..")
    ⟨fun ⟨hne, hslash, hcurrent, hparent⟩ => ⟨hne, hslash, hcurrent, hparent⟩,
      fun ⟨hne, hslash, hcurrent, hparent⟩ => ⟨hne, hslash, hcurrent, hparent⟩⟩

/-- Steps one after the other. -/
def joined : List String → String
  | [] => ""
  | [step] => step
  | step :: next :: rest => step ++ "/" ++ joined (next :: rest)

variable {steps more : List String}

/-- A step in front of others is followed by a slash. -/
lemma joined_cons (step : String) (hne : steps ≠ []) :
    joined (step :: steps) = step ++ "/" ++ joined steps := by
  cases steps with
  | nil => exact absurd rfl hne
  | cons next rest => rfl

/-- Steps behind others follow a slash. -/
lemma joined_append (hsteps : steps ≠ []) (hmore : more ≠ []) :
    joined (steps ++ more) = joined steps ++ "/" ++ joined more := by
  induction steps with
  | nil => exact absurd rfl hsteps
  | cons step rest ih =>
    by_cases hrest : rest = []
    · rw [hrest]
      exact joined_cons step hmore
    · have happend : rest ++ more ≠ [] := List.append_ne_nil_of_left_ne_nil hrest more
      rw [List.cons_append, joined_cons step happend, joined_cons step hrest, ih hrest]
      simp only [String.append_assoc]

/-- The steps of a path are its pieces. -/
lemma split_joined (hne : steps ≠ []) (h : ∀ step ∈ steps, IsStep step) :
    Text.split '/' (joined steps).toList = steps.map String.toList := by
  induction steps with
  | nil => exact absurd rfl hne
  | cons step rest ih =>
    have hstep := (h step List.mem_cons_self).slash_notMem
    by_cases hrest : rest = []
    · rw [hrest]
      exact Text.split_of_notMem hstep
    · have htoList : (joined (step :: rest)).toList =
          step.toList ++ '/' :: (joined rest).toList := by
        rw [joined_cons step hrest]
        simp
      rw [htoList, Text.split_append hstep, ih hrest fun s hs => h s (List.mem_cons_of_mem step hs)]
      rfl

/-- The pieces of a path made of steps. -/
lemma pieces_joined (hne : steps ≠ []) (h : ∀ step ∈ steps, IsStep step) :
    pieces ⟨joined steps⟩ = steps := by
  unfold pieces
  dsimp only
  rw [split_joined hne h, List.map_map]
  simp [Function.comp_def]

/-- A path made of steps begins with the first character of the first step. -/
lemma exists_joined_eq (hne : steps ≠ []) (h : ∀ step ∈ steps, IsStep step) :
    ∃ c rest, (joined steps).toList = c :: rest ∧ c ≠ '/' := by
  obtain ⟨step, others, rfl⟩ := List.exists_cons_of_ne_nil hne
  have hstep := h step List.mem_cons_self
  have hlist : step.toList ≠ [] := fun hnil => hstep.ne_empty (String.toList_eq_nil_iff.mp hnil)
  obtain ⟨c, cs, hcs⟩ := List.exists_cons_of_ne_nil hlist
  have hc : c ≠ '/' := by
    rintro rfl
    exact hstep.slash_notMem (hcs ▸ List.mem_cons_self)
  cases others with
  | nil => exact ⟨c, cs, hcs, hc⟩
  | cons next rest =>
    refine ⟨c, cs ++ '/' :: (joined (next :: rest)).toList, ?_, hc⟩
    simp [joined, hcs]

/-- A path made of steps does not end with a slash. -/
lemma getLast?_joined (hne : steps ≠ []) (h : ∀ step ∈ steps, IsStep step) :
    (joined steps).toList.getLast? ≠ some '/' := by
  induction steps with
  | nil => exact absurd rfl hne
  | cons step rest ih =>
    by_cases hrest : rest = []
    · rw [hrest]
      intro hlast
      exact (h step List.mem_cons_self).slash_notMem (List.mem_of_getLast? hlast)
    · have hsteps : ∀ s ∈ rest, IsStep s := fun s hs => h s (List.mem_cons_of_mem step hs)
      obtain ⟨c, cs, hcs, -⟩ := exists_joined_eq hrest hsteps
      have hlast : (joined (step :: rest)).toList.getLast? = (joined rest).toList.getLast? := by
        rw [joined_cons step hrest]
        simp [hcs, List.getLast?_cons]
      rw [hlast]
      exact ih hrest hsteps

/-- A path made of steps has no slashes at the end to drop. -/
lemma dropSlashes_joined (hne : steps ≠ []) (h : ∀ step ∈ steps, IsStep step) :
    Text.dropSlashes (joined steps) = joined steps := by
  unfold Text.dropSlashes Text.mapString
  rw [Text.dropTrailing_of_getLast?_ne (getLast?_joined hne h), String.ofList_toList]

/-- A path made of steps does not end with a slash. -/
lemma endsWithSlash_joined (hne : steps ≠ []) (h : ∀ step ∈ steps, IsStep step) :
    Text.endsWithSlash (joined steps) = false :=
  decide_eq_false (getLast?_joined hne h)

/-- A path made of steps is relative. -/
lemma isAbsolute_joined (hne : steps ≠ []) (h : ∀ step ∈ steps, IsStep step) :
    isAbsolute ⟨joined steps⟩ = false := by
  obtain ⟨c, rest, hlist, hc⟩ := exists_joined_eq hne h
  unfold isAbsolute
  dsimp only
  rw [hlist]
  simpa using hc

/-- What is in a path made of steps is in one of the steps, or it is a slash. -/
lemma mem_joined {c : Char} (hc : c ≠ '/') (h : c ∈ (joined steps).toList) :
    ∃ step ∈ steps, c ∈ step.toList := by
  induction steps with
  | nil => cases h
  | cons step rest ih =>
    by_cases hrest : rest = []
    · rw [hrest] at h
      exact ⟨step, List.mem_cons_self, h⟩
    · rw [joined_cons step hrest] at h
      simp only [String.toList_append, List.mem_append] at h
      rcases h with (hstep | hslash) | hmore
      · exact ⟨step, List.mem_cons_self, hstep⟩
      · exact absurd (List.mem_singleton.mp hslash) hc
      · obtain ⟨s, hs, hmem⟩ := ih hmore
        exact ⟨s, List.mem_cons_of_mem step hs, hmem⟩

/-- A path made of steps is not empty. -/
lemma joined_ne_empty (hne : steps ≠ []) (h : ∀ step ∈ steps, IsStep step) : joined steps ≠ "" := by
  obtain ⟨c, rest, hlist, -⟩ := exists_joined_eq hne h
  intro hempty
  rw [hempty] at hlist
  cases hlist

/-! ### Names -/

/-- The names in a path. -/
def names (p : Path) : List String := p.pieces.filter (· ≠ "")

/-- The names in a path made of steps are the steps. -/
lemma names_joined (h : ∀ step ∈ steps, IsStep step) : names ⟨joined steps⟩ = steps := by
  by_cases hne : steps = []
  · rw [hne]
    rfl
  · unfold names
    rw [pieces_joined hne h, List.filter_eq_self]
    intro step hstep
    exact decide_eq_true (h step hstep).ne_empty

/-- The pieces of two texts with a slash between them. -/
lemma pieces_append_slash (text rest : String) :
    pieces ⟨text ++ "/" ++ rest⟩ = pieces ⟨text⟩ ++ pieces ⟨rest⟩ := by
  have htoList : (text ++ "/" ++ rest).toList = text.toList ++ '/' :: rest.toList := by simp
  unfold pieces
  dsimp only
  rw [htoList, Text.split_append_sep, List.map_append]

/-- The names in two texts with a slash between them. -/
lemma names_append_slash (text rest : String) :
    names ⟨text ++ "/" ++ rest⟩ = names ⟨text⟩ ++ names ⟨rest⟩ := by
  unfold names
  rw [pieces_append_slash, List.filter_append]

/-- A slash at the end of a path makes no name. -/
lemma names_slash (text : String) : names ⟨text ++ "/"⟩ = names ⟨text⟩ := by
  have happend := names_append_slash text ""
  rw [String.append_empty] at happend
  rw [happend]
  exact List.append_nil _

/-! ### Names and first pieces -/

variable {p : Path} {step : String}

/-- No piece of a path has a slash in it. -/
lemma slash_notMem_of_mem_pieces (h : step ∈ p.pieces) : '/' ∉ step.toList := by
  obtain ⟨piece, hpiece, rfl⟩ := List.mem_map.mp h
  rw [String.toList_ofList]
  exact Text.notMem_of_mem_split hpiece

/-- A name in a path is an ordinary step, if it neither stays nor goes up. -/
lemma isStep_of_mem_names (h : step ∈ p.names) (hcurrent : step ≠ ".") (hparent : step ≠ "..") :
    IsStep step := by
  obtain ⟨hpiece, hne⟩ := List.mem_filter.mp h
  exact ⟨of_decide_eq_true hne, slash_notMem_of_mem_pieces hpiece, hcurrent, hparent⟩

/-- A path has a first piece. -/
lemma exists_head?_pieces (p : Path) : ∃ first, p.pieces.head? = some first := by
  obtain ⟨first, rest, hsplit⟩ := List.exists_cons_of_ne_nil (Text.split_ne_nil '/' p.text.toList)
  refine ⟨String.ofList first, ?_⟩
  unfold pieces
  rw [hsplit]
  rfl

/-- A path whose first piece is not empty is relative. -/
lemma not_absolute_of_head? (h : p.pieces.head? ≠ some "") : p.isAbsolute = false := by
  apply decide_eq_false
  intro hslash
  obtain ⟨rest, hrest⟩ := List.head?_eq_some_iff.mp hslash
  apply h
  unfold pieces
  rw [hrest, Text.split, if_pos rfl]
  rfl

/-- A path whose first piece is empty starts at the root or is empty. -/
lemma absolute_of_head? (h : p.pieces.head? = some "") (hne : p.text ≠ "") :
    p.isAbsolute = true := by
  have hlist : p.text.toList ≠ [] := fun hnil => hne (String.toList_eq_nil_iff.mp hnil)
  obtain ⟨c, cs, hcs⟩ := List.exists_cons_of_ne_nil hlist
  apply decide_eq_true
  rw [hcs]
  by_cases hc : c = '/'
  · rw [hc]
    rfl
  · obtain ⟨first, rest, hsplit⟩ := List.exists_cons_of_ne_nil (Text.split_ne_nil '/' cs)
    unfold pieces at h
    rw [hcs, Text.split, if_neg hc, hsplit, List.map_cons, List.head?_cons] at h
    have hnil := congrArg String.toList (Option.some.inj h)
    rw [String.toList_ofList] at hnil
    cases hnil

/-- Slashes at the end of a path change neither its names nor its first piece. -/
lemma dropSlashes_spec (name : String) :
    names ⟨Text.dropSlashes name⟩ = names ⟨name⟩ ∧
      (pieces ⟨Text.dropSlashes name⟩).head? = (pieces ⟨name⟩).head? := by
  have hlist : ∀ cs : List Char,
      names ⟨String.ofList (Text.dropTrailing '/' cs)⟩ = names ⟨String.ofList cs⟩ ∧
        (pieces ⟨String.ofList (Text.dropTrailing '/' cs)⟩).head? =
          (pieces ⟨String.ofList cs⟩).head? := by
    intro cs
    induction cs using List.reverseRecOn with
    | nil => exact ⟨rfl, rfl⟩
    | append_singleton cs c ih =>
      by_cases hc : c = '/'
      · have hconcat : String.ofList (cs ++ ['/']) = String.ofList cs ++ "/" := by
          apply String.toList_inj.mp
          simp
        have hhead : (pieces ⟨String.ofList (cs ++ ['/'])⟩).head? =
            (pieces ⟨String.ofList cs⟩).head? := by
          obtain ⟨first, rest, hsplit⟩ := List.exists_cons_of_ne_nil (Text.split_ne_nil '/' cs)
          unfold pieces
          dsimp only
          rw [String.toList_ofList, String.toList_ofList, Text.split_append_sep, hsplit]
          rfl
        rw [hc, Text.dropTrailing_concat, hhead, hconcat, names_slash]
        exact ih
      · have hlast : (cs ++ [c]).getLast? ≠ some '/' := by simpa using hc
        rw [Text.dropTrailing_of_getLast?_ne hlast]
        exact ⟨rfl, rfl⟩
  have hname := hlist name.toList
  rw [String.ofList_toList] at hname
  exact hname

/-- A relative name stays within its archive if its first piece does not stay and no piece goes
up. -/
lemma isSafe_iff (h : p.isAbsolute = false) :
    Entry.isSafe p.text = true ↔ p.pieces.head? ≠ some "." ∧ ".." ∉ p.pieces := by
  have hrest : (p.pieces.filterMap component?).all Component.isName = true ↔ ".." ∉ p.pieces := by
    rw [List.all_eq_true]
    constructor
    · intro hall hmem
      have hparent : Component.parent ∈ p.pieces.filterMap component? :=
        List.mem_filterMap.mpr ⟨"..", hmem, by decide⟩
      exact absurd (hall _ hparent) (by decide)
    · intro hnone component hcomponent
      obtain ⟨piece, hpiece, hsome⟩ := List.mem_filterMap.mp hcomponent
      unfold component? at hsome
      split at hsome
      · cases hsome
      · have hparent : piece ≠ ".." := fun heq => hnone (heq ▸ hpiece)
        rw [if_neg hparent] at hsome
        cases hsome
        rfl
  have hcomponents : Entry.isSafe p.text = p.components.all Component.isName := rfl
  rw [hcomponents, components, h, if_neg Bool.false_ne_true]
  by_cases hhead : p.pieces.head? = some "."
  · rw [if_pos hhead]
    constructor
    · intro hall
      cases hall
    · rintro ⟨hne, -⟩
      exact absurd hhead hne
  · rw [if_neg hhead, hrest]
    exact (and_iff_right hhead).symm

/-- A path made of steps stays within an archive. -/
lemma isSafe_joined (hne : steps ≠ []) (h : ∀ step ∈ steps, IsStep step) :
    Entry.isSafe (joined steps) = true := by
  apply (isSafe_iff (isAbsolute_joined hne h)).mpr
  rw [pieces_joined hne h]
  constructor
  · intro hhead
    exact (h "." (List.mem_of_head? hhead)).ne_current rfl
  · intro hparent
    exact (h ".." hparent).ne_parent rfl

/-! ### Steps behind a directory -/

/-- What leads to what is below a directory. -/
def lead (directory : Path) : String :=
  if Text.endsWithSlash directory.text then directory.text else directory.text ++ "/"

/-- What leads below a directory has the names of the directory. -/
lemma names_lead (directory : Path) : names ⟨directory.lead⟩ = directory.names := by
  unfold lead
  split
  · rfl
  · exact names_slash directory.text

/-- A text that ends with a slash is another one with a slash behind it. -/
lemma exists_append_slash {text : String} (h : Text.endsWithSlash text = true) :
    ∃ before, text = before ++ "/" := by
  obtain ⟨cs, hcs⟩ := List.getLast?_eq_some_iff.mp (of_decide_eq_true h)
  refine ⟨String.ofList cs, ?_⟩
  apply String.toList_inj.mp
  rw [String.toList_append, String.toList_ofList, hcs]
  rfl

/-- What leads below a directory ends with a slash. -/
lemma exists_lead_eq (directory : Path) : ∃ before, directory.lead = before ++ "/" := by
  unfold lead
  split
  · rename_i hslash
    exact exists_append_slash hslash
  · exact ⟨directory.text, rfl⟩

/-- What leads below a directory is in its path, but for a slash. -/
lemma mem_lead {directory : Path} {c : Char} (hc : c ≠ '/') (h : c ∈ directory.lead.toList) :
    c ∈ directory.text.toList := by
  unfold lead at h
  split at h
  · exact h
  · rw [String.toList_append, List.mem_append] at h
    rcases h with htext | hslash
    · exact htext
    · exact absurd (List.mem_singleton.mp hslash) hc

/-- A path that leads to something below the directory that it is put behind: it is relative, and
neither empty nor ended by a slash. -/
structure LeadsBelow (relative : Path) : Prop where
  ne_empty : relative.text ≠ ""
  not_absolute : relative.isAbsolute = false
  not_slashed : Text.endsWithSlash relative.text = false

/-- A path made of steps leads below a directory. -/
lemma leadsBelow_joined (hne : steps ≠ []) (h : ∀ step ∈ steps, IsStep step) :
    LeadsBelow ⟨joined steps⟩ :=
  ⟨joined_ne_empty hne h, isAbsolute_joined hne h, endsWithSlash_joined hne h⟩

variable {directory relative : Path}

/-- A path that leads below a directory has names. -/
lemma LeadsBelow.names_ne_nil (h : relative.LeadsBelow) : relative.names ≠ [] := by
  have hlist : relative.text.toList ≠ [] := fun hnil =>
    h.ne_empty (String.toList_eq_nil_iff.mp hnil)
  obtain ⟨c, cs, hcs⟩ := List.exists_cons_of_ne_nil hlist
  have hc : c ≠ '/' := by
    have habsolute := of_decide_eq_false h.not_absolute
    rw [hcs] at habsolute
    simpa using habsolute
  obtain ⟨piece, pieces, hpieces⟩ := List.exists_cons_of_ne_nil (Text.split_ne_nil '/' cs)
  have hfirst : String.ofList (c :: piece) ∈ relative.names := by
    unfold names Path.pieces
    rw [hcs, Text.split, if_neg hc, hpieces]
    simp
  exact List.ne_nil_of_mem hfirst

/-- A path behind a directory. -/
lemma join_of_leadsBelow (hdirectory : directory.text ≠ "") (h : relative.LeadsBelow) :
    directory.join relative = ⟨directory.lead ++ relative.text⟩ := by
  unfold join lead
  rw [h.not_absolute]
  by_cases hslash : Text.endsWithSlash directory.text = true
  · simp [hslash]
  · simp [hslash, hdirectory]

/-- A path behind a directory has no character that neither of them has. -/
lemma notMem_join {c : Char} (hc : c ≠ '/') (hdirectory : directory.text ≠ "")
    (hclean : c ∉ directory.text.toList) (h : relative.LeadsBelow)
    (hrelative : c ∉ relative.text.toList) : c ∉ (directory.join relative).text.toList := by
  rw [join_of_leadsBelow hdirectory h, String.toList_append, List.mem_append]
  rintro (hlead | hmem)
  · exact hclean (mem_lead hc hlead)
  · exact hrelative hmem

/-- A path behind a directory is not empty. -/
lemma join_ne_empty (hdirectory : directory.text ≠ "") (h : relative.LeadsBelow) :
    (directory.join relative).text ≠ "" := by
  rw [join_of_leadsBelow hdirectory h]
  intro hempty
  have hlist := congrArg String.toList hempty
  rw [String.toList_append, String.toList_empty] at hlist
  exact h.ne_empty (String.toList_eq_nil_iff.mp (List.append_eq_nil_iff.mp hlist).2)

/-- A path behind a directory starts where the directory does. -/
lemma isAbsolute_join (hdirectory : directory.text ≠ "") (h : relative.LeadsBelow) :
    (directory.join relative).isAbsolute = directory.isAbsolute := by
  have hlist : directory.text.toList ≠ [] := fun hnil =>
    hdirectory (String.toList_eq_nil_iff.mp hnil)
  obtain ⟨c, cs, hcs⟩ := List.exists_cons_of_ne_nil hlist
  have hlead : ∃ rest, directory.lead.toList = c :: rest := by
    unfold lead
    split
    · exact ⟨cs, hcs⟩
    · exact ⟨cs ++ ['/'], by simp [hcs]⟩
  obtain ⟨rest, hrest⟩ := hlead
  unfold isAbsolute
  rw [join_of_leadsBelow hdirectory h, String.toList_append, hrest, hcs]
  rfl

/-- The names of a path behind a directory. -/
lemma names_join (hdirectory : directory.text ≠ "") (h : relative.LeadsBelow) :
    (directory.join relative).names = directory.names ++ relative.names := by
  obtain ⟨before, hlead⟩ := directory.exists_lead_eq
  have hbefore : names ⟨before⟩ = directory.names := by
    rw [← directory.names_lead, hlead, names_slash]
  rw [join_of_leadsBelow hdirectory h, hlead, names_append_slash, hbefore]

/-- A path behind a directory does not end with a slash. -/
lemma endsWithSlash_join (hdirectory : directory.text ≠ "") (h : relative.LeadsBelow) :
    Text.endsWithSlash (directory.join relative).text = false := by
  have hlist : relative.text.toList ≠ [] := fun hnil =>
    h.ne_empty (String.toList_eq_nil_iff.mp hnil)
  obtain ⟨c, rest, hcs⟩ := List.exists_cons_of_ne_nil hlist
  have hlast : relative.text.toList.getLast? ≠ some '/' := of_decide_eq_false h.not_slashed
  rw [join_of_leadsBelow hdirectory h]
  apply decide_eq_false
  rw [hcs, List.getLast?_cons] at hlast
  rw [String.toList_append, hcs, List.getLast?_append, List.getLast?_cons, Option.some_or]
  exact hlast

/-- Steps behind steps behind a directory. -/
lemma join_join (hdirectory : directory.text ≠ "") (hsteps : steps ≠ [])
    (h : ∀ step ∈ steps, IsStep step) (hmore : more ≠ []) (h' : ∀ step ∈ more, IsStep step) :
    (directory.join ⟨joined steps⟩).join ⟨joined more⟩ =
      directory.join ⟨joined (steps ++ more)⟩ := by
  have hboth : ∀ step ∈ steps ++ more, IsStep step := by
    intro step hstep
    rcases List.mem_append.mp hstep with hl | hr
    · exact h step hl
    · exact h' step hr
  have houter := leadsBelow_joined hsteps h
  have hinner := join_ne_empty hdirectory houter
  have hlead : (directory.join ⟨joined steps⟩).lead = directory.lead ++ joined steps ++ "/" := by
    rw [lead, endsWithSlash_join hdirectory houter, join_of_leadsBelow hdirectory houter]
    rfl
  have hne : steps ++ more ≠ [] := List.append_ne_nil_of_left_ne_nil hsteps more
  rw [join_of_leadsBelow hinner (leadsBelow_joined hmore h'), hlead,
    join_of_leadsBelow hdirectory (leadsBelow_joined hne hboth), joined_append hsteps hmore]
  simp only [String.append_assoc]

end AppLauncher.Path
