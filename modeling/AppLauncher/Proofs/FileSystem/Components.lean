import AppLauncher.Proofs.FileSystem.Walking

/-!
# Where paths with the same components lead

Paths with the same components differ in slashes and in steps that stay.  Such a step, like a slash
at the end, only asks for a directory to stand in, so it can stop a walk but not divert it: a walk
that gets to a node or to a link gets there without these steps, too (`advance_bare`).  Links on the
way put steps of their own in front of the rest, which is why walks are compared step for step and
not with the walk without any steps that stay (`node_eq_of_follow`).

Two paths with the same components that both lead somewhere therefore lead to the same
(`FileSystem.node_unique`), and one content is read at both (`FileSystem.read_unique`).
-/

namespace AppLauncher

/-! ### Steps without those that stay -/

namespace Path

/-- The component that a step stands for is the step again, if the step counts. -/
lemma component?_injective {step step' : String} (h : (component? step).isSome)
    (heq : component? step = component? step') : step = step' := by
  unfold component? at h heq
  by_cases hblank : step = "" ∨ step = "."
  · rw [if_pos hblank] at h
    cases h
  · rw [if_neg hblank] at heq
    by_cases hblank' : step' = "" ∨ step' = "."
    · rw [if_pos hblank'] at heq
      split at heq <;> cases heq
    · rw [if_neg hblank'] at heq
      by_cases hup : step = ".."
      · by_cases hup' : step' = ".."
        · rw [hup, hup']
        · rw [if_pos hup, if_neg hup'] at heq
          cases heq
      · by_cases hup' : step' = ".."
        · rw [if_neg hup, if_pos hup'] at heq
          cases heq
        · rw [if_neg hup, if_neg hup'] at heq
          cases heq
          rfl

/-- Pieces that stand for the same components are the same, apart from those that do not count. -/
lemma filter_eq_of_filterMap_component? {pieces pieces' : List String}
    (h : pieces.filterMap component? = pieces'.filterMap component?) :
    pieces.filter (fun step => (component? step).isSome) =
      pieces'.filter fun step => (component? step).isSome := by
  induction pieces generalizing pieces' with
  | nil =>
    rw [List.filterMap_nil] at h
    rw [List.filter_nil, eq_comm, List.filter_eq_nil_iff]
    intro step hstep hsome
    have hnone := List.filterMap_eq_nil_iff.mp h.symm step hstep
    rw [hnone] at hsome
    cases hsome
  | cons step pieces ih =>
    cases hstep : component? step with
    | none =>
      rw [List.filterMap_cons_none hstep] at h
      rw [List.filter_cons_of_neg (by simp [hstep]), ih h]
    | some component =>
      rw [List.filterMap_cons_some hstep, eq_comm, List.filterMap_eq_cons_iff] at h
      obtain ⟨skipped, step', rest, rfl, hskipped, hstep', hrest⟩ := h
      have heq : step = step' := component?_injective (by rw [hstep]; rfl) (hstep.trans hstep'.symm)
      have hnone : skipped.filter (fun step => (component? step).isSome) = [] := by
        rw [List.filter_eq_nil_iff]
        intro s hs hsome
        rw [hskipped s hs] at hsome
        cases hsome
      rw [List.filter_append, hnone, List.nil_append, List.filter_cons_of_pos (by simp [hstep]),
        List.filter_cons_of_pos (by simp [hstep']), heq, ih hrest.symm]

/-- No piece of a path stands for the root or for the directory that a path starts in. -/
lemma component?_ne {step : String} {component : Component} (h : component? step = some component) :
    component ≠ .root ∧ component ≠ .current := by
  unfold component? at h
  split at h
  · cases h
  · split at h <;> cases h <;> exact ⟨Component.noConfusion, Component.noConfusion⟩

/-- A path starts at the root just if its components do. -/
lemma isAbsolute_iff (p : Path) : p.isAbsolute = true ↔ p.components.head? = some .root := by
  have hpieces : ∀ component, (p.pieces.filterMap component?).head? = some component →
      component ≠ .root ∧ component ≠ .current := by
    intro component hhead
    obtain ⟨step, -, hstep⟩ := List.mem_filterMap.mp (List.mem_of_head? hhead)
    exact component?_ne hstep
  unfold components
  by_cases habsolute : p.isAbsolute = true
  · simp [habsolute]
  · refine iff_of_false habsolute ?_
    dsimp only
    rw [if_neg habsolute]
    split
    · intro h
      cases h
    · exact fun h => (hpieces _ h).1 rfl

/-- The components of a path apart from a start at the root or in a directory. -/
lemma filterMap_components (p : Path) :
    p.components.filter (fun c => c ≠ .root ∧ c ≠ .current) = p.pieces.filterMap component? := by
  have hkept : (p.pieces.filterMap component?).filter (fun c => c ≠ .root ∧ c ≠ .current) =
      p.pieces.filterMap component? := by
    rw [List.filter_eq_self]
    intro component hmem
    obtain ⟨step, -, hstep⟩ := List.mem_filterMap.mp hmem
    exact decide_eq_true (component?_ne hstep)
  unfold components
  dsimp only
  split
  · rw [List.filter_cons_of_neg (by simp), hkept]
  · split
    · rw [List.filter_cons_of_neg (by simp), hkept]
    · exact hkept

/-- A slash at the end adds an empty piece. -/
lemma pieces_slash (text : String) : pieces ⟨text ++ "/"⟩ = pieces ⟨text⟩ ++ [""] := by
  have happend := pieces_append_slash text ""
  rw [String.append_empty] at happend
  exact happend

/-- What stands behind a slash adds its components to those in front of it. -/
lemma components_append (text rest : String) : components ⟨text ++ "/" ++ rest⟩ =
    components ⟨text ++ "/"⟩ ++ (pieces ⟨rest⟩).filterMap component? := by
  obtain ⟨first, hfirst⟩ := exists_head?_pieces ⟨text⟩
  have habsolute : isAbsolute ⟨text ++ "/" ++ rest⟩ = isAbsolute ⟨text ++ "/"⟩ := by
    unfold isAbsolute
    simp only [String.toList_append, List.append_assoc]
    cases text.toList <;> rfl
  have hhead : ∀ more, (pieces ⟨text⟩ ++ more).head? = some first := by
    intro more
    rw [List.head?_append, hfirst, Option.some_or]
  unfold components
  dsimp only
  rw [habsolute, pieces_append_slash, pieces_slash, hhead, hhead, List.filterMap_append,
    List.filterMap_append]
  have hempty : [""].filterMap component? = [] := rfl
  rw [hempty, List.append_nil]
  split
  · rfl
  · split <;> rfl

/-- A slash at the end adds no component. -/
lemma components_slash {text : String} (h : text ≠ "") :
    components ⟨text ++ "/"⟩ = components ⟨text⟩ := by
  obtain ⟨first, hfirst⟩ := exists_head?_pieces ⟨text⟩
  have habsolute : isAbsolute ⟨text ++ "/"⟩ = isAbsolute ⟨text⟩ := by
    obtain ⟨c, cs, hcs⟩ :=
      List.exists_cons_of_ne_nil fun hnil => h (String.toList_eq_nil_iff.mp hnil)
    unfold isAbsolute
    rw [String.toList_append, hcs]
    rfl
  have hempty : [""].filterMap component? = [] := rfl
  unfold components
  dsimp only
  rw [habsolute, pieces_slash, List.head?_append, hfirst, Option.some_or, List.filterMap_append,
    hempty, List.append_nil]

/-- Only the empty path has no components. -/
lemma components_eq_nil {p : Path} (h : p.components = []) : p.text = "" := by
  by_contra hne
  obtain ⟨first, hfirst⟩ := exists_head?_pieces p
  obtain ⟨rest, hrest⟩ := List.head?_eq_some_iff.mp hfirst
  unfold components at h
  dsimp only at h
  split at h
  · cases h
  · rename_i habsolute
    split at h
    · cases h
    · rename_i hcurrent
      rw [hrest, List.head?_cons] at hcurrent
      have hempty : first ≠ "" := by
        rintro rfl
        exact habsolute (absolute_of_head? hfirst hne)
      rw [hrest, List.filterMap_cons, component?, if_neg] at h
      · by_cases hup : first = ".."
        · rw [if_pos hup] at h
          cases h
        · rw [if_neg hup] at h
          cases h
      · rintro (rfl | rfl)
        · exact hempty rfl
        · exact hcurrent rfl

/-- The components of a relative path behind a directory follow those of the directory. -/
lemma components_join_of_relative {directory relative : Path} (hne : directory.text ≠ "")
    (hrelative : relative.isAbsolute = false) : (directory.join relative).components =
      directory.components ++ relative.pieces.filterMap component? := by
  obtain ⟨before, hbefore⟩ := exists_lead_eq directory
  have hlead : directory.join relative = ⟨before ++ "/" ++ relative.text⟩ := by
    rw [← hbefore]
    unfold join lead
    rw [if_neg (by simp [hrelative])]
    by_cases hslash : Text.endsWithSlash directory.text = true
    · rw [if_pos (.inr hslash), if_pos hslash]
    · rw [if_neg (by simp [hne, hslash]), if_neg hslash]
  have hcomponents : components ⟨before ++ "/"⟩ = directory.components := by
    rw [← hbefore]
    unfold lead
    split
    · rfl
    · exact components_slash hne
  rw [hlead, components_append, hcomponents]

/-- What is below paths with the same components has the same components. -/
lemma components_join {p q : Path} (h : p.components = q.components) (relative : Path) :
    (p.join relative).components = (q.join relative).components := by
  by_cases hrelative : relative.isAbsolute = true
  · unfold join
    rw [if_pos hrelative, if_pos hrelative]
  · rw [Bool.not_eq_true] at hrelative
    by_cases hp : p.text = ""
    · have hpath : p = ⟨""⟩ := congrArg Path.mk hp
      have hq : q.text = "" := components_eq_nil (by rw [← h, hpath]; rfl)
      rw [hpath, show q = ⟨""⟩ from congrArg Path.mk hq]
    · have hq : q.text ≠ "" := by
        intro hq
        refine hp (components_eq_nil ?_)
        rw [h, show q = ⟨""⟩ from congrArg Path.mk hq]
        rfl
      rw [components_join_of_relative hp hrelative, components_join_of_relative hq hrelative, h]

end Path

namespace FileSystem

/-- Steps without those that stay. -/
def bare (steps : List String) : List String := steps.filter (· ≠ ".")

/-- What stands before and behind is bared on its own. -/
lemma bare_append (steps more : List String) : bare (steps ++ more) = bare steps ++ bare more :=
  List.filter_append _ _

/-- The steps of paths with the same components are the same, apart from those that stay. -/
lemma bare_steps {p q : Path} (h : p.components = q.components) :
    bare (steps p) = bare (steps q) := by
  have hbare : ∀ path : Path, bare (steps path) =
      path.pieces.filter fun step => (Path.component? step).isSome := by
    intro path
    have hnames : bare path.names =
        path.pieces.filter fun step => (Path.component? step).isSome := by
      unfold bare Path.names
      rw [List.filter_filter]
      refine List.filter_congr fun step _ => ?_
      unfold Path.component?
      by_cases hcurrent : step = "."
      · simp [hcurrent]
      · by_cases hempty : step = ""
        · simp [hempty]
        · rw [if_neg (by simp [hcurrent, hempty])]
          split <;> simp [hcurrent, hempty]
    rcases steps_eq path with hsteps | hsteps
    · rw [hsteps, hnames]
    · rw [hsteps, bare_append, hnames]
      exact List.append_nil _
  rw [hbare, hbare, Path.filter_eq_of_filterMap_component?]
  rw [← Path.filterMap_components, ← Path.filterMap_components, h]

/-! ### Walks -/

variable {root : Node}

/-- A walk that gets to a node or to a link gets there without the steps that stay. -/
lemma advance_bare (root : Node) (location steps : List String) :
    match advance root true location steps with
    | .place (.found l node) => advance root true location (bare steps) = .place (.found l node)
    | .link directory target rest =>
      advance root true location (bare steps) = .link directory target (bare rest)
    | _ => True := by
  induction steps generalizing location with
  | nil =>
    show match advance root true location [] with
      | .place (.found l node) => advance root true location [] = .place (.found l node)
      | .link directory target rest =>
        advance root true location [] = .link directory target (bare rest)
      | _ => True
    rw [advance]
    cases root.at? location with
    | none => trivial
    | some node => rfl
  | cons step rest ih =>
    by_cases hstay : step = "."
    · have hbare : bare (step :: rest) = bare rest := List.filter_cons_of_neg (by simp [hstay])
      rw [hbare, advance]
      cases root.at? location with
      | none => trivial
      | some node =>
        cases node with
        | directory children =>
          dsimp only
          rw [if_pos hstay]
          exact ih location
        | _ => trivial
    · have hbare : bare (step :: rest) = step :: bare rest :=
        List.filter_cons_of_pos (by simpa using hstay)
      rw [hbare, advance, advance]
      cases root.at? location with
      | none => trivial
      | some node =>
        cases node with
        | directory children =>
          dsimp only
          rw [if_neg hstay, if_neg hstay]
          by_cases hup : step = ".."
          · rw [if_pos hup, if_pos hup]
            exact ih location.dropLast
          · rw [if_neg hup, if_neg hup]
            by_cases hlong : step.utf8ByteSize > maxNameLength
            · rw [if_pos hlong]
              trivial
            · rw [if_neg hlong, if_neg hlong]
              cases children.get? step with
              | none =>
                dsimp only
                by_cases hrest : rest = []
                · rw [if_pos hrest]
                  trivial
                · rw [if_neg hrest]
                  trivial
              | some child =>
                cases child with
                | link target => simp
                | _ => exact ih (location ++ [step])
        | _ => trivial

/-- Walks with the same steps, apart from those that stay, that both get to a node get to the
same. -/
lemma node_eq_of_follow {links : Nat} {location steps steps' l l' : List String}
    {node node' : Node} (hbare : bare steps = bare steps')
    (h : follow root true links location steps = .ok (.found l node))
    (h' : follow root true links location steps' = .ok (.found l' node')) : node = node' := by
  induction links using Nat.strongRecOn generalizing location steps steps' with
  | ind links ih =>
    have hsteps := advance_bare root location steps
    have hsteps' := advance_bare root location steps'
    rw [← hbare] at hsteps'
    rw [follow.eq_def] at h h'
    cases hadvance : advance root true location steps with
    | fault fault =>
      rw [hadvance] at h
      cases h
    | place place =>
      rw [hadvance] at h hsteps
      cases h
      cases hadvance' : advance root true location steps' with
      | fault fault =>
        rw [hadvance'] at h'
        cases h'
      | place place' =>
        rw [hadvance'] at h' hsteps'
        cases h'
        rw [hsteps] at hsteps'
        cases hsteps'
        rfl
      | link directory target rest =>
        rw [hadvance'] at hsteps'
        dsimp only at hsteps hsteps'
        rw [hsteps] at hsteps'
        cases hsteps'
    | link directory target rest =>
      rw [hadvance] at h hsteps
      cases hadvance' : advance root true location steps' with
      | fault fault =>
        rw [hadvance'] at h'
        cases h'
      | place place' =>
        rw [hadvance'] at h' hsteps'
        cases h'
        dsimp only at hsteps hsteps'
        rw [hsteps] at hsteps'
        cases hsteps'
      | link directory' target' rest' =>
        rw [hadvance'] at h' hsteps'
        dsimp only at hsteps hsteps'
        rw [hsteps] at hsteps'
        obtain ⟨rfl, rfl, hrest⟩ := Halt.link.inj hsteps'
        cases links with
        | zero => cases h
        | succ links =>
          refine ih links (Nat.lt_succ_self links) ?_ h h'
          rw [bare_append, bare_append, hrest]

variable {files : FileSystem} {p q : Path}

/-- Paths with the same components that both lead somewhere lead to the same. -/
theorem node_unique (h : p.components = q.components) {node node' : Node}
    (hp : files.node p = .ok node) (hq : files.node q = .ok node') : node = node' := by
  obtain ⟨-, -, l, hl⟩ := walk_of_node hp
  obtain ⟨-, -, l', hl'⟩ := walk_of_node hq
  have habsolute : p.isAbsolute = q.isAbsolute := by
    rw [Bool.eq_iff_iff, Path.isAbsolute_iff, Path.isAbsolute_iff, h]
  rw [habsolute] at hl
  exact node_eq_of_follow (bare_steps h) hl hl'

/-- What is read at two paths with the same components is the same. -/
theorem read_unique (h : p.components = q.components) {content content' : List UInt8}
    (hp : files.read p = .ok content) (hq : files.read q = .ok content') : content = content' := by
  unfold FileSystem.read at hp hq
  cases hnode : files.node p with
  | error fault =>
    rw [hnode] at hp
    cases hp
  | ok node =>
    cases hnode' : files.node q with
    | error fault =>
      rw [hnode'] at hq
      cases hq
    | ok node' =>
      rw [hnode] at hp
      rw [hnode', ← node_unique h hnode hnode'] at hq
      exact Except.ok.inj (hp.symm.trans hq)

end FileSystem

end AppLauncher
