import AppLauncher.FileSystem.Access
import AppLauncher.Proofs.Path

/-!
# Walking on from a directory

A path that goes on behind a directory is walked as if it started there (`follow_append`), however
the walk got to the directory, and whether or not a slash stands between (`follow_current`).  In a
tree of directories and regular files (`Node.IsTree`) there are no links to follow, so such a walk
ends at the node of the location or nowhere (`advance_of_isTree`).

Both together say what stands at a path below a directory: the node of the tree that the steps lead
to, unless the path is too long (`node_join`).
-/

namespace AppLauncher.FileSystem

/-! ### Trees of directories and regular files -/

/-- A name that a plain tree gives to a node. -/
structure IsPlainName (name : String) : Prop extends Path.IsStep name where
  nul_notMem : '\x00' ∉ name.toList
  backslash_notMem : '\\' ∉ name.toList
  short : name.utf8ByteSize ≤ maxNameLength

instance : DecidablePred IsPlainName := fun name =>
  decidable_of_iff (Path.IsStep name ∧ '\x00' ∉ name.toList ∧ '\\' ∉ name.toList ∧
      name.utf8ByteSize ≤ maxNameLength)
    ⟨fun ⟨hstep, hnul, hbackslash, hshort⟩ => ⟨hstep, hnul, hbackslash, hshort⟩,
      fun ⟨hstep, hnul, hbackslash, hshort⟩ => ⟨hstep, hnul, hbackslash, hshort⟩⟩

mutual

/-- A node that is a regular file, or a directory of such nodes. -/
def Node.IsPlain : Node → Prop
  | .file _ => True
  | .image _ => True
  | .directory children => children.IsPlain
  | .link _ => False
  | .null => False

/-- Children with plain names, no two of them the same, that are plain nodes. -/
def Forest.IsPlain : Forest → Prop
  | .nil => True
  | .cons name node rest =>
    IsPlainName name ∧ rest.get? name = none ∧ node.IsPlain ∧ rest.IsPlain

end

mutual

/-- Whether a node is plain. -/
def Node.decideIsPlain : (node : Node) → Decidable node.IsPlain
  | .file _ => isTrue trivial
  | .image _ => isTrue trivial
  | .directory children => Forest.decideIsPlain children
  | .link _ => isFalse id
  | .null => isFalse id

/-- Whether all children are plain. -/
def Forest.decideIsPlain : (forest : Forest) → Decidable forest.IsPlain
  | .nil => isTrue trivial
  | .cons name node rest =>
    have := Node.decideIsPlain node
    have := Forest.decideIsPlain rest
    inferInstanceAs (Decidable
      (IsPlainName name ∧ rest.get? name = none ∧ node.IsPlain ∧ rest.IsPlain))

end

instance : DecidablePred Node.IsPlain := Node.decideIsPlain

instance : DecidablePred Forest.IsPlain := Forest.decideIsPlain

/-- A name that a directory can have for something in it. -/
structure IsName (name : String) : Prop extends Path.IsStep name where
  nul_notMem : '\x00' ∉ name.toList
  short : name.utf8ByteSize ≤ maxNameLength

/-- Plain names are names. -/
lemma IsPlainName.isName {name : String} (h : IsPlainName name) : IsName name :=
  ⟨h.toIsStep, h.nul_notMem, h.short⟩

mutual

/-- A node that is a regular file, or a directory of such nodes, with names of which something is
required. -/
def Node.IsTree (required : String → Prop) : Node → Prop
  | .file _ => True
  | .image _ => True
  | .directory children => children.IsTree required
  | .link _ => False
  | .null => False

/-- Children that are such nodes, no two of them with the same name. -/
def Forest.IsTree (required : String → Prop) : Forest → Prop
  | .nil => True
  | .cons name node rest =>
    required name ∧ rest.get? name = none ∧ node.IsTree required ∧ rest.IsTree required

end

mutual

/-- A node is plain exactly if it is a tree with plain names. -/
lemma Node.isPlain_iff : (node : Node) → (node.IsPlain ↔ node.IsTree IsPlainName)
  | .file _ => Iff.rfl
  | .image _ => Iff.rfl
  | .directory children => Forest.isPlain_iff children
  | .link _ => Iff.rfl
  | .null => Iff.rfl

/-- Children are plain exactly if they are trees with plain names. -/
lemma Forest.isPlain_iff : (forest : Forest) → (forest.IsPlain ↔ forest.IsTree IsPlainName)
  | .nil => Iff.rfl
  | .cons _ node rest => and_congr_right fun _ => and_congr_right fun _ =>
    and_congr (Node.isPlain_iff node) (Forest.isPlain_iff rest)

end

mutual

/-- Less may be required of the names. -/
lemma Node.IsTree.mono {required weaker : String → Prop}
    (himp : ∀ name, required name → weaker name) :
    (node : Node) → node.IsTree required → node.IsTree weaker
  | .file _, _ => trivial
  | .image _, _ => trivial
  | .directory children, h => Forest.IsTree.mono himp children h
  | .link _, h => h
  | .null, h => h

/-- Less may be required of the names of children. -/
lemma Forest.IsTree.mono {required weaker : String → Prop}
    (himp : ∀ name, required name → weaker name) :
    (forest : Forest) → forest.IsTree required → forest.IsTree weaker
  | .nil, _ => trivial
  | .cons name node rest, ⟨hname, hfree, hnode, hrest⟩ =>
    ⟨himp name hname, hfree, Node.IsTree.mono himp node hnode, Forest.IsTree.mono himp rest hrest⟩

end

/-- A plain node is a tree. -/
lemma Node.IsPlain.isTree {node : Node} (h : node.IsPlain) : node.IsTree IsName :=
  Node.IsTree.mono (fun _ hname => hname.isName) node (node.isPlain_iff.mp h)

/-- Plain children are trees. -/
lemma Forest.IsPlain.isTree {forest : Forest} (h : forest.IsPlain) : forest.IsTree IsName :=
  Forest.IsTree.mono (fun _ hname => hname.isName) forest (forest.isPlain_iff.mp h)

variable {required : String → Prop}

/-- A child of a tree is a tree, and its name is as required. -/
lemma Forest.IsTree.of_get? {forest : Forest} (h : forest.IsTree required) {name : String}
    {node : Node} (hget : forest.get? name = some node) : required name ∧ node.IsTree required :=
  match forest with
  | .nil => by cases hget
  | .cons other child rest => by
    obtain ⟨hname, -, hchild, hrest⟩ := h
    unfold Forest.get? at hget
    split at hget
    · rename_i heq
      cases hget
      rw [← heq]
      exact ⟨hname, hchild⟩
    · exact of_get? hrest hget

namespace Node

/-- What is behind a location is found from there. -/
lemma at?_append (node : Node) (steps more : List String) :
    node.at? (steps ++ more) = (node.at? steps).bind (·.at? more) := by
  induction steps generalizing node with
  | nil => rfl
  | cons step steps ih =>
    cases node with
    | directory children =>
      rw [List.cons_append, at?, at?]
      cases children.get? step with
      | none => rfl
      | some child => exact ih child
    | _ => rfl

/-- What is below a directory is below one of its children. -/
lemma at?_cons (children : Forest) (step : String) (steps : List String) :
    (directory children).at? (step :: steps) = (children.get? step).bind (·.at? steps) := rfl

/-- What is in a tree is a tree, and the names on the way are as required. -/
lemma IsTree.of_at? {node found : Node} (h : node.IsTree required) {steps : List String}
    (hat : node.at? steps = some found) :
    found.IsTree required ∧ ∀ step ∈ steps, required step := by
  induction steps generalizing node with
  | nil =>
    cases hat
    exact ⟨h, fun step hstep => absurd hstep List.not_mem_nil⟩
  | cons step steps ih =>
    cases node with
    | directory children =>
      rw [at?_cons] at hat
      obtain ⟨child, hchild, hrest⟩ := Option.bind_eq_some_iff.mp hat
      obtain ⟨hname, htree⟩ := Forest.IsTree.of_get? h hchild
      obtain ⟨hfound, hsteps⟩ := ih htree hrest
      refine ⟨hfound, fun s hs => ?_⟩
      rcases List.mem_cons.mp hs with rfl | hs
      · exact hname
      · exact hsteps s hs
    | _ => cases hat

/-- What is in a plain node is plain, and so are the names on the way. -/
lemma IsPlain.of_at? {node found : Node} (h : node.IsPlain) {steps : List String}
    (hat : node.at? steps = some found) : found.IsPlain ∧ ∀ step ∈ steps, IsPlainName step := by
  obtain ⟨hfound, hsteps⟩ := (node.isPlain_iff.mp h).of_at? hat
  exact ⟨found.isPlain_iff.mpr hfound, hsteps⟩

/-- The steps to something in a tree are ordinary. -/
lemma IsTree.isStep {node found : Node} (h : node.IsTree IsName) {steps : List String}
    (hat : node.at? steps = some found) : ∀ step ∈ steps, Path.IsStep step :=
  fun step hstep => ((h.of_at? hat).2 step hstep).toIsStep

end Node

/-- The steps to something in a tree are ordinary. -/
lemma Forest.IsTree.isStep {tree : Forest} (h : tree.IsTree IsName) {steps : List String}
    {found : Node} (hat : (Node.directory tree).at? steps = some found) :
    ∀ step ∈ steps, Path.IsStep step := by
  have hnode : (Node.directory tree).IsTree IsName := h
  exact hnode.isStep hat

/-! ### Walks that go on -/

variable {root : Node}

/-- A walk that goes on stops where it stopped, unless it had come to its end. -/
lemma advance_append (location steps more : List String) :
    advance root true location (steps ++ more) =
      match advance root true location steps with
      | .place (.found location _) => advance root true location more
      | .place (.vacant directory name) =>
        if more = [] then .place (.vacant directory name) else .fault .notFound
      | .link directory target rest => .link directory target (rest ++ more)
      | .fault fault => .fault fault := by
  induction steps generalizing location with
  | nil =>
    rw [List.nil_append, advance]
    cases hat : root.at? location with
    | some node => rfl
    | none => cases more <;> simp [advance, hat]
  | cons step steps ih =>
    rw [List.cons_append, advance, advance]
    cases root.at? location with
    | none => rfl
    | some node =>
      cases node with
      | directory children =>
        dsimp only
        split
        · exact ih location
        split
        · exact ih location.dropLast
        split
        · rfl
        cases children.get? step with
        | none =>
          dsimp only
          by_cases hsteps : steps = []
          · simp [hsteps]
          · simp [hsteps]
        | some child =>
          cases child with
          | link target => simp
          | _ => exact ih (location ++ [step])
      | _ => rfl

/-- A step that stays does not count in front of others. -/
lemma advance_current (location : List String) {more : List String} (hmore : more ≠ []) :
    advance root true location ("." :: more) = advance root true location more := by
  obtain ⟨step, rest, rfl⟩ := List.exists_cons_of_ne_nil hmore
  rw [advance]
  cases hat : root.at? location with
  | none => simp [advance, hat]
  | some node => cases node <;> simp [advance, hat]

/-- A step that stays does not count between others, wherever the links on the way lead. -/
lemma follow_current {more : List String} (hmore : more ≠ []) (links : Nat)
    (location steps : List String) :
    follow root true links location (steps ++ "." :: more) =
      follow root true links location (steps ++ more) := by
  induction links using Nat.strongRecOn generalizing location steps with
  | ind links ih =>
    rw [follow.eq_def, follow.eq_def root true links location (steps ++ more), advance_append,
      advance_append]
    cases advance root true location steps with
    | place place =>
      cases place with
      | found l node => simp [advance_current l hmore]
      | vacant directory name => simp [hmore]
    | fault fault => rfl
    | link directory target rest =>
      cases links with
      | zero => rfl
      | succ links =>
        have hrest := ih links (Nat.lt_succ_self links)
          (if target.isAbsolute then [] else directory) (FileSystem.steps target ++ rest)
        simpa only [List.append_assoc] using hrest

/-- A walk that goes on from a node without meeting a link ends as if it had started there. -/
lemma follow_append {more : List String} {links : Nat} {location steps l : List String}
    {node : Node} (hfound : follow root true links location steps = .ok (.found l node))
    (hlinks : ∀ directory target rest, advance root true l more ≠ .link directory target rest)
    (links' : Nat) :
    follow root true links location (steps ++ more) = follow root true links' l more := by
  have hmore : ∀ n, follow root true n l more = follow root true links' l more := by
    intro n
    rw [follow.eq_def, follow.eq_def]
    cases hadvance : advance root true l more with
    | place place => rfl
    | fault fault => rfl
    | link directory target rest => exact absurd hadvance (hlinks directory target rest)
  induction links using Nat.strongRecOn generalizing location steps with
  | ind links ih =>
    rw [follow.eq_def] at hfound
    rw [follow.eq_def root true links location, advance_append]
    cases hadvance : advance root true location steps with
    | place place =>
      rw [hadvance] at hfound
      cases hfound
      rw [← hmore links, follow.eq_def]
    | fault fault =>
      rw [hadvance] at hfound
      cases hfound
    | link directory target rest =>
      rw [hadvance] at hfound
      cases links with
      | zero => cases hfound
      | succ links =>
        have hrest := ih links (Nat.lt_succ_self links) hfound
        simpa only [List.append_assoc] using hrest

/-! ### Walks in trees -/

/-- What a walk from a node comes to.  Steps that stay do not count, but one at the end asks for a
directory. -/
def Node.reach? (node : Node) (steps : List String) : Option Node :=
  (node.at? (steps.filter (· ≠ "."))).filter fun found =>
    steps.getLast? ≠ some "." ∨ found.isDirectory

namespace Node

/-- Without steps that stay a walk comes to what stands there. -/
lemma reach?_of_isStep (node : Node) {steps : List String}
    (h : ∀ step ∈ steps, Path.IsStep step) : node.reach? steps = node.at? steps := by
  have hkept : steps.filter (· ≠ ".") = steps := by
    rw [List.filter_eq_self]
    intro step hstep
    exact decide_eq_true (h step hstep).ne_current
  have hlast : steps.getLast? ≠ some "." := fun hlast =>
    (h "." (List.mem_of_getLast? hlast)).ne_current rfl
  unfold reach?
  rw [hkept]
  cases node.at? steps <;> simp [hlast]

/-- In a directory a step that stays does not count. -/
lemma reach?_current (children : Forest) (rest : List String) :
    (directory children).reach? ("." :: rest) = (directory children).reach? rest := by
  unfold reach?
  rw [List.filter_cons_of_neg (by simp)]
  cases rest with
  | nil => rfl
  | cons next rest => rw [List.getLast?_cons_cons]

/-- A step into a directory leads to one of its children. -/
lemma reach?_cons (children : Forest) {step : String} (hstep : step ≠ ".") (rest : List String) :
    (directory children).reach? (step :: rest) =
      (children.get? step).bind (·.reach? rest) := by
  unfold reach?
  rw [List.filter_cons_of_pos (by simpa using hstep), at?_cons]
  cases children.get? step with
  | none => rfl
  | some child =>
    cases rest with
    | nil => simp [hstep, at?]
    | cons next rest =>
      rw [List.getLast?_cons_cons]
      rfl

/-- There are no steps from a node that is not a directory. -/
lemma reach?_of_not_isDirectory {node : Node} (hnode : node.isDirectory = false) (step : String)
    (rest : List String) : node.reach? (step :: rest) = none := by
  have hat : ∀ l : List String, l ≠ [] → node.at? l = none := by
    intro l hl
    obtain ⟨s, more, rfl⟩ := List.exists_cons_of_ne_nil hl
    cases node with
    | directory children => cases hnode
    | _ => rfl
  unfold reach?
  by_cases hkept : (step :: rest).filter (· ≠ ".") = []
  · have hall := List.filter_eq_nil_iff.mp hkept
    obtain ⟨last, hlast⟩ : ∃ last, (step :: rest).getLast? = some last :=
      ⟨_, List.getLast?_eq_some_getLast (List.cons_ne_nil step rest)⟩
    have hcurrent : last = "." := by
      simpa using hall last (List.mem_of_getLast? hlast)
    rw [hkept, hlast, hcurrent]
    simp [at?, hnode]
  · rw [hat _ hkept]
    rfl

end Node

/-- A walk in a tree comes to its end, or nowhere. -/
lemma advance_of_isTree {steps location : List String} {node : Node}
    (hat : root.at? location = some node) (hnode : node.IsTree IsName)
    (hsteps : ∀ step ∈ steps, step = "." ∨ Path.IsStep step) :
    match node.reach? steps with
    | some found => advance root true location steps =
        .place (.found (location ++ steps.filter (· ≠ ".")) found)
    | none =>
      (∃ directory name, advance root true location steps = .place (.vacant directory name)) ∨
        ∃ fault, advance root true location steps = .fault fault := by
  induction steps generalizing location node with
  | nil =>
    rw [advance, hat]
    exact congrArg (fun l => Halt.place (.found l node)) (List.append_nil location).symm
  | cons step rest ih =>
    have hrest : ∀ s ∈ rest, s = "." ∨ Path.IsStep s := fun s hs =>
      hsteps s (List.mem_cons_of_mem step hs)
    cases node with
    | directory children =>
      rcases hsteps step List.mem_cons_self with rfl | hstep
      · have hstay :
            advance root true location ("." :: rest) = advance root true location rest := by
          rw [advance, hat]
          exact if_pos rfl
        rw [Node.reach?_current, hstay, List.filter_cons_of_neg (by simp)]
        exact ih hat hnode hrest
      · rw [advance, hat, Node.reach?_cons children hstep.ne_current]
        dsimp only
        rw [if_neg hstep.ne_current, if_neg hstep.ne_parent]
        cases hget : children.get? step with
        | none =>
          rw [Option.bind_none]
          by_cases hlong : step.utf8ByteSize > maxNameLength
          · exact .inr ⟨_, if_pos hlong⟩
          · rw [if_neg hlong]
            by_cases hnil : rest = []
            · exact .inl ⟨_, _, if_pos hnil⟩
            · exact .inr ⟨_, if_neg hnil⟩
        | some child =>
          obtain ⟨hname, hchild⟩ := Forest.IsTree.of_get? hnode hget
          have hbelow : root.at? (location ++ [step]) = some child := by
            rw [Node.at?_append, hat, Option.bind_some, Node.at?_cons, hget]
            rfl
          have hwalk := ih hbelow hchild hrest
          rw [if_neg (Nat.not_lt.mpr hname.short), Option.bind_some,
            List.filter_cons_of_pos (by simpa using hstep.ne_current)]
          rw [List.append_assoc] at hwalk
          cases child with
          | link target => exact absurd hchild (by simp [Node.IsTree])
          | _ => exact hwalk
    | file content =>
      rw [Node.reach?_of_not_isDirectory rfl, advance, hat]
      exact .inr ⟨_, rfl⟩
    | image content =>
      rw [Node.reach?_of_not_isDirectory rfl, advance, hat]
      exact .inr ⟨_, rfl⟩
    | link target => exact absurd hnode (by simp [Node.IsTree])
    | null => exact absurd hnode (by simp [Node.IsTree])

/-- A walk in a tree that leads nowhere finds nothing, unless a name is too long or a file
stands in the way. -/
lemma advance_of_clear {steps location : List String} {node : Node}
    (hat : root.at? location = some node) (hnode : node.IsTree IsName)
    (hsteps : ∀ step ∈ steps, Path.IsStep step)
    (hnames : ∀ step ∈ steps, step.utf8ByteSize ≤ maxNameLength)
    (hclear : ∀ before behind found, steps = before ++ behind → behind ≠ [] →
      node.at? before = some found → found.isDirectory = true)
    (hnone : node.at? steps = none) :
    (∃ directory name, advance root true location steps = .place (.vacant directory name)) ∨
      advance root true location steps = .fault .notFound := by
  induction steps generalizing location node with
  | nil => cases hnone
  | cons step rest ih =>
    have hstep := hsteps step List.mem_cons_self
    have hdirectory := hclear [] (step :: rest) node rfl (List.cons_ne_nil step rest) rfl
    cases node with
    | directory children =>
      rw [Node.at?_cons] at hnone
      rw [advance, hat]
      dsimp only
      rw [if_neg hstep.ne_current, if_neg hstep.ne_parent,
        if_neg (Nat.not_lt.mpr (hnames step List.mem_cons_self))]
      cases hget : children.get? step with
      | none =>
        by_cases hnil : rest = []
        · exact .inl ⟨_, _, if_pos hnil⟩
        · exact .inr (if_neg hnil)
      | some child =>
        have hchild : child.IsTree IsName :=
          (Forest.IsTree.of_get? hnode hget).2
        have hbelow : root.at? (location ++ [step]) = some child := by
          rw [Node.at?_append, hat, Option.bind_some, Node.at?_cons, hget]
          rfl
        rw [hget, Option.bind_some] at hnone
        have hwalk := ih hbelow hchild (fun s hs => hsteps s (List.mem_cons_of_mem step hs))
          (fun s hs => hnames s (List.mem_cons_of_mem step hs))
          (fun before behind found heq hne hfound => by
            refine hclear (step :: before) behind found (by rw [heq]; rfl) hne ?_
            rw [Node.at?_cons, hget]
            exact hfound) hnone
        cases child with
        | link target => exact absurd hchild (by simp [Node.IsTree])
        | _ => exact hwalk
    | _ => cases hdirectory

/-! ### Paths below a directory -/

/-- A walk that ends at a node has come to where the node is. -/
lemma at?_of_advance {location steps l : List String} {node : Node}
    (h : advance root true location steps = .place (.found l node)) : root.at? l = some node := by
  induction steps generalizing location with
  | nil =>
    rw [advance] at h
    cases hat : root.at? location with
    | none =>
      rw [hat] at h
      cases h
    | some found =>
      rw [hat] at h
      cases h
      exact hat
  | cons step rest ih =>
    rw [advance] at h
    cases hat : root.at? location with
    | none =>
      rw [hat] at h
      cases h
    | some standing =>
      rw [hat] at h
      cases standing with
      | directory children =>
        dsimp only at h
        split at h
        · exact ih h
        split at h
        · exact ih h
        split at h
        · cases h
        cases hget : children.get? step with
        | none =>
          rw [hget] at h
          dsimp only at h
          split at h <;> cases h
        | some child =>
          rw [hget] at h
          cases child with
          | link target => simp at h
          | _ => exact ih h
      | _ => cases h

/-- A walk along links that ends at a node has come to where the node is. -/
lemma at?_of_follow {links : Nat} {location steps l : List String} {node : Node}
    (h : follow root true links location steps = .ok (.found l node)) : root.at? l = some node := by
  induction links using Nat.strongRecOn generalizing location steps with
  | ind links ih =>
    rw [follow.eq_def] at h
    cases hadvance : advance root true location steps with
    | place place =>
      rw [hadvance] at h
      cases h
      exact at?_of_advance hadvance
    | fault fault =>
      rw [hadvance] at h
      cases h
    | link directory target rest =>
      rw [hadvance] at h
      cases links with
      | zero => cases h
      | succ links => exact ih links (Nat.lt_succ_self links) h

/-- The steps of a path are its names, and one that stays if a slash follows. -/
lemma steps_eq (p : Path) : steps p = p.names ∨ steps p = p.names ++ ["."] := by
  unfold steps Path.names
  dsimp only
  split
  · exact .inr rfl
  · exact .inl rfl

/-- The steps of a path below a directory. -/
lemma steps_join {directory relative : Path} (hdirectory : directory.text ≠ "")
    (h : relative.LeadsBelow) :
    steps (directory.join relative) = directory.names ++ relative.names := by
  have hslash := Path.endsWithSlash_join hdirectory h
  have hnames := Path.names_join hdirectory h
  unfold Path.names at hnames
  unfold steps Path.names
  dsimp only
  rw [hslash, hnames]
  simp

variable {files : FileSystem} {directory : Path} {node : Node}

/-- A path that leads to a node has been walked. -/
lemma walk_of_node {p : Path} (h : files.node p = .ok node) :
    '\x00' ∉ p.text.toList ∧ p.text ≠ "" ∧ ∃ location, follow files.root true maxLinks
      (if p.isAbsolute then [] else files.working) (steps p) = .ok (.found location node) := by
  unfold FileSystem.node at h
  split at h
  · rename_i location found hresolve
    cases h
    unfold resolve at hresolve
    split at hresolve
    · cases hresolve
    rename_i hnul
    split at hresolve
    · cases hresolve
    split at hresolve
    · cases hresolve
    rename_i hempty
    exact ⟨by simpa using hnul, hempty, location, hresolve⟩
  · cases h
  · cases h

/-- A path below a directory is walked from where the directory is. -/
lemma resolve_join (hnode : files.node directory = .ok node) (htree : node.IsTree IsName) :
    ∃ location, files.root.at? location = some node ∧ ∀ relative : Path, relative.LeadsBelow →
      (∀ step ∈ relative.names, step = "." ∨ Path.IsStep step) →
      '\x00' ∉ (directory.join relative).text.toList →
      (directory.join relative).text.utf8ByteSize < maxPathLength →
      files.resolve true (directory.join relative) =
        follow files.root true maxLinks location relative.names := by
  obtain ⟨-, hempty, location, hwalk⟩ := walk_of_node hnode
  have hat := at?_of_follow hwalk
  refine ⟨location, hat, fun relative hrelative hsteps hnul hshort => ?_⟩
  have hlinks : ∀ d target rest,
      advance files.root true location relative.names ≠ .link d target rest := by
    intro d target rest hlink
    have hadvance := advance_of_isTree hat htree hsteps
    rw [hlink] at hadvance
    split at hadvance
    · cases hadvance
    · rcases hadvance with ⟨_, _, hvacant⟩ | ⟨_, hfault⟩
      · cases hvacant
      · cases hfault
  have hfollow : follow files.root true maxLinks
      (if directory.isAbsolute then [] else files.working) (directory.names ++ relative.names) =
        follow files.root true maxLinks location relative.names := by
    rcases steps_eq directory with hsteps | hsteps
    · rw [hsteps] at hwalk
      exact follow_append hwalk hlinks maxLinks
    · rw [hsteps] at hwalk
      rw [← follow_current hrelative.names_ne_nil, ← follow_append hwalk hlinks maxLinks,
        List.append_assoc]
      rfl
  unfold resolve
  rw [if_neg (by simpa using hnul), if_neg (Nat.not_le.mpr hshort),
    if_neg (Path.join_ne_empty hempty hrelative), Path.isAbsolute_join hempty hrelative,
    steps_join hempty hrelative, hfollow]

/-- Where a path below a directory leads in the tree of the directory. -/
lemma place_join (hnode : files.node directory = .ok node) (htree : node.IsTree IsName) :
    ∃ location, ∀ relative : Path, relative.LeadsBelow →
      (∀ step ∈ relative.names, step = "." ∨ Path.IsStep step) →
      '\x00' ∉ (directory.join relative).text.toList →
      (directory.join relative).text.utf8ByteSize < maxPathLength →
      (∀ found, node.reach? relative.names = some found →
        files.resolve true (directory.join relative) =
          .ok (.found (location ++ relative.names.filter (· ≠ ".")) found)) ∧
      (node.reach? relative.names = none →
        (files.node (directory.join relative)).toOption = none) := by
  obtain ⟨location, hat, hresolve⟩ := resolve_join hnode htree
  refine ⟨location, fun relative hrelative hsteps hnul hshort => ?_⟩
  have hadvance := advance_of_isTree hat htree hsteps
  have hfollow := hresolve relative hrelative hsteps hnul hshort
  rw [follow.eq_def] at hfollow
  constructor
  · intro found hreach
    rw [hreach] at hadvance
    rw [hadvance] at hfollow
    exact hfollow
  · intro hreach
    rw [hreach] at hadvance
    unfold FileSystem.node
    rcases hadvance with ⟨d, n, hvacant⟩ | ⟨f, hfault⟩
    · rw [hvacant] at hfollow
      rw [hfollow]
      rfl
    · rw [hfault] at hfollow
      rw [hfollow]
      rfl

/-- What stands below a directory is what the tree of the directory has there. -/
lemma node_join_of_short (hnode : files.node directory = .ok node) (htree : node.IsTree IsName)
    {more : List String} (hne : more ≠ []) (h : ∀ step ∈ more, Path.IsStep step)
    (hnul : '\x00' ∉ (directory.join ⟨Path.joined more⟩).text.toList)
    (hshort : (directory.join ⟨Path.joined more⟩).text.utf8ByteSize < maxPathLength) :
    (files.node (directory.join ⟨Path.joined more⟩)).toOption = node.at? more := by
  obtain ⟨location, hplace⟩ := place_join hnode htree
  have hnames := Path.names_joined h
  obtain ⟨hsome, hnone⟩ := hplace ⟨Path.joined more⟩ (Path.leadsBelow_joined hne h)
    (fun step hstep => .inr (h step (hnames ▸ hstep))) hnul hshort
  rw [hnames, node.reach?_of_isStep h] at hsome hnone
  cases hat : node.at? more with
  | some found =>
    unfold FileSystem.node
    rw [hsome found hat]
    rfl
  | none => exact hnone hat

/-- What is not below a directory is reported as not found, if no name on the way is too long and
no file stands in the way. -/
lemma node_join_of_clear (hnode : files.node directory = .ok node) (htree : node.IsTree IsName)
    {more : List String} (hne : more ≠ []) (h : ∀ step ∈ more, Path.IsStep step)
    (hnames : ∀ step ∈ more, step.utf8ByteSize ≤ maxNameLength)
    (hclear : ∀ before behind found, more = before ++ behind → behind ≠ [] →
      node.at? before = some found → found.isDirectory = true)
    (hnul : '\x00' ∉ (directory.join ⟨Path.joined more⟩).text.toList)
    (hshort : (directory.join ⟨Path.joined more⟩).text.utf8ByteSize < maxPathLength)
    (hnone : node.at? more = none) :
    files.node (directory.join ⟨Path.joined more⟩) = .error .notFound := by
  obtain ⟨location, hat, hresolve⟩ := resolve_join hnode htree
  have hsteps := Path.names_joined h
  unfold FileSystem.node
  rw [hresolve ⟨Path.joined more⟩ (Path.leadsBelow_joined hne h)
    (fun step hstep => .inr (h step (hsteps ▸ hstep))) hnul hshort, hsteps, follow.eq_def]
  rcases advance_of_clear hat htree h hnames hclear hnone with ⟨d, n, hvacant⟩ | hfault
  · rw [hvacant]
  · rw [hfault]

/-- The paths of all that is in a directory are short enough to be walked. -/
def Fits (directory : Path) (node : Node) : Prop :=
  ∀ steps found, steps ≠ [] → node.at? steps = some found →
    (directory.join ⟨Path.joined steps⟩).text.utf8ByteSize < maxPathLength

/-- A path that cannot be walked leads nowhere. -/
lemma node_of_unwalkable {p : Path}
    (h : '\x00' ∈ p.text.toList ∨ p.text.utf8ByteSize ≥ maxPathLength) :
    (files.node p).toOption = none := by
  unfold FileSystem.node resolve
  by_cases hnul : p.text.toList.contains '\x00' = true
  · rw [if_pos hnul]
    rfl
  · rw [if_neg hnul]
    rcases h with hmem | hlong
    · exact absurd (List.contains_iff_mem.mpr hmem) hnul
    · rw [if_pos hlong]
      rfl

/-- A path that leads to a node is short enough to be walked. -/
lemma short_of_node {p : Path} (h : files.node p = .ok node) :
    p.text.utf8ByteSize < maxPathLength := by
  by_contra hlong
  have hnone : (files.node p).toOption = none := node_of_unwalkable (.inr (Nat.not_lt.mp hlong))
  rw [h] at hnone
  cases hnone

/-- What stands below a directory is what the tree of the directory has there, if the paths of all
that is in it can be walked. -/
lemma node_join (hnode : files.node directory = .ok node) (htree : node.IsTree IsName)
    (hfits : Fits directory node) {more : List String} (hne : more ≠ [])
    (h : ∀ step ∈ more, Path.IsStep step) :
    (files.node (directory.join ⟨Path.joined more⟩)).toOption = node.at? more := by
  obtain ⟨hclean, hempty, -⟩ := walk_of_node hnode
  cases hat : node.at? more with
  | none =>
    by_cases hnul : '\x00' ∈ (directory.join ⟨Path.joined more⟩).text.toList
    · exact node_of_unwalkable (.inl hnul)
    · by_cases hlong : (directory.join ⟨Path.joined more⟩).text.utf8ByteSize ≥ maxPathLength
      · exact node_of_unwalkable (.inr hlong)
      · rw [node_join_of_short hnode htree hne h hnul (Nat.not_le.mp hlong), hat]
  | some found =>
    have hnul : '\x00' ∉ (directory.join ⟨Path.joined more⟩).text.toList :=
      Path.notMem_join (by decide) hempty hclean (Path.leadsBelow_joined hne h) fun hmem => by
        obtain ⟨step, hstep, hnul⟩ := Path.mem_joined (by decide) hmem
        exact ((htree.of_at? hat).2 step hstep).nul_notMem hnul
    rw [node_join_of_short hnode htree hne h hnul (hfits more found hne hat), hat]

/-- What is in a directory below has paths that can be walked, too. -/
lemma Fits.join (hfits : Fits directory node) (hdirectory : directory.text ≠ "")
    {more : List String} (hne : more ≠ []) (h : ∀ step ∈ more, Path.IsStep step) {found : Node}
    (hat : node.at? more = some found) (hfound : found.IsTree IsName) :
    Fits (directory.join ⟨Path.joined more⟩) found := by
  intro steps inner hsteps hinner
  rw [Path.join_join hdirectory hne h hsteps (hfound.isStep hinner)]
  refine hfits (more ++ steps) inner (List.append_ne_nil_of_left_ne_nil hne steps) ?_
  rw [Node.at?_append, hat]
  exact hinner

end AppLauncher.FileSystem
