import AppLauncher.Proofs.Archive.Naming
import AppLauncher.Proofs.Text.Splitting
import Mathlib.Data.List.TakeWhile

/-!
# Canonical names

An archive lists an entry under the normal form of its raw name.  The normal form is made in three
steps, each of which is taken once: the steps `./` at the start are dropped, then the slashes at the
start, and then those at the end.  What is left is the core of the name (`Entry.core`), and a raw
name is its core with what has been dropped around it (`Entry.exists_parts`).

Nothing is looked at again.  A step `./` that stands behind a slash is therefore kept, and this is
the only thing that can go wrong: a name in normal form is trimmed in all other respects
(`Entry.IsTrimmed`), and it starts with no step and is its own normal form exactly if the raw name
hides no step (`Entry.normalName?_canonical_iff`).  `/./a` hides one
(`Entry.normalName?_hidden_step`).
-/

namespace AppLauncher

namespace Text

/-- The run of a character at the start of a text, and the text without it. -/
lemma exists_replicate_append_dropWhile (c : Char) (cs : List Char) :
    ∃ n, cs = List.replicate n c ++ cs.dropWhile (· = c) := by
  refine ⟨(cs.takeWhile (· = c)).length, ?_⟩
  have hrun : cs.takeWhile (· = c) = List.replicate (cs.takeWhile (· = c)).length c :=
    List.eq_replicate_of_mem fun d hd => by simpa using List.mem_takeWhile_imp hd
  rw [← hrun, List.takeWhile_append_dropWhile]

/-- A text is what is left of it without the run of a character at its end, and that run. -/
lemma exists_dropTrailing_append_replicate (c : Char) (cs : List Char) :
    ∃ n, cs = dropTrailing c cs ++ List.replicate n c := by
  obtain ⟨n, hn⟩ := exists_replicate_append_dropWhile c cs.reverse
  refine ⟨n, ?_⟩
  have hreverse := congrArg List.reverse hn
  rwa [List.reverse_reverse, List.reverse_append, List.reverse_replicate] at hreverse

/-- A run of a character behind a text that does not end with it is dropped. -/
lemma dropTrailing_append_replicate {c : Char} {cs : List Char} (n : Nat)
    (h : cs.getLast? ≠ some c) : dropTrailing c (cs ++ List.replicate n c) = cs := by
  induction n with
  | zero => rw [List.replicate_zero, List.append_nil, dropTrailing_of_getLast?_ne h]
  | succ n ih => rw [List.replicate_succ', ← List.append_assoc, dropTrailing_concat, ih]

end Text

namespace Entry

/-! ### The core of a name -/

/-- A raw name with slashes in place of backslashes. -/
def slashed (raw : String) : List Char := Text.replaceChar '\\' '/' raw.toList

/-- What is left of a raw name when the steps `./` and the slashes around it are dropped. -/
def core (raw : String) : List Char :=
  Text.dropTrailing '/' ((stripCurrent (slashed raw)).dropWhile (· = '/'))

/-- The given number of steps `./`. -/
def currentSteps : Nat → List Char
  | 0 => []
  | n + 1 => '.' :: '/' :: currentSteps n

/-- One more step may also stand behind the others. -/
lemma currentSteps_succ (n : Nat) : currentSteps (n + 1) = currentSteps n ++ ['.', '/'] := by
  induction n with
  | zero => rfl
  | succ n ih =>
    calc currentSteps (n + 1 + 1) = '.' :: '/' :: currentSteps (n + 1) := rfl
      _ = '.' :: '/' :: (currentSteps n ++ ['.', '/']) := by rw [ih]
      _ = currentSteps (n + 1) ++ ['.', '/'] := rfl

/-- The normal form of a raw name is made from its core. -/
lemma normalName?_eq (raw : String) (isDirectory : Bool) :
    normalName? raw isDirectory =
      if core raw = [] ∨ core raw = ['.'] then none
      else some (String.ofList (if isDirectory then core raw ++ ['/'] else core raw)) := rfl

/-- The steps at the start of a text are dropped, and there are none left. -/
lemma exists_stripCurrent (cs : List Char) :
    ∃ n, cs = currentSteps n ++ stripCurrent cs ∧ ¬ ['.', '/'] <+: stripCurrent cs := by
  fun_induction stripCurrent cs with
  | case1 rest ih =>
    obtain ⟨n, hn, hleft⟩ := ih
    refine ⟨n + 1, ?_, hleft⟩
    rw [currentSteps, List.cons_append, List.cons_append, ← hn]
  | case2 cs hnot =>
    refine ⟨0, rfl, ?_⟩
    rintro ⟨rest, rfl⟩
    exact hnot rest rfl

/-- Steps in front of a text are dropped. -/
lemma stripCurrent_currentSteps (n : Nat) {cs : List Char} (h : ¬ ['.', '/'] <+: cs) :
    stripCurrent (currentSteps n ++ cs) = cs := by
  induction n with
  | zero =>
    rw [currentSteps, List.nil_append, stripCurrent.eq_def]
    split
    · rename_i rest
      exact absurd ⟨rest, rfl⟩ h
    · rfl
  | succ n ih => rw [currentSteps, List.cons_append, List.cons_append, stripCurrent, ih]

/-- A text that does not start with a slash is what is left when slashes are put in front of it
and dropped. -/
lemma dropWhile_slashes (n : Nat) {cs : List Char} (h : ¬ ['/'] <+: cs) :
    (List.replicate n '/' ++ cs).dropWhile (· = '/') = cs := by
  rw [List.dropWhile_append_of_pos (by simp [List.mem_replicate])]
  cases cs with
  | nil => rfl
  | cons c cs =>
    have hne : c ≠ '/' := by
      rintro rfl
      exact h ⟨cs, rfl⟩
    rw [List.dropWhile_cons_of_neg (by simpa using hne)]

/-- A raw name is its core with steps and slashes around it.  The core does not start or end with a
slash, and no step is left where steps are dropped. -/
lemma exists_parts (raw : String) :
    ∃ steps before after, slashed raw = currentSteps steps ++
        (List.replicate before '/' ++ (core raw ++ List.replicate after '/')) ∧
      ¬ ['.', '/'] <+: List.replicate before '/' ++ (core raw ++ List.replicate after '/') ∧
      ¬ ['/'] <+: core raw ∧ (core raw).getLast? ≠ some '/' := by
  obtain ⟨steps, hsteps, hleft⟩ := exists_stripCurrent (slashed raw)
  obtain ⟨before, hbefore⟩ :=
    Text.exists_replicate_append_dropWhile '/' (stripCurrent (slashed raw))
  obtain ⟨after, hafter⟩ := Text.exists_dropTrailing_append_replicate '/'
    ((stripCurrent (slashed raw)).dropWhile (· = '/'))
  change _ = core raw ++ _ at hafter
  rw [hafter] at hbefore
  refine ⟨steps, before, after, ?_, ?_, ?_, Text.getLast?_dropTrailing '/' _⟩
  · rw [← hbefore, ← hsteps]
  · rwa [← hbefore]
  · rintro ⟨rest, hrest⟩
    have hhead := List.head?_dropWhile_not (· = '/') (stripCurrent (slashed raw))
    rw [hafter, ← hrest] at hhead
    simp at hhead

/-- Steps and slashes around a text that has none of its own leave it as the core. -/
lemma core_eq {raw : String} {cs : List Char} (steps before : Nat) {after : Nat}
    (hraw : slashed raw = currentSteps steps ++
      (List.replicate before '/' ++ (cs ++ List.replicate after '/')))
    (hleft : ¬ ['.', '/'] <+: List.replicate before '/' ++ (cs ++ List.replicate after '/'))
    (hstart : ¬ ['/'] <+: cs) (hend : cs.getLast? ≠ some '/') : core raw = cs := by
  unfold core
  rw [hraw, stripCurrent_currentSteps steps hleft]
  rcases List.eq_nil_or_concat cs with rfl | hne
  · have hall : (List.replicate before '/' ++ ([] ++ List.replicate after '/')).dropWhile
        (· = '/') = [] := by
      simp
    rw [hall]
    rfl
  · have hrest : ¬ ['/'] <+: cs ++ List.replicate after '/' := by
      obtain ⟨c, rest, rfl⟩ : ∃ c rest, cs = c :: rest := by
        obtain ⟨before, last, rfl⟩ := hne
        exact List.exists_cons_of_ne_nil (by simp)
      simpa [List.cons_prefix_cons] using hstart
    rw [dropWhile_slashes before hrest, Text.dropTrailing_append_replicate after hend]

/-- The core of a name is no longer than what is left without the steps at the start. -/
lemma length_core_le (raw : String) : (core raw).length ≤ (stripCurrent (slashed raw)).length := by
  unfold core Text.dropTrailing
  rw [List.length_reverse]
  calc _ ≤ ((stripCurrent (slashed raw)).dropWhile (· = '/')).reverse.length :=
        (List.dropWhile_sublist _).length_le
    _ = ((stripCurrent (slashed raw)).dropWhile (· = '/')).length := List.length_reverse
    _ ≤ (stripCurrent (slashed raw)).length := (List.dropWhile_sublist _).length_le

/-! ### Names that are trimmed -/

/-- A raw name that names the archive itself: steps, slashes, and one more dot at most. -/
def NamesRoot (raw : String) : Prop :=
  ∃ steps before after dot, (dot = [] ∨ dot = ['.']) ∧ slashed raw =
    currentSteps steps ++ (List.replicate before '/' ++ (dot ++ List.replicate after '/'))

/-- A raw name hides a step if the step stands behind a slash, where it is not dropped. -/
def HidesStep (raw : String) : Prop :=
  ∃ steps before rest, slashed raw =
    currentSteps steps ++ (List.replicate (before + 1) '/' ++ '.' :: '/' :: rest)

/-- A name with the right slashes: it is not empty and no dot, has no backslash, does not start
with a slash, and ends with one slash if it is the name of a directory and with none otherwise. -/
structure IsTrimmed (name : String) (isDirectory : Bool) : Prop where
  ne_empty : name ≠ ""
  ne_current : name ≠ "."
  backslash_notMem : '\\' ∉ name.toList
  not_rooted : ¬ ['/'] <+: name.toList
  slash : ∃ cs, cs.getLast? ≠ some '/' ∧ name.toList = if isDirectory then cs ++ ['/'] else cs

variable {raw name : String} {isDirectory : Bool}

/-- A name in normal form is made from the core of the raw name, which is more than a dot. -/
lemma toList_of_normalName? (h : normalName? raw isDirectory = some name) :
    core raw ≠ [] ∧ core raw ≠ ['.'] ∧
      name.toList = if isDirectory then core raw ++ ['/'] else core raw := by
  rw [normalName?_eq] at h
  split at h
  · cases h
  · rename_i hcore
    obtain ⟨hempty, hdot⟩ := not_or.mp hcore
    refine ⟨hempty, hdot, ?_⟩
    rw [← Option.some.inj h, String.toList_ofList]

/-- A raw name has no normal form exactly if it names the archive itself. -/
lemma normalName?_eq_none_iff (raw : String) (isDirectory : Bool) :
    normalName? raw isDirectory = none ↔ NamesRoot raw := by
  have hnone : normalName? raw isDirectory = none ↔ core raw = [] ∨ core raw = ['.'] := by
    rw [normalName?_eq]
    split <;> simp_all
  rw [hnone]
  constructor
  · intro hcore
    obtain ⟨steps, before, after, hraw, -⟩ := exists_parts raw
    exact ⟨steps, before, after, core raw, hcore, hraw⟩
  · rintro ⟨steps, before, after, dot, hdot, hraw⟩
    by_cases hleft : ['.', '/'] <+: List.replicate before '/' ++ (dot ++ List.replicate after '/')
    · -- the dot and the slash behind it are one more step
      obtain ⟨more, rfl, rfl, rfl⟩ : ∃ more, before = 0 ∧ dot = ['.'] ∧ after = more + 1 := by
        cases before with
        | succ before => simp [List.replicate_succ, List.cons_prefix_cons] at hleft
        | zero =>
          rcases hdot with rfl | rfl
          · cases after <;> simp [List.replicate_succ, List.cons_prefix_cons] at hleft
          · cases after with
            | zero => simp [List.cons_prefix_cons] at hleft
            | succ more => exact ⟨more, rfl, rfl, rfl⟩
      have hmore : slashed raw = currentSteps (steps + 1) ++
          (List.replicate more '/' ++ ([] ++ List.replicate 0 '/')) := by
        rw [hraw, currentSteps_succ]
        simp [List.replicate_succ]
      refine .inl (core_eq (steps + 1) more hmore ?_ (by simp) (by simp))
      cases more <;> simp [List.replicate_succ, List.cons_prefix_cons]
    · have hcore : core raw = dot := by
        rcases hdot with rfl | rfl
        · exact core_eq steps before hraw hleft (by simp) (by simp)
        · exact core_eq steps before hraw hleft (by simp [List.cons_prefix_cons]) (by simp)
      rwa [hcore]

/-- A name in normal form is trimmed. -/
lemma isTrimmed_of_normalName? (h : normalName? raw isDirectory = some name) :
    IsTrimmed name isDirectory := by
  obtain ⟨hempty, hdot, hname⟩ := toList_of_normalName? h
  obtain ⟨steps, before, after, hraw, -, hstart, hend⟩ := exists_parts raw
  have hbackslash : '\\' ∉ core raw := by
    intro hmem
    have hslashed : '\\' ∈ slashed raw := by
      rw [hraw]
      simp [hmem]
    exact Text.notMem_replaceChar (by decide) raw.toList hslashed
  constructor
  · rintro rfl
    cases isDirectory with
    | false => exact hempty hname.symm
    | true => simpa using congrArg List.getLast? hname
  · rintro rfl
    cases isDirectory with
    | false => exact hdot hname.symm
    | true => simpa using congrArg List.getLast? hname
  · rw [hname]
    cases isDirectory <;> simp [hbackslash]
  · rw [hname]
    cases isDirectory with
    | false => exact hstart
    | true =>
      obtain ⟨c, rest, hcore⟩ := List.exists_cons_of_ne_nil hempty
      rw [hcore] at hstart ⊢
      simpa [List.cons_prefix_cons] using hstart
  · exact ⟨core raw, hend, hname⟩

/-- Without the slashes at its end, what starts with a step is a dot or still starts with the
step. -/
lemma dropTrailing_step (rest : List Char) :
    Text.dropTrailing '/' ('.' :: '/' :: rest) = ['.'] ∨
      ['.', '/'] <+: Text.dropTrailing '/' ('.' :: '/' :: rest) := by
  obtain ⟨n, hn⟩ := Text.exists_dropTrailing_append_replicate '/' ('.' :: '/' :: rest)
  rcases hcs : Text.dropTrailing '/' ('.' :: '/' :: rest) with _ | ⟨c, _ | ⟨d, more⟩⟩
  · rw [hcs] at hn
    cases n <;> simp [List.replicate_succ] at hn
  · rw [hcs] at hn
    simp only [List.cons_append, List.cons.injEq] at hn
    exact .inl (by rw [← hn.1])
  · rw [hcs] at hn
    simp only [List.cons_append, List.cons.injEq] at hn
    obtain ⟨rfl, rfl, -⟩ := hn
    exact .inr ⟨more, rfl⟩

/-- A name starts with a step exactly if the raw name hides one. -/
lemma step_prefix_iff (h : normalName? raw isDirectory = some name) :
    ['.', '/'] <+: name.toList ↔ HidesStep raw := by
  obtain ⟨hempty, hdot, hname⟩ := toList_of_normalName? h
  have hcore : ['.', '/'] <+: name.toList ↔ ['.', '/'] <+: core raw := by
    rw [hname]
    cases isDirectory with
    | false => rfl
    | true =>
      rcases hshape : core raw with _ | ⟨c, _ | ⟨d, rest⟩⟩
      · exact absurd hshape hempty
      · rw [hshape] at hdot
        simpa [List.cons_prefix_cons] using fun heq => hdot (by rw [heq])
      · simp [List.cons_prefix_cons]
  rw [hcore]
  constructor
  · rintro ⟨rest, hrest⟩
    obtain ⟨steps, before, after, hraw, hleft, -⟩ := exists_parts raw
    rw [← hrest] at hraw hleft
    cases before with
    | zero => exact absurd ⟨_, rfl⟩ hleft
    | succ before => exact ⟨steps, before, rest ++ List.replicate after '/', by simpa using hraw⟩
  · rintro ⟨steps, before, rest, hraw⟩
    have hslash : ¬ ['.', '/'] <+: List.replicate (before + 1) '/' ++ ('.' :: '/' :: rest) := by
      simp [List.replicate_succ, List.cons_prefix_cons]
    have hshape : core raw = Text.dropTrailing '/' ('.' :: '/' :: rest) := by
      unfold core
      rw [hraw, stripCurrent_currentSteps steps hslash,
        dropWhile_slashes (before + 1) (by simp [List.cons_prefix_cons])]
    rw [hshape] at hdot ⊢
    exact (dropTrailing_step rest).resolve_left hdot

/-- A trimmed name is its own normal form exactly if it does not start with a step. -/
lemma normalName?_self_iff (h : IsTrimmed name isDirectory) :
    normalName? name isDirectory = some name ↔ ¬ ['.', '/'] <+: name.toList := by
  have hslashed : slashed name = name.toList := Text.replaceChar_of_notMem h.backslash_notMem
  constructor
  · rintro hsame ⟨rest, hrest⟩
    obtain ⟨-, -, hname⟩ := toList_of_normalName? hsame
    -- the step is dropped, so that the core is too short
    have hcore : (core name).length ≤ rest.length := by
      obtain ⟨steps, hsteps, -⟩ := exists_stripCurrent rest
      have hle := length_core_le name
      have hrestLength := congrArg List.length hsteps
      rw [hslashed, ← hrest] at hle
      rw [List.length_append] at hrestLength
      exact hle.trans (by show (stripCurrent rest).length ≤ _; omega)
    have hlength := congrArg List.length hname
    rw [← hrest] at hlength
    cases isDirectory <;> simp at hlength <;> omega
  · intro hstep
    obtain ⟨cs, hend, hname⟩ := h.slash
    have hparts : name.toList = cs ++ List.replicate (if isDirectory then 1 else 0) '/' := by
      cases isDirectory <;> simpa using hname
    have hcore : core name = cs := by
      refine core_eq 0 0 (hslashed.trans hparts) (by simpa [← hparts] using hstep) ?_ hend
      exact fun hslash => h.not_rooted (hslash.trans ⟨_, hparts.symm⟩)
    have hempty : cs ≠ [] := by
      rintro rfl
      cases isDirectory with
      | false => exact h.ne_empty (String.toList_eq_nil_iff.mp hname)
      | true => exact h.not_rooted ⟨[], hname.symm⟩
    have hdot : cs ≠ ['.'] := by
      rintro rfl
      cases isDirectory with
      | false => exact h.ne_current (String.toList_inj.mp hname)
      | true => exact hstep ⟨[], hname.symm⟩
    rw [normalName?_eq, hcore, if_neg (not_or.mpr ⟨hempty, hdot⟩), ← hname, String.ofList_toList]

/-- A raw name has no normal form exactly if it names the archive itself.  A name in normal form has
the right slashes, is not empty and no dot; and it starts with no step `./`, and is its own normal
form, exactly if the raw name hides no step behind a slash. -/
theorem normalName?_canonical_iff (raw : String) (isDirectory : Bool) :
    (normalName? raw isDirectory = none ↔ NamesRoot raw) ∧
    ∀ name, normalName? raw isDirectory = some name →
      IsTrimmed name isDirectory ∧
      (¬ ['.', '/'] <+: name.toList ↔ ¬ HidesStep raw) ∧
      (normalName? name isDirectory = some name ↔ ¬ HidesStep raw) := by
  refine ⟨normalName?_eq_none_iff raw isDirectory, fun name h => ?_⟩
  have htrimmed := isTrimmed_of_normalName? h
  have hstep := not_congr (step_prefix_iff h)
  exact ⟨htrimmed, hstep, (normalName?_self_iff htrimmed).trans hstep⟩

/-- A step that is not behind a slash is dropped. -/
theorem normalName?_canonical_iff_classes :
    normalName? ".\\./BOOT-INF//classes\\" true = some "BOOT-INF//classes/" ∧
    ¬ ['.', '/'] <+: "BOOT-INF//classes/".toList ∧
    normalName? "BOOT-INF//classes/" true = some "BOOT-INF//classes/" := by
  have hname : normalName? ".\\./BOOT-INF//classes\\" true = some "BOOT-INF//classes/" := by
    decide +kernel
  obtain ⟨-, hstep, hself⟩ := (normalName?_canonical_iff ".\\./BOOT-INF//classes\\" true).2 _ hname
  have hno : ¬ ['.', '/'] <+: "BOOT-INF//classes/".toList := by decide +kernel
  exact ⟨hname, hno, hself.mpr (hstep.mp hno)⟩

/-- A step behind a slash is kept, so that the name in normal form starts with it and has another
normal form. -/
theorem normalName?_hidden_step :
    normalName? "/./a" false = some "./a" ∧ ['.', '/'] <+: "./a".toList ∧
    normalName? "./a" false = some "a" := by
  decide +kernel

end Entry

end AppLauncher
