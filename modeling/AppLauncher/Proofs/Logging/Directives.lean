import AppLauncher.Logging.Directive
import AppLauncher.Proofs.Table
import AppLauncher.Proofs.Text.Splitting
import Mathlib.Data.String.Basic
import Mathlib.Order.Bounds.Basic

/-!
# The level of a target

A configuration is turned into directives, one text after the other, and of the directives for a
target the last one counts.  `Directive.Effective` says without directives which level a
configuration gives a target: the level of the greatest name that has one and stands for the target,
or else the level of the flag that is set, if one of the names of the flag stands for the target.

The directives are the flags and then the names in ascending order, each name spread out over the
targets that it stands for.  The last entry for a target comes from the last name that stands for it
(`Directive.lastValue?_spread`), and the last of ascending names is the greatest
(`Directive.isGreatest_of_findRev?`).
-/

namespace AppLauncher.Logging

/-- The word for a level has no equals sign in it. -/
lemma Level.equals_notMem_directive (level : Level) : '=' ∉ level.directive.toList := by
  cases level <;> decide

namespace Directive

/-! ### The level that a configuration gives a target -/

/-- The targets that a name stands for under a configuration: the members of the group that is
configured under the name, or else of the standard group of the name, or else the name itself. -/
def expansion (settings : Config.Settings) (name : String) : List String :=
  match settings.logging.group.get? name, Groups.standard.get? name with
  | some members, _ => members
  | none, some members => members
  | none, none => [name]

/-- A name other than the one for the general level has a level, and stands for a target. -/
def Names (settings : Config.Settings) (target name : String) : Prop :=
  name ≠ rootName ∧ (∃ level, settings.logging.level.get? name = some level) ∧
    target ∈ expansion settings name

/-- The flag that counts, as the level that it stands for and the names that it makes talkative:
tracing before debugging. -/
def flag? (settings : Config.Settings) : Option (Level × List String) :=
  if settings.trace then some (.trace, traceNames)
  else if settings.debug then some (.debug, debugNames)
  else none

/-- A configuration gives a target a level, or none. -/
inductive Effective (settings : Config.Settings) (target : String) : Option Level → Prop where
  | named {name : String} {level : Level} : IsGreatest {name | Names settings target name} name →
      settings.logging.level.get? name = some level → Effective settings target (some level)
  | flagged {level : Level} {names : List String} : (∀ name, ¬Names settings target name) →
      flag? settings = some (level, names) → (∃ name ∈ names, target ∈ expansion settings name) →
      Effective settings target (some level)
  | unnamed : (∀ name, ¬Names settings target name) →
      (∀ level names, flag? settings = some (level, names) →
        ∀ name ∈ names, target ∉ expansion settings name) →
      Effective settings target none

/-! ### The last directive for a target -/

/-- The two parts of a directive as it is written, if it has them: the target before its last equals
sign, and the word for the level behind it. -/
def parts? (text : String) : Option (String × String) :=
  (Text.splitLast '=' text.toList).map fun (target, level) =>
    (String.ofList target, String.ofList level)

/-- The word for the level in the last directive for a target. -/
def lastWord? (texts : List String) (target : String) : Option String :=
  Table.lastValue? (texts.filterMap parts?) target

section

variable {settings other : Config.Settings} {target : String}

/-- A directive for a target has two parts. -/
lemma parts?_text (target : String) (level : Level) :
    parts? (text ⟨some target, level⟩) = some (target, level.directive) := by
  unfold parts? text
  dsimp only
  have htext : (target ++ "=" ++ level.directive).toList =
      target.toList ++ '=' :: level.directive.toList := by
    simp [String.toList_append]
  rw [htext, Text.splitLast_append _ level.equals_notMem_directive, Option.map_some,
    String.ofList_toList, String.ofList_toList]

/-- The general directive has no parts. -/
lemma parts?_general (level : Level) : parts? (text ⟨none, level⟩) = none := by
  show (Text.splitLast '=' level.directive.toList).map _ = none
  rw [Text.splitLast_of_notMem level.equals_notMem_directive, Option.map_none]

/-- There is an equals sign in a directive for a target. -/
lemma equals_mem_text (target : String) (level : Level) :
    '=' ∈ (text ⟨some target, level⟩).toList := by
  simp [text, String.toList_append]

/-! ### The entries of a configuration -/

/-- Names with levels, spread out over the targets that they stand for. -/
def spread (settings : Config.Settings) (names : List (String × Level)) : List (String × String) :=
  names.flatMap fun (name, level) =>
    (expansion settings name).map fun target => (target, level.directive)

/-- The configured groups replace the standard ones of their names. -/
lemma expand_union (settings : Config.Settings) (name : String) :
    Groups.expand (Groups.standard.union settings.logging.group) name =
      expansion settings name := by
  unfold Groups.expand expansion
  rw [Table.get?_union]
  cases settings.logging.group.get? name with
  | some members => rfl
  | none => cases Groups.standard.get? name <;> rfl

/-- The entries of the directives for a name. -/
lemma filterMap_parts?_ofName (settings : Config.Settings) (name : String) (level : Level) :
    ((ofName (Groups.standard.union settings.logging.group) name level).map text).filterMap parts? =
      (expansion settings name).map fun target => (target, level.directive) := by
  unfold ofName
  rw [expand_union, List.map_map, List.filterMap_map, ← List.filterMap_eq_map]
  exact List.filterMap_congr fun target _ => parts?_text target level

/-- The entries of all directives are those of the flags and then those of the names with a level of
their own. -/
lemma filterMap_parts? (settings : Config.Settings) :
    ((ofSettings settings).map text).filterMap parts? =
      spread settings (flagged settings ++ named settings) := by
  unfold ofSettings spread
  rw [List.map_cons, List.filterMap_cons_none (parts?_general _), List.map_flatMap,
    List.filterMap_flatMap]
  exact List.flatMap_congr fun entry _ => filterMap_parts?_ofName settings entry.1 entry.2

/-- The last entry for a target is that of the last name that stands for it. -/
lemma lastValue?_spread (settings : Config.Settings) (names : List (String × Level))
    (target : String) :
    Table.lastValue? (spread settings names) target =
      (names.findRev? fun entry => target ∈ expansion settings entry.1).map fun entry =>
        entry.2.directive := by
  induction names using List.reverseRecOn with
  | nil => rfl
  | append_singleton names entry ih =>
    have hconcat : spread settings (names ++ [entry]) = spread settings names ++
        (expansion settings entry.1).map fun target => (target, entry.2.directive) := by
      simp [spread]
    rw [hconcat, Table.lastValue?_append, Table.lastValue?_map, ih,
      List.findRev?_eq_find?_reverse, List.findRev?_eq_find?_reverse, List.reverse_concat,
      List.find?_cons]
    by_cases hmem : target ∈ expansion settings entry.1 <;> simp [hmem]

/-! ### Which name is the last one -/

/-- The names with a level of their own. -/
lemma mem_named {name : String} {level : Level} : (name, level) ∈ named settings ↔
    name ≠ rootName ∧ settings.logging.level.get? name = some level := by
  unfold named
  rw [List.mem_mergeSort, List.mem_filter, Table.mem_entries_iff, and_comm, decide_eq_true_eq]

/-- They come in ascending order. -/
lemma pairwise_named (settings : Config.Settings) :
    (named settings).Pairwise fun a b => a.1 ≤ b.1 :=
  Table.pairwise_mergeSort _

/-- The last of ascending entries that pass a test is the greatest of them. -/
lemma isGreatest_of_findRev? {entries : List (String × Level)} (passes : String → Bool)
    {entry : String × Level} (hsorted : entries.Pairwise fun a b => a.1 ≤ b.1)
    (h : entries.findRev? (fun entry => passes entry.1) = some entry) :
    entry ∈ entries ∧ passes entry.1 = true ∧
      ∀ other ∈ entries, passes other.1 = true → other.1 ≤ entry.1 := by
  rw [List.findRev?_eq_find?_reverse] at h
  obtain ⟨hpasses, later, earlier, hsplit, hlater⟩ := List.find?_eq_some_iff_append.mp h
  have hdescending := List.pairwise_reverse.mpr hsorted
  rw [hsplit] at hdescending
  have hbelow := (List.pairwise_cons.mp (List.pairwise_append.mp hdescending).2.1).1
  refine ⟨List.mem_reverse.mp (List.mem_of_find?_eq_some h), hpasses, ?_⟩
  intro other hother hother'
  rw [← List.mem_reverse, hsplit] at hother
  rcases List.mem_append.mp hother with hmem | hmem
  · have hfails := hlater other hmem
    rw [hother'] at hfails
    cases hfails
  · rcases List.mem_cons.mp hmem with rfl | hearlier
    · exact le_rfl
    · exact hbelow other hearlier

/-- The names of the flag that counts. -/
lemma mem_flagged {name : String} {level : Level} : (name, level) ∈ flagged settings ↔
    ∃ names, flag? settings = some (level, names) ∧ name ∈ names := by
  unfold flagged flag?
  cases settings.trace with
  | true => simp [and_comm, eq_comm]
  | false => cases settings.debug <;> simp [and_comm, eq_comm]

/-! ### The effective level -/

/-- The last name of its own level that stands for a target makes its level the effective one. -/
lemma effective_of_named {entry : String × Level}
    (h : (named settings).findRev? (fun entry => target ∈ expansion settings entry.1) =
      some entry) : Effective settings target (some entry.2) := by
  obtain ⟨hmem, hstands, hgreatest⟩ := isGreatest_of_findRev?
    (fun name => target ∈ expansion settings name) (pairwise_named settings) h
  obtain ⟨hroot, hlevel⟩ := mem_named.mp hmem
  refine .named ⟨⟨hroot, ⟨_, hlevel⟩, of_decide_eq_true hstands⟩, ?_⟩ hlevel
  rintro name ⟨hroot', ⟨level, hlevel'⟩, hmem'⟩
  exact hgreatest (name, level) (mem_named.mpr ⟨hroot', hlevel'⟩) (decide_eq_true hmem')

/-- When no name of its own level stands for a target, none names it. -/
lemma not_names_of_named
    (h : (named settings).findRev? (fun entry => target ∈ expansion settings entry.1) = none)
    (name : String) : ¬Names settings target name := by
  rintro ⟨hroot, ⟨level, hlevel⟩, hmem⟩
  rw [List.findRev?_eq_find?_reverse, List.find?_eq_none] at h
  have hentry : (name, level) ∈ (named settings).reverse :=
    List.mem_reverse.mpr (mem_named.mpr ⟨hroot, hlevel⟩)
  exact h _ hentry (decide_eq_true hmem)

/-- The last directive for a target has the word for the effective level, and there is none if
there is no such level. -/
lemma exists_effective (settings : Config.Settings) (target : String) :
    ∃ level?, Effective settings target level? ∧
      lastWord? ((ofSettings settings).map text) target = level?.map Level.directive := by
  unfold lastWord?
  rw [filterMap_parts?, lastValue?_spread, List.findRev?_eq_find?_reverse, List.reverse_append,
    List.find?_append, ← List.findRev?_eq_find?_reverse, ← List.findRev?_eq_find?_reverse]
  cases hnamed : (named settings).findRev? fun entry => target ∈ expansion settings entry.1 with
  | some entry => exact ⟨some entry.2, effective_of_named hnamed, rfl⟩
  | none =>
    have hnone := not_names_of_named hnamed
    rw [Option.none_or]
    cases hflagged : (flagged settings).findRev? fun entry =>
        target ∈ expansion settings entry.1 with
    | some entry =>
      rw [List.findRev?_eq_find?_reverse] at hflagged
      obtain ⟨names, hflag, hmem⟩ :=
        mem_flagged.mp (List.mem_reverse.mp (List.mem_of_find?_eq_some hflagged))
      have hstands := List.find?_some hflagged
      exact ⟨some entry.2, .flagged hnone hflag ⟨entry.1, hmem, of_decide_eq_true hstands⟩, rfl⟩
    | none =>
      rw [List.findRev?_eq_find?_reverse, List.find?_eq_none] at hflagged
      refine ⟨none, .unnamed hnone fun level names hflag name hname hstands => ?_, rfl⟩
      have hentry : (name, level) ∈ (flagged settings).reverse :=
        List.mem_reverse.mpr (mem_flagged.mpr ⟨names, hflag, hname⟩)
      exact hflagged _ hentry (decide_eq_true hstands)

/-- When a name stands for a target, the level of the greatest such name is the effective one. -/
lemma Effective.exists_isGreatest {level? : Option Level} (h : Effective settings target level?)
    {name : String} (hname : Names settings target name) :
    ∃ greatest, IsGreatest {name | Names settings target name} greatest ∧
      settings.logging.level.get? greatest = level? := by
  cases h with
  | named hgreatest hlevel => exact ⟨_, hgreatest, hlevel⟩
  | flagged hnone => exact absurd hname (hnone name)
  | unnamed hnone => exact absurd hname (hnone name)

/-! ### What does not count -/

/-- Groups that are configured alike make names stand for the same targets. -/
lemma expansion_congr
    (hgroup : ∀ name, other.logging.group.get? name = settings.logging.group.get? name) :
    expansion other = expansion settings := by
  funext name
  unfold expansion
  rw [hgroup]

/-- Levels and groups that are configured alike make the same names stand for a target. -/
lemma names_congr
    (hlevel : ∀ name, other.logging.level.get? name = settings.logging.level.get? name)
    (hgroup : ∀ name, other.logging.group.get? name = settings.logging.group.get? name) :
    Names other target = Names settings target := by
  funext name
  unfold Names
  rw [hlevel, expansion_congr hgroup]

/-- Levels that are configured alike are the same list of names. -/
lemma named_congr
    (hlevel : ∀ name, other.logging.level.get? name = settings.logging.level.get? name) :
    named other = named settings := by
  have hperm : (named other).Perm (named settings) := by
    unfold named
    refine (List.mergeSort_perm _ _).trans (.trans ?_ (List.mergeSort_perm _ _).symm)
    exact (Table.perm_entries hlevel).filter _
  refine hperm.eq_of_pairwise ?_ (pairwise_named other) (pairwise_named settings)
  rintro ⟨name, level⟩ ⟨name', level'⟩ hmem hmem' hle hge
  obtain rfl : name = name' := le_antisymm hle hge
  have hfirst := (mem_named.mp hmem).2
  have hsecond := (mem_named.mp hmem').2
  rw [hlevel, hsecond] at hfirst
  cases hfirst
  rfl

/-- The directives of a configuration do not depend on the order in which it lists levels and
groups. -/
lemma ofSettings_congr (hdebug : other.debug = settings.debug)
    (htrace : other.trace = settings.trace)
    (hlevel : ∀ name, other.logging.level.get? name = settings.logging.level.get? name)
    (hgroup : ∀ name, other.logging.group.get? name = settings.logging.group.get? name) :
    ofSettings other = ofSettings settings := by
  have hflagged : flagged other = flagged settings := by
    unfold flagged
    rw [hdebug, htrace]
  have hofName : ∀ name level, ofName (Groups.standard.union other.logging.group) name level =
      ofName (Groups.standard.union settings.logging.group) name level := by
    intro name level
    unfold ofName
    rw [expand_union, expand_union, expansion_congr hgroup]
  unfold ofSettings
  rw [hlevel, hflagged, named_congr hlevel]
  simp only [hofName]

/-- For every target the last directive with the target before its last equals sign has the word for
the effective level, and there is no such directive if there is no such level.  The first directive
is the word for the general level, or for the standard one, and the only one without an equals sign.
A level that is configured for a name counts whatever the flags are, and the order in which levels
and groups are listed does not count at all. -/
theorem lastWord_effective (settings : Config.Settings) :
    (∀ target, ∃ level?, Effective settings target level? ∧
      lastWord? ((ofSettings settings).map text) target = level?.map Level.directive) ∧
    (∃ general rest, general = ((settings.logging.level.get? rootName).getD .info).directive ∧
      (ofSettings settings).map text = general :: rest ∧ '=' ∉ general.toList ∧
      ∀ directive ∈ rest, '=' ∈ directive.toList) ∧
    ∀ other : Config.Settings,
      (∀ name, other.logging.level.get? name = settings.logging.level.get? name) →
      (∀ name, other.logging.group.get? name = settings.logging.group.get? name) →
      (∀ target name, Names settings target name →
        lastWord? ((ofSettings other).map text) target =
          lastWord? ((ofSettings settings).map text) target) ∧
      (other.debug = settings.debug → other.trace = settings.trace →
        (ofSettings other).map text = (ofSettings settings).map text) := by
  refine ⟨exists_effective settings, ⟨_, _, rfl, List.map_cons, Level.equals_notMem_directive _,
    ?_⟩, fun other hlevel hgroup => ⟨fun target name hname => ?_, fun hdebug htrace => ?_⟩⟩
  · intro directive hdirective
    obtain ⟨entry, hentry, rfl⟩ := List.mem_map.mp hdirective
    obtain ⟨named, -, hnamed⟩ := List.mem_flatMap.mp hentry
    obtain ⟨target, -, rfl⟩ := List.mem_map.mp hnamed
    exact equals_mem_text target _
  · have hsame : Names other target = Names settings target := names_congr hlevel hgroup
    obtain ⟨level?, heffective, hword⟩ := exists_effective settings target
    obtain ⟨level?', heffective', hword'⟩ := exists_effective other target
    obtain ⟨greatest, hgreatest, hget⟩ := heffective.exists_isGreatest hname
    obtain ⟨greatest', hgreatest', hget'⟩ := heffective'.exists_isGreatest (hsame ▸ hname)
    rw [hsame] at hgreatest'
    rw [hgreatest'.unique hgreatest, hlevel, hget] at hget'
    rw [hword, hword', hget']
  · rw [ofSettings_congr hdebug htrace hlevel hgroup]

end

/-- A configuration with a level for a group and one for its member. -/
def sampleSettings : Config.Settings where
  installLogger := true
  debug := true
  trace := false
  logging := { Config.LoggingSettings.standard with
    level := .ofList [("web", .error), ("my_web", .info)]
    group := .ofList [("web", ["my_web"]), ("sql", [])] }

/-- The same configuration, with levels and groups listed the other way. -/
def sampleOther : Config.Settings := { sampleSettings with
  logging := { sampleSettings.logging with
    level := .ofList [("my_web", .info), ("web", .error)]
    group := .ofList [("sql", []), ("web", ["my_web"])] } }

/-- The greatest name that stands for the member is that of its group. -/
lemma isGreatest_web : IsGreatest {name | Names sampleSettings "my_web" name} "web" := by
  refine ⟨⟨by decide, ⟨.error, rfl⟩, by decide +kernel⟩, ?_⟩
  rintro name ⟨-, ⟨level, hlevel⟩, -⟩
  have hentries : sampleSettings.logging.level.entries = [("web", .error), ("my_web", .info)] := rfl
  have hmem := Table.mem_entries_iff.mpr hlevel
  rw [hentries] at hmem
  rcases hmem with _ | ⟨_, _ | ⟨_, hnil⟩⟩
  · exact le_rfl
  · decide
  · cases hnil

/-- The level of the group counts for its member, although the member has a level, too, and although
debugging is on; and it does not matter in which order levels and groups are listed. -/
theorem lastWord_effective_sample :
    lastWord? ((ofSettings sampleSettings).map text) "my_web" = some "error" ∧
    (ofSettings sampleOther).map text = (ofSettings sampleSettings).map text := by
  obtain ⟨heffective, -, hother⟩ := lastWord_effective sampleSettings
  obtain ⟨level?, hlevel?, hword⟩ := heffective "my_web"
  obtain ⟨name, hname, hget⟩ := hlevel?.exists_isGreatest isGreatest_web.1
  rw [hname.unique isGreatest_web] at hget
  have hlevels : ∀ name, sampleOther.logging.level.get? name =
      sampleSettings.logging.level.get? name :=
    Table.get?_swap (by decide) _ _
  have hgroups : ∀ name, sampleOther.logging.group.get? name =
      sampleSettings.logging.group.get? name :=
    Table.get?_swap (by decide) _ _
  refine ⟨?_, (hother _ hlevels hgroups).2 rfl rfl⟩
  rw [hword, ← hget]
  rfl

end Directive

end AppLauncher.Logging
