import AppLauncher.Condition.Web
import AppLauncher.Proofs.Launch.Calm
import AppLauncher.Proofs.Loader.History
import Mathlib.Logic.Relation

/-!
# Marker classes whose presence is settled

A web application is told by marker classes.  Looking one up changes the store, as caches are filled
and classes are defined, but as a rule not the answers: `Web.Settled` says that from a store on the
marker classes are found or missed alike, however often they are looked up.  It holds of builtin
and of failing loaders in every store (`Web.settled_builtin`, `Web.settled_failing`), and of a chain
in which urls that count as one lead to the same thing as long as the files stay the same
(`Web.settled_of_faithful`).

While the presence is settled, candidates are judged in advance by a function of it
(`Web.foreseen`), one by one (`Web.outcomes_spec`).
-/

namespace AppLauncher

namespace ClassNameFilter

variable (registered : Builtins)

/-- The loader that answers for a choice of loaders in a store. -/
def answers (loader : Loader) (s : Store) : Loader :=
  match loader with
  | .absent =>
    match s.context with
    | .absent => .registry registered
    | context => context
  | loader => loader

/-- To choose a loader changes nothing. -/
lemma run_answering (loader : Loader) (s : Store) :
    answering registered loader s = (answers registered loader s, s) := by
  unfold answers
  cases loader with
  | absent =>
    show (match s.context with
      | .absent => (pure (.registry registered) : Action Loader)
      | context => pure context) s = _
    cases s.context <;> rfl
  | builtin | failing | isolated => rfl

/-- The loader that answers is a matter of the context loader. -/
lemma answers_congr (loader : Loader) {s t : Store} (h : t.context = s.context) :
    answers registered loader t = answers registered loader s := by
  unfold answers
  rw [h]

/-- A class is present if the loader that answers finds it. -/
lemma run_isPresent (loader : Loader) (name : String) (s : Store) :
    isPresent registered loader name s =
      (((answers registered loader s).find name s).1.toBool,
        ((answers registered loader s).find name s).2) := by
  unfold isPresent
  rw [Action.run_bind, run_answering]
  dsimp only
  rw [Action.run_bind, Attempt.run_run, Loader.load_false]
  rfl

end ClassNameFilter

namespace Web

open ClassNameFilter

/-! ### Settled presence -/

/-- The classes that web applications are told by. -/
def markerClasses : List String := [servletClass, reactiveClass]

/-- The marker of servlet applications is one. -/
lemma servletClass_mem : servletClass ∈ markerClasses := .head _

/-- The marker of reactive applications is one. -/
lemma reactiveClass_mem : reactiveClass ∈ markerClasses := .tail _ (.head _)

/-- A marker class is looked up. -/
def LooksUp (registered : Builtins) (loader : Loader) (s t : Store) : Prop :=
  ∃ name ∈ markerClasses, t = (isPresent registered loader name s).2

/-- However often marker classes are looked up from a store on, they are found or missed alike. -/
def Settled (registered : Builtins) (loader : Loader) (present : String → Bool) (s : Store) :
    Prop :=
  ∀ t, Relation.ReflTransGen (LooksUp registered loader) s t →
    ∀ name ∈ markerClasses, (isPresent registered loader name t).1 = present name

section

variable {registered : Builtins} {loader : Loader} {present : String → Bool} {s : Store}

/-- A look-up answers what is settled, and it stays settled. -/
lemma Settled.isPresent (h : Settled registered loader present s) {name : String}
    (hname : name ∈ markerClasses) :
    ∃ t, ClassNameFilter.isPresent registered loader name s = (present name, t) ∧
      Settled registered loader present t := by
  have hfirst : LooksUp registered loader s
      (ClassNameFilter.isPresent registered loader name s).2 := ⟨name, hname, rfl⟩
  refine ⟨(ClassNameFilter.isPresent registered loader name s).2,
    Prod.ext (h s .refl name hname) rfl, ?_⟩
  intro t ht
  exact h t (.head hfirst ht)

/-- The presence is settled where look-ups do not leave the stores in which they are answered
alike. -/
lemma settled_of_invariant (among : Store → Prop) (hs : among s)
    (h : ∀ t, among t → ∀ name ∈ markerClasses,
      (ClassNameFilter.isPresent registered loader name t).1 = present name ∧
        among (ClassNameFilter.isPresent registered loader name t).2) :
    Settled registered loader present s := by
  intro t ht name hname
  have hamong : among t := by
    induction ht with
    | refl => exact hs
    | tail _ hlooks ih =>
      obtain ⟨other, hother, rfl⟩ := hlooks
      exact (h _ ih other hother).2
  exact (h t hamong name hname).1

/-- The presence in a builtin loader is settled in every store. -/
lemma settled_builtin (id : Nat) (classes : Table String Class) (s : Store) :
    Settled registered (.builtin id classes) (fun name => (classes.get? name).isSome) s := by
  refine settled_of_invariant (fun _ => True) trivial fun t _ name _ => ⟨?_, trivial⟩
  rw [run_isPresent]
  show ((Loader.builtin id classes).find name t).1.toBool = (classes.get? name).isSome
  unfold Loader.find
  cases classes.get? name <;> rfl

/-- A loader that fails on every class has none, in every store. -/
lemma settled_failing (id : Nat) (s : Store) :
    Settled registered (.failing id) (fun _ => false) s := by
  refine settled_of_invariant (fun _ => True) trivial fun t _ name _ => ⟨?_, trivial⟩
  rw [run_isPresent]
  show ((Loader.failing id).find name t).1.toBool = false
  unfold Loader.find
  rfl

/-- The presence in a chain is settled as long as the files stay the same, if urls that count as one
lead to the same thing: a class is present if some loader of the chain has it from the start. -/
lemma settled_of_faithful {chain : Loader} {start : Store}
    (hchain : answers registered loader s = chain)
    (hl : chain.Proper) (hend : ∀ depth id, chain.ancestor depth ≠ .failing id)
    (hu : chain.Unambiguous start.files) (hs : s.Faithful chain start) :
    Settled registered loader (fun name => (chain.origin? start name).isSome) s := by
  refine settled_of_invariant (fun t => t.Faithful chain start ∧ t.context = s.context)
    ⟨hs, rfl⟩ ?_
  rintro t ⟨ht, hcontext⟩ name -
  obtain ⟨r, u, hrun, hfinds⟩ := Loader.finds_find name hl.nodup_ids ht.undisturbed
  have hself : chain.ancestor 0 = chain := rfl
  obtain ⟨hfaithful, hanswers⟩ := hfinds.faithful hl.nodup_ids hu hend hself ht
  have hcalm : t.Calm u := (chain.isCalm_find name).of_run hrun
  rw [run_isPresent, answers_congr registered loader hcontext, hchain, hrun]
  refine ⟨?_, hfaithful, hcalm.context.trans hcontext⟩
  cases r with
  | ok c =>
    obtain ⟨o, ho, -⟩ := hanswers.of_ok
    rw [ho]
    rfl
  | error cause =>
    rw [hanswers.of_error.1]
    rfl

end

/-! ### Judging in advance -/

/-- What can be foreseen of a type of application from the presence of marker classes: nothing,
unless classes that it cannot do without are missing. -/
def foreseen (present : String → Bool) : Kind → Option Outcome
  | .servlet =>
    if present servletClass then none else some (.noMatch (missingClasses "servlet"))
  | .reactive =>
    if present reactiveClass then none else some (.noMatch (missingClasses "reactive"))
  | .any =>
    if present servletClass || present reactiveClass then none
    else some (.noMatch (missingClasses "reactive or servlet"))

/-- What can be foreseen of a candidate: nothing of one that is hidden or asks for nothing. -/
def foreseenOf (present : String → Bool) (metadata : Metadata) (candidate : Option String) :
    Option Outcome :=
  (candidate.bind fun candidate => metadata.get? candidate mark).bind fun value =>
    foreseen present (.ofValue value)

section

variable {registered : Builtins} {loader : Loader} {present : String → Bool} {s : Store}

/-- What is foreseen is a decision against a candidate. -/
lemma isMatch_of_foreseen {kind : Kind} {outcome : Outcome}
    (h : foreseen present kind = some outcome) : outcome.isMatch = false := by
  unfold foreseen at h
  cases kind <;> dsimp only at h <;> split at h <;> cases h <;> rfl

/-- When some marker class is enough, the outcome is a matter of which are present. -/
lemma otherwise_spec (h : Settled registered loader present s) :
    ∃ t, advance.otherwise registered loader (present servletClass) s = (foreseen present .any, t) ∧
      Settled registered loader present t := by
  unfold advance.otherwise foreseen
  cases hservlet : present servletClass with
  | true => exact ⟨s, rfl, h⟩
  | false =>
    obtain ⟨t, hreactive, ht⟩ := h.isPresent reactiveClass_mem
    refine ⟨t, ?_, ht⟩
    rw [if_neg Bool.false_ne_true, Action.run_bind, hreactive]
    cases present reactiveClass <;> rfl

/-- A type of application is judged by what can be foreseen of it. -/
lemma advance_spec (h : Settled registered loader present s) (kind : Kind) :
    ∃ t, advance registered loader kind s = (foreseen present kind, t) ∧
      Settled registered loader present t := by
  obtain ⟨t, hservlet, ht⟩ := h.isPresent servletClass_mem
  obtain ⟨u, hotherwise, hu⟩ := otherwise_spec ht
  unfold advance
  rw [Action.run_bind, hservlet]
  cases kind with
  | any => exact ⟨u, hotherwise, hu⟩
  | servlet =>
    refine ⟨t, ?_, ht⟩
    unfold foreseen
    cases present servletClass <;> rfl
  | reactive =>
    obtain ⟨v, hreactive, hv⟩ := ht.isPresent reactiveClass_mem
    dsimp only
    rw [Action.run_bind, hreactive]
    unfold foreseen
    cases hpresent : present reactiveClass with
    | false => exact ⟨v, rfl, hv⟩
    | true =>
      -- the marker class is there, so that nothing is left to be missed
      obtain ⟨w, hagain, hw⟩ := otherwise_spec hv
      refine ⟨w, ?_, hw⟩
      dsimp only
      rw [if_pos rfl, hagain]
      unfold foreseen
      rw [hpresent, Bool.or_true]
      rfl

/-- A candidate is judged by what can be foreseen of it. -/
lemma judgeCandidate_spec (h : Settled registered loader present s) (metadata : Metadata)
    (candidate : Option String) :
    ∃ t, judgeCandidate registered loader metadata candidate s =
      (foreseenOf present metadata candidate, t) ∧ Settled registered loader present t := by
  unfold judgeCandidate foreseenOf
  cases candidate.bind fun candidate => metadata.get? candidate mark with
  | none => exact ⟨s, rfl, h⟩
  | some value => exact advance_spec h (.ofValue value)

/-- Candidates are judged one by one. -/
lemma outcomes_spec (h : Settled registered loader present s) (metadata : Metadata)
    (candidates : List (Option String)) :
    ∃ t, (filter registered loader).outcomes candidates metadata s =
      (candidates.map (foreseenOf present metadata), t) ∧ Settled registered loader present t := by
  show ∃ t, candidates.mapM (judgeCandidate registered loader metadata) s = _ ∧ _
  induction candidates generalizing s with
  | nil => exact ⟨s, rfl, h⟩
  | cons candidate candidates ih =>
    obtain ⟨t, hfirst, ht⟩ := judgeCandidate_spec h metadata candidate
    obtain ⟨u, hothers, hu⟩ := ih ht
    refine ⟨u, ?_, hu⟩
    rw [List.mapM_cons, Action.run_bind, hfirst, Action.run_bind, hothers]
    rfl

end

/-- Metadata in which one candidate asks for a servlet application and one for any. -/
def sampleMetadata : Metadata := .ofEntries [("s." ++ mark, "SERVLET"), ("w." ++ mark, "ANY")]

end Web

end AppLauncher
