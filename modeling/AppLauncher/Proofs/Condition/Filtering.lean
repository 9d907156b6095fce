import AppLauncher.Condition.Filter
import AppLauncher.Proofs.Computation
import Mathlib.Data.List.Basic
import Mathlib.Data.List.Induction

/-!
# Asking filters one after the other

A filter answers a list of candidates with a list of outcomes, which may be too short or too long.
All that counts of an answer are the positions that it rejects (`Filter.rejects`), and what a filter
is shown follows from the answers of the filters before it (`Filter.shown`).  A run through the
filters asks each of them once, in the given order, and does nothing else but log
(`Filter.Consults`).

The filters are asked in ascending order, those of one order as they are given, and what remains
are the candidates at the positions that no answer rejects (`Filter.survivors_protocol`).
-/

namespace AppLauncher

/-- Nothing has happened but that records were logged. -/
def Store.Logs (s t : Store) : Prop :=
  ∃ records : List Record, t = { s with trail := records.map .logged ++ s.trail }

namespace Store

variable {s t u : Store}

/-- Nothing has been logged yet. -/
lemma Logs.refl (s : Store) : s.Logs s := ⟨[], rfl⟩

/-- Records that are logged one after the other are logged. -/
lemma Logs.trans (h : s.Logs t) (g : t.Logs u) : s.Logs u := by
  obtain ⟨first, rfl⟩ := h
  obtain ⟨later, rfl⟩ := g
  exact ⟨later ++ first, by simp⟩

/-- A record is logged. -/
lemma logs_log (severity : Severity) (target message : String) (fields : List Field) (s : Store) :
    s.Logs (Action.log severity target message fields s).2 :=
  ⟨[⟨severity, target, message, fields⟩], rfl⟩

end Store

namespace Filter

/-! ### Answers and what they reject -/

/-- Whether an outcome is a decision against its candidate. -/
def isRejection : Option Outcome → Bool
  | some outcome => !outcome.isMatch
  | none => false

/-- Whether an answer rejects the candidate at a position.  A missing outcome is no decision. -/
def rejects (answer : List (Option Outcome)) (i : Nat) : Bool := answer[i]?.any isRejection

/-- Whether one of several answers rejects the candidate at a position. -/
def rejected (answers : List (List (Option Outcome))) (i : Nat) : Bool := answers.any (rejects · i)

/-- The candidates as a filter is shown them after the given answers of earlier filters. -/
def shown (candidates : List String) (answers : List (List (Option Outcome))) :
    List (Option String) :=
  candidates.mapIdx fun i candidate => if rejected answers i then none else some candidate

/-- The candidates at positions that no answer rejects, in their order. -/
def remaining (candidates : List String) (answers : List (List (Option Outcome))) : List String :=
  (candidates.zipIdx.filter fun candidate => !rejected answers candidate.2).map Prod.fst

section

variable {candidates : List String} {answers : List (List (Option Outcome))}
  {answer : List (Option Outcome)} {i : Nat}

/-- One more answer rejects what it rejects itself. -/
lemma rejected_concat :
    rejected (answers ++ [answer]) i = (rejected answers i || rejects answer i) := by
  simp [rejected]

/-- What a filter is shown at a position. -/
lemma getElem?_shown : (shown candidates answers)[i]? =
    candidates[i]?.map fun candidate => if rejected answers i then none else some candidate :=
  List.getElem?_mapIdx

/-- A filter is shown as many positions as there are candidates. -/
lemma length_shown : (shown candidates answers).length = candidates.length := List.length_mapIdx

/-- The first filter is shown all candidates. -/
lemma shown_nil : shown candidates [] = candidates.map some := by
  apply List.ext_getElem?
  intro i
  rw [getElem?_shown, List.getElem?_map]
  rfl

/-- What is left of what a filter is shown are the candidates that remain. -/
lemma filterMap_shown : (shown candidates answers).filterMap id = remaining candidates answers := by
  unfold shown remaining
  rw [List.mapIdx_eq_zipIdx_map, List.filterMap_map, ← List.filterMap_eq_filter,
    List.map_filterMap]
  apply List.filterMap_congr
  rintro ⟨candidate, i⟩ -
  by_cases h : rejected answers i = true <;> simp [h, Option.guard]

/-- A candidate is rejected by the first filter that decides against it, and that filter is shown
it. -/
lemma rejected_iff {candidate : String} (hi : candidates[i]? = some candidate) :
    rejected answers i = true ↔ ∃ before answer after, answers = before ++ answer :: after ∧
      rejects answer i = true ∧ (shown candidates before)[i]? = some (some candidate) := by
  constructor
  · intro h
    induction answers using List.reverseRecOn with
    | nil => cases h
    | append_singleton answers answer ih =>
      by_cases hbefore : rejected answers i = true
      · obtain ⟨before, first, after, rfl, hfirst, hshown⟩ := ih hbefore
        exact ⟨before, first, after ++ [answer], by simp, hfirst, hshown⟩
      · rw [rejected_concat] at h
        refine ⟨answers, answer, [], rfl, by simpa [hbefore] using h, ?_⟩
        rw [getElem?_shown, hi, Option.map_some, if_neg hbefore]
  · rintro ⟨before, answer, after, rfl, hanswer, -⟩
    unfold rejected
    rw [List.any_append, List.any_cons, hanswer]
    simp

end

/-! ### Hiding what an answer rejects -/

/-- The first of the outcomes belongs to the first of the candidates. -/
lemma run_passing_cons (outcome : Option Outcome) (answer : List (Option Outcome))
    (candidate : Option String) (candidates : List (Option String)) (s : Store) :
    ∃ t, s.Logs t ∧ passing (outcome :: answer) (candidate :: candidates) s =
      ((!isRejection outcome) :: (passing answer candidates t).1,
        (passing answer candidates t).2) := by
  rcases outcome with _ | ⟨_ | _, message⟩
  · exact ⟨s, .refl s, rfl⟩
  · exact ⟨_, Store.logs_log _ _ _ _ s, rfl⟩
  · exact ⟨s, .refl s, rfl⟩

/-- Candidates pass where the answer has an outcome that is no rejection. -/
lemma passing_spec (answer : List (Option Outcome)) (candidates : List (Option String))
    (s : Store) :
    ∃ t, s.Logs t ∧ passing answer candidates s =
      (List.zipWith (fun outcome _ => !isRejection outcome) answer candidates, t) := by
  induction answer generalizing candidates s with
  | nil => exact ⟨s, .refl s, rfl⟩
  | cons outcome answer ih =>
    cases candidates with
    | nil => exact ⟨s, .refl s, rfl⟩
    | cons candidate candidates =>
      obtain ⟨t, hfirst, hrun⟩ := run_passing_cons outcome answer candidate candidates s
      obtain ⟨u, hothers, hpassing⟩ := ih candidates t
      refine ⟨u, hfirst.trans hothers, ?_⟩
      rw [hrun, hpassing]
      rfl

/-- A position is hidden if it does not pass, and a position without a decision stays. -/
lemma getElem?_hide (candidates : List (Option String)) (passing : List Bool) (i : Nat) :
    (hide candidates passing)[i]? =
      candidates[i]?.map fun candidate => if passing[i]? = some false then none else candidate := by
  induction candidates generalizing passing i with
  | nil => rfl
  | cons candidate candidates ih =>
    cases passing with
    | nil =>
      show (candidate :: candidates)[i]? = _
      simp
    | cons pass passing =>
      cases i with
      | zero => cases pass <;> rfl
      | succ i => exact ih passing i

/-- After one more answer the next filter is shown what the answer has left. -/
lemma hide_shown (candidates : List String) (answers : List (List (Option Outcome)))
    (answer : List (Option Outcome)) :
    hide (shown candidates answers)
        (List.zipWith (fun outcome _ => !isRejection outcome) answer (shown candidates answers)) =
      shown candidates (answers ++ [answer]) := by
  apply List.ext_getElem?
  intro i
  rw [getElem?_hide, List.getElem?_zipWith, getElem?_shown, getElem?_shown, Option.map_map]
  cases candidates[i]? with
  | none => rfl
  | some candidate =>
    rw [Option.map_some, Option.map_some, Option.map_some, rejected_concat, rejects]
    cases answer[i]? with
    | none => simp
    | some outcome => cases rejected answers i <;> simp

/-! ### Asking all filters -/

/-- The run through a list of filters, from the answers and the store before it to those after it.
Each filter is asked once and answers what it is shown; between the questions nothing happens but
that records are logged. -/
inductive Consults (candidates : List String) (metadata : Metadata) :
    List Filter → List (List (Option Outcome)) → Store → List (List (Option Outcome)) → Store →
      Prop where
  | done {answers : List (List (Option Outcome))} {s : Store} :
      Consults candidates metadata [] answers s answers s
  | ask {filter : Filter} {filters : List Filter} {answers all : List (List (Option Outcome))}
      {answer : List (Option Outcome)} {s t u v : Store} :
      filter.outcomes (shown candidates answers) metadata s = (answer, t) → t.Logs u →
      Consults candidates metadata filters (answers ++ [answer]) u all v →
      Consults candidates metadata (filter :: filters) answers s all v

/-- A filter that is asked answers what it is shown, and hides what it rejects. -/
lemma passes_spec (filter : Filter) (candidates : List String)
    (answers : List (List (Option Outcome))) (metadata : Metadata) (s : Store) :
    ∃ answer t u, filter.outcomes (shown candidates answers) metadata s = (answer, t) ∧
      t.Logs u ∧ filter.passes (shown candidates answers) metadata s =
        (List.zipWith (fun outcome _ => !isRejection outcome) answer (shown candidates answers),
          u) := by
  rcases hanswer : filter.outcomes (shown candidates answers) metadata s with ⟨answer, t⟩
  obtain ⟨u, hlogs, hpassing⟩ := passing_spec answer (shown candidates answers) t
  refine ⟨answer, t, u, rfl, hlogs, ?_⟩
  unfold passes
  rw [Action.run_bind, hanswer, hpassing]

/-- Filters are consulted in the given order, and the candidates that none of them rejects are
left. -/
lemma ask_spec (candidates : List String) (metadata : Metadata) (filters : List Filter)
    (answers : List (List (Option Outcome))) (s : Store) :
    ∃ all t, Consults candidates metadata filters answers s all t ∧
      ask metadata (shown candidates answers) filters s = (shown candidates all, t) := by
  induction filters generalizing answers s with
  | nil => exact ⟨answers, s, .done, rfl⟩
  | cons filter filters ih =>
    obtain ⟨answer, t, u, hanswer, hlogs, hpasses⟩ :=
      passes_spec filter candidates answers metadata s
    obtain ⟨all, v, hconsults, hrun⟩ := ih (answers ++ [answer]) u
    refine ⟨all, v, .ask hanswer hlogs hconsults, ?_⟩
    rw [ask, Action.run_bind, hpasses]
    dsimp only
    rw [hide_shown, hrun]

/-- The survivors are what the filters leave. -/
lemma survivors_spec (candidates : List String) (filters : List Filter) (metadata : Metadata)
    (s : Store) :
    ∃ answers t u, Consults candidates metadata (sorted filters) [] s answers t ∧ t.Logs u ∧
      survivors candidates filters metadata s = (remaining candidates answers, u) := by
  obtain ⟨answers, t, hconsults, hrun⟩ := ask_spec candidates metadata (sorted filters) [] s
  rw [shown_nil] at hrun
  unfold survivors
  rw [Action.run_bind, hrun]
  dsimp only
  rw [filterMap_shown]
  by_cases hskipped : (shown candidates answers).any Option.isNone = true
  · exact ⟨answers, t, _, hconsults, Store.logs_log _ _ _ _ t, by rw [if_pos hskipped]; rfl⟩
  · exact ⟨answers, t, t, hconsults, .refl t, by rw [if_neg hskipped]; rfl⟩

/-! ### The order of filters -/

/-- Filters come one after the other by their order. -/
def inOrder (a b : Filter) : Bool := a.order ≤ b.order

/-- What comes before what comes before something comes before it. -/
lemma inOrder_trans (a b c : Filter) (hab : inOrder a b = true) (hbc : inOrder b c = true) :
    inOrder a c = true := by
  simp only [inOrder, decide_eq_true_eq] at *
  omega

/-- Of two filters one comes before the other. -/
lemma inOrder_total (a b : Filter) : (inOrder a b || inOrder b a) = true := by
  simp only [inOrder, Bool.or_eq_true, decide_eq_true_eq]
  omega

/-- Filters are sorted by ascending order. -/
lemma pairwise_sorted (filters : List Filter) :
    (sorted filters).Pairwise fun a b => a.order ≤ b.order :=
  (List.pairwise_mergeSort inOrder_trans inOrder_total filters).imp of_decide_eq_true

/-- Filters of one order stay as they are given. -/
lemma filter_sorted (filters : List Filter) (order : Int) :
    (sorted filters).filter (fun filter => filter.order = order) =
      filters.filter fun filter => filter.order = order := by
  have hties : (filters.filter fun filter => filter.order = order).Pairwise
      fun a b => inOrder a b = true := by
    rw [List.pairwise_filter]
    refine List.pairwise_of_forall fun a b ha hb => ?_
    simp only [inOrder, decide_eq_true_eq] at *
    omega
  have hsublist : (filters.filter fun filter => filter.order = order).Sublist (sorted filters) :=
    List.sublist_mergeSort inOrder_trans inOrder_total hties List.filter_sublist
  have hfiltered := hsublist.filter fun filter => decide (filter.order = order)
  have hlength := (List.mergeSort_perm filters inOrder).filter fun filter =>
    decide (filter.order = order)
  simp only [List.filter_filter, Bool.and_self] at hfiltered
  exact (hfiltered.eq_of_length hlength.length_eq.symm).symm

/-! ### The protocol -/

/-- The filters are asked once each, in ascending order, those of one order as they are given.  Each
is shown a list as long as the candidates, with a candidate hidden exactly if an earlier answer
rejects its position.  The survivors are the candidates at positions that no answer rejects, and a
candidate that does not survive is rejected by a filter that is shown it: what an answer says about
hidden candidates or behind the last one does not count. -/
theorem survivors_protocol (candidates : List String) (filters : List Filter) (metadata : Metadata)
    (s : Store) :
    (sorted filters).Perm filters ∧
    (sorted filters).Pairwise (fun a b => a.order ≤ b.order) ∧
    (∀ order : Int, (sorted filters).filter (fun filter => filter.order = order) =
      filters.filter fun filter => filter.order = order) ∧
    ∃ answers t u, Consults candidates metadata (sorted filters) [] s answers t ∧ t.Logs u ∧
      survivors candidates filters metadata s = (remaining candidates answers, u) ∧
      (∀ before, (shown candidates before).length = candidates.length) ∧
      ∀ i candidate, candidates[i]? = some candidate →
        (rejected answers i = true ↔ ∃ before answer after, answers = before ++ answer :: after ∧
          rejects answer i = true ∧ (shown candidates before)[i]? = some (some candidate)) := by
  obtain ⟨answers, t, u, hconsults, hlogs, hrun⟩ := survivors_spec candidates filters metadata s
  exact ⟨List.mergeSort_perm _ _, pairwise_sorted filters, filter_sorted filters, answers, t, u,
    hconsults, hlogs, hrun, fun _ => length_shown, fun _ _ => rejected_iff⟩

end Filter

end AppLauncher
