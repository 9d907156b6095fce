import AppLauncher.Proofs.Condition.Filtering
import AppLauncher.Proofs.Condition.Presence

/-!
# Filters in any order

A later filter is shown less than an earlier one, so that another order of the filters changes what
each of them sees.  It does not change what remains if every filter decides about each candidate by
itself (`Filter.DecidesAlone`): a candidate that is hidden has been rejected already, and one that
is shown is judged as if it were the only one.

Asking filters changes the store, and filters may look at it.  What they say has to be settled only
in the stores that come about when they are asked (`Filter.Reaches`).  There the survivors are the
candidates that no filter decides against, in whatever order the filters are asked
(`Filter.survivors_independent_of_order`).  The filter by marker classes is of this kind while the
presence of the classes is settled (`Web.filter_decidesAlone`).
-/

namespace AppLauncher

namespace Filter

/-! ### Filters that decide about candidates one by one -/

/-- The outcome that an answer has for a position, if there is one. -/
def outcomeAt (answer : List (Option Outcome)) (i : Nat) : Option Outcome := answer[i]?.join

/-- In some stores, what a filter says about a candidate that it is shown is determined by the
candidate alone: its position, the other candidates and the store do not count. -/
def DecidesAlone (filter : Filter) (metadata : Metadata) (among : Store → Prop) : Prop :=
  ∀ s t, among s → among t → ∀ (shown others : List (Option String)) (i j : Nat)
    (candidate : String), shown[i]? = some (some candidate) → others[j]? = some (some candidate) →
      outcomeAt (filter.outcomes shown metadata s).1 i =
        outcomeAt (filter.outcomes others metadata t).1 j

/-- What a filter says about a candidate when it is asked about that one alone. -/
def alone (filter : Filter) (metadata : Metadata) (s : Store) (candidate : String) :
    Option Outcome :=
  outcomeAt (filter.outcomes [some candidate] metadata s).1 0

/-- No filter decides against a candidate. -/
def acceptedBy (filters : List Filter) (metadata : Metadata) (s : Store) (candidate : String) :
    Bool :=
  filters.all fun filter => !isRejection (filter.alone metadata s candidate)

/-- One of some filters is asked about candidates, or something is logged. -/
inductive Moves (filters : List Filter) (metadata : Metadata) (s : Store) : Store → Prop where
  | asked (filter : Filter) (candidates : List (Option String)) : filter ∈ filters →
      Moves filters metadata s (filter.outcomes candidates metadata s).2
  | logged {t : Store} : s.Logs t → Moves filters metadata s t

/-- A store comes about when filters are asked about candidates, any of them and however often. -/
def Reaches (filters : List Filter) (metadata : Metadata) : Store → Store → Prop :=
  Relation.ReflTransGen (Moves filters metadata)

section

variable {filters others : List Filter} {metadata : Metadata} {s t u : Store}

/-- An answer rejects a position if its outcome there is a decision against the candidate. -/
lemma rejects_eq (answer : List (Option Outcome)) (i : Nat) :
    rejects answer i = isRejection (outcomeAt answer i) := by
  unfold rejects outcomeAt
  rcases answer[i]? with _ | _ | outcome <;> rfl

/-- A candidate that a filter is shown gets the outcome that it gets alone. -/
lemma DecidesAlone.outcomeAt_eq {filter : Filter}
    (h : filter.DecidesAlone metadata (Reaches filters metadata s))
    (ht : Reaches filters metadata s t) {shown : List (Option String)} {i : Nat}
    {candidate : String} (hi : shown[i]? = some (some candidate)) :
    outcomeAt (filter.outcomes shown metadata t).1 i = filter.alone metadata s candidate :=
  h t s ht .refl shown [some candidate] i 0 candidate hi rfl

/-! ### A run through the filters -/

/-- Filters that decide alone are consulted.  A position is rejected in the end if it has been
rejected before, or if one of them decides against the candidate there. -/
lemma Consults.rejected_eq {candidates : List String} {asked : List Filter}
    {answers all : List (List (Option Outcome))}
    (h : Consults candidates metadata asked answers t all u)
    (halone : ∀ filter ∈ filters, filter.DecidesAlone metadata (Reaches filters metadata s))
    (hasked : ∀ filter ∈ asked, filter ∈ filters) (ht : Reaches filters metadata s t) :
    Reaches filters metadata s u ∧ ∀ i candidate, candidates[i]? = some candidate →
      rejected all i = (rejected answers i ||
        asked.any fun filter => isRejection (filter.alone metadata s candidate)) := by
  induction h with
  | done =>
    refine ⟨ht, fun i candidate _ => ?_⟩
    rw [List.any_nil, Bool.or_false]
  | @ask filter asked answers all answer t v w u hanswer hlogs _ ih =>
    have hfilter : filter ∈ filters := hasked filter (.head _)
    have hmoves : Moves filters metadata t v := by
      have hasks : Moves filters metadata t _ := .asked filter (shown candidates answers) hfilter
      rwa [hanswer] at hasks
    obtain ⟨hu, hrejected⟩ := ih (fun other hother => hasked other (.tail _ hother))
      ((ht.tail hmoves).tail (.logged hlogs))
    refine ⟨hu, fun i candidate hi => ?_⟩
    rw [hrejected i candidate hi, rejected_concat, List.any_cons, ← Bool.or_assoc]
    congr 1
    cases hbefore : rejected answers i with
    | true => rfl
    | false =>
      have hshown : (shown candidates answers)[i]? = some (some candidate) := by
        rw [getElem?_shown, hi, hbefore]
        rfl
      have houtcome := (halone filter hfilter).outcomeAt_eq ht hshown
      rw [hanswer] at houtcome
      rw [rejects_eq, houtcome]

/-- The candidates at positions that are not rejected are those that pass a test, if it is the same
test at every position. -/
lemma remaining_eq {candidates : List String} {answers : List (List (Option Outcome))}
    {passes : String → Bool}
    (h : ∀ i candidate, candidates[i]? = some candidate → rejected answers i = !passes candidate) :
    remaining candidates answers = candidates.filter passes := by
  have hsame : candidates.zipIdx.filter (fun candidate => !rejected answers candidate.2) =
      candidates.zipIdx.filter (passes ∘ Prod.fst) := by
    apply List.filter_congr
    rintro ⟨candidate, i⟩ hmem
    have hi : candidates[i]? = some candidate := List.mk_mem_zipIdx_iff_getElem?.mp hmem
    rw [h i candidate hi, Bool.not_not]
    rfl
  unfold remaining
  rw [hsame, ← List.filter_map, List.zipIdx_map_fst]

/-- The survivors of filters that decide alone are the candidates that all of them accept. -/
lemma survivors_eq
    (halone : ∀ filter ∈ filters, filter.DecidesAlone metadata (Reaches filters metadata s))
    (ht : Reaches filters metadata s t) (candidates : List String) :
    ∃ u, Reaches filters metadata s u ∧ survivors candidates filters metadata t =
      (candidates.filter (acceptedBy filters metadata s), u) := by
  obtain ⟨answers, v, u, hconsults, hlogs, hrun⟩ := survivors_spec candidates filters metadata t
  have hperm : (sorted filters).Perm filters := List.mergeSort_perm _ _
  obtain ⟨hv, hrejected⟩ := hconsults.rejected_eq halone (fun _ h => hperm.mem_iff.mp h) ht
  have htest : ∀ i candidate, candidates[i]? = some candidate →
      rejected answers i = !acceptedBy filters metadata s candidate := by
    intro i candidate hi
    rw [hrejected i candidate hi, acceptedBy, ← List.not_any_eq_all_not, Bool.not_not,
      ← hperm.any_eq]
    rfl
  refine ⟨u, hv.tail (.logged hlogs), ?_⟩
  rw [hrun, remaining_eq htest]

/-! ### Other orders -/

/-- Filters move a store as others do that answer alike. -/
lemma Moves.of_outcomes (h : Moves others metadata s t)
    (halike : ∀ other ∈ others, ∃ filter ∈ filters, filter.outcomes = other.outcomes) :
    Moves filters metadata s t := by
  cases h with
  | asked other candidates hother =>
    obtain ⟨filter, hfilter, hsame⟩ := halike other hother
    rw [← hsame]
    exact .asked filter candidates hfilter
  | logged hlogs => exact .logged hlogs

/-- Filters lead where others do that answer alike. -/
lemma Reaches.of_outcomes (h : Reaches others metadata s t)
    (halike : ∀ other ∈ others, ∃ filter ∈ filters, filter.outcomes = other.outcomes) :
    Reaches filters metadata s t :=
  Relation.ReflTransGen.mono (fun _ _ hmoves => Moves.of_outcomes hmoves halike) _ _ h

/-- Of filters that are the same in another order, each answers like one of the first. -/
lemma exists_outcomes_of_perm
    (h : (others.map Filter.outcomes).Perm (filters.map Filter.outcomes)) :
    ∀ other ∈ others, ∃ filter ∈ filters, filter.outcomes = other.outcomes := by
  intro other hother
  exact List.mem_map.mp (h.mem_iff.mp (List.mem_map_of_mem hother))

/-- Filters that are the same in another order accept the same candidates. -/
lemma acceptedBy_of_perm
    (h : (others.map Filter.outcomes).Perm (filters.map Filter.outcomes)) (candidate : String) :
    acceptedBy others metadata s candidate = acceptedBy filters metadata s candidate := by
  have hall := h.all_eq (f := fun judge =>
    !isRejection (outcomeAt (judge [some candidate] metadata s).1 0))
  rw [List.all_map, List.all_map] at hall
  exact hall

end

end Filter

namespace Web

/-! ### The filter by marker classes -/

/-- In stores in which the presence of the marker classes is settled, the filter by them decides
about each candidate by itself. -/
lemma filter_decidesAlone {registered : Builtins} {loader : Loader} {present : String → Bool}
    {metadata : Metadata} {among : Store → Prop}
    (h : ∀ s, among s → Settled registered loader present s) :
    (filter registered loader).DecidesAlone metadata among := by
  intro s t hs ht shown others i j candidate hi hj
  obtain ⟨u, hfirst, -⟩ := outcomes_spec (h s hs) metadata shown
  obtain ⟨v, hsecond, -⟩ := outcomes_spec (h t ht) metadata others
  rw [hfirst, hsecond]
  unfold Filter.outcomeAt
  rw [List.getElem?_map, List.getElem?_map, hi, hj]

end Web

namespace Filter

variable {filters others : List Filter} {metadata : Metadata} {s t : Store}

/-- Filters that decide about each candidate by itself leave the same candidates in whatever order
they are given and whatever their own orders are: those that no filter decides against, in the order
in which they are given and as often.  To filter what is left once more changes nothing.  The filter
by marker classes decides so wherever the presence of these classes is settled. -/
theorem survivors_independent_of_order
    (halone : ∀ filter ∈ filters, filter.DecidesAlone metadata (Reaches filters metadata s))
    (hperm : (others.map Filter.outcomes).Perm (filters.map Filter.outcomes))
    (ht : Reaches filters metadata s t) (candidates : List String) :
    (∃ u, survivors candidates others metadata t =
        (candidates.filter (acceptedBy filters metadata s), u) ∧ Reaches filters metadata s u ∧
        (survivors (candidates.filter (acceptedBy filters metadata s)) others metadata u).1 =
          candidates.filter (acceptedBy filters metadata s)) ∧
      ∀ (registered : Builtins) (loader : Loader) (present : String → Bool),
        (∀ u, Reaches filters metadata s u → Web.Settled registered loader present u) →
          (Web.filter registered loader).DecidesAlone metadata (Reaches filters metadata s) := by
  have hto := exists_outcomes_of_perm hperm
  have hback := exists_outcomes_of_perm hperm.symm
  have haccepted : acceptedBy others metadata s = acceptedBy filters metadata s :=
    funext (acceptedBy_of_perm hperm)
  have hothers : ∀ other ∈ others, other.DecidesAlone metadata (Reaches others metadata s) := by
    intro other hother
    obtain ⟨filter, hfilter, hsame⟩ := hto other hother
    intro u v hu hv
    rw [← hsame]
    exact halone filter hfilter u v (hu.of_outcomes hto) (hv.of_outcomes hto)
  obtain ⟨u, hu, hrun⟩ := survivors_eq hothers (ht.of_outcomes hback) candidates
  obtain ⟨v, -, hagain⟩ :=
    survivors_eq hothers hu (candidates.filter (acceptedBy filters metadata s))
  rw [haccepted] at hrun hagain
  refine ⟨⟨u, hrun, hu.of_outcomes hto, ?_⟩, fun _ _ _ hsettled =>
    Web.filter_decidesAlone hsettled⟩
  rw [hagain, List.filter_filter, List.filter_congr fun candidate _ => Bool.and_self _]

/-- A listed filter that judges all candidates decides about each of them by itself. -/
lemma listed_decidesAlone (number : Nat) (order : Int) (accepted refused : List String)
    (metadata : Metadata) (among : Store → Prop) :
    (listed number order accepted refused none).DecidesAlone metadata among := by
  intro s t _ _ shown others i j candidate hi hj
  show outcomeAt (shown.map (verdict accepted refused)) i =
    outcomeAt (others.map (verdict accepted refused)) j
  unfold outcomeAt
  rw [List.getElem?_map, List.getElem?_map, hi, hj]

/-- The marker class of reactive applications is registered. -/
def sampleRegistered : Builtins := [(Web.reactiveClass, none)]

/-- The filter by the registered marker classes, and one that refuses a candidate. -/
def sampleFilters : List Filter :=
  [Web.filter sampleRegistered (.registry sampleRegistered), listed 0 5 [] ["b"] none]

/-- The same filters in another order, with other orders of their own. -/
def sampleOthers : List Filter :=
  [listed 0 (-3) [] ["b"] none,
    { Web.filter sampleRegistered (.registry sampleRegistered) with order := 7 }]

/-- A store in which nothing has happened. -/
def sampleStore : Store := .start default Loader.firstFreeId

/-- The filters of the small case decide alone. -/
lemma sampleFilters_decideAlone : ∀ filter ∈ sampleFilters,
    filter.DecidesAlone Web.sampleMetadata
      (Reaches sampleFilters Web.sampleMetadata sampleStore) := by
  intro filter hfilter
  rcases List.mem_cons.mp hfilter with rfl | hlisted
  · exact Web.filter_decidesAlone fun u _ => Web.settled_builtin _ _ u
  · rw [List.mem_singleton.mp hlisted]
    exact listed_decidesAlone 0 5 [] ["b"] Web.sampleMetadata _

/-- Of five candidates one is refused and one asks for classes that are missing; the others are left
in either order of the filters. -/
theorem survivors_independent_of_order_sample :
    (∀ filter ∈ sampleFilters, filter.DecidesAlone Web.sampleMetadata
      (Reaches sampleFilters Web.sampleMetadata sampleStore)) ∧
    (sampleOthers.map Filter.outcomes).Perm (sampleFilters.map Filter.outcomes) ∧
    (survivors ["w", "b", "s", "a", "w"] sampleOthers Web.sampleMetadata sampleStore).1 =
      ["w", "a", "w"] := by
  have hperm : (sampleOthers.map Filter.outcomes).Perm (sampleFilters.map Filter.outcomes) :=
    .swap _ _ []
  obtain ⟨⟨u, hrun, -, -⟩, -⟩ := survivors_independent_of_order sampleFilters_decideAlone hperm
    .refl ["w", "b", "s", "a", "w"]
  have haccepted : ["w", "b", "s", "a", "w"].filter
      (acceptedBy sampleFilters Web.sampleMetadata sampleStore) = ["w", "a", "w"] := by
    decide +kernel
  refine ⟨sampleFilters_decideAlone, hperm, ?_⟩
  rw [hrun, haccepted]

end Filter

end AppLauncher
