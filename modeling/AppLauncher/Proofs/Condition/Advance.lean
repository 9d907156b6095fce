import AppLauncher.Proofs.Condition.Filtering
import AppLauncher.Proofs.Condition.Presence

/-!
# Candidates that are rejected in advance

The condition on web applications judges candidates twice: in advance, from a text in their metadata
and from the marker classes alone, and later, from the marks of the type itself and all that is
known about the running application.  The first judgement may only reject what the second one
rejects.

Both look marker classes up, and both first make a kind of application of a text.  What can be
foreseen of this kind (`Web.foreseen`) is that classes are missing, and without these classes the
application is not of the kind, whatever else is known about it (`Web.isMatch_isOfKind`).
-/

namespace AppLauncher

namespace Web

variable {registered : Builtins} {context : Context} {present : String → Bool} {s t : Store}
  {marks : Marks}

/-! ### Judging without marker classes -/

/-- Without its marker class an application is no servlet application. -/
lemma isServlet_spec (h : Settled registered context.loader present s) :
    ∃ outcome t, isServlet registered context s = (outcome, t) ∧
      Settled registered context.loader present t ∧
      (present servletClass = false → outcome.isMatch = false) := by
  obtain ⟨t, hservlet, ht⟩ := h.isPresent servletClass_mem
  unfold isServlet
  rw [Action.run_bind, hservlet]
  cases present servletClass with
  | true => exact ⟨_, t, rfl, ht, nofun⟩
  | false => exact ⟨_, t, rfl, ht, fun _ => rfl⟩

/-- Without its marker class an application is no reactive application. -/
lemma isReactive_spec (h : Settled registered context.loader present s) :
    ∃ outcome t, isReactive registered context s = (outcome, t) ∧
      Settled registered context.loader present t ∧
      (present reactiveClass = false → outcome.isMatch = false) := by
  obtain ⟨t, hreactive, ht⟩ := h.isPresent reactiveClass_mem
  unfold isReactive
  rw [Action.run_bind, hreactive]
  cases present reactiveClass with
  | true => exact ⟨_, t, rfl, ht, nofun⟩
  | false => exact ⟨_, t, rfl, ht, fun _ => rfl⟩

/-- Without marker classes an application is no web application. -/
lemma isMatch_isAny (h : Settled registered context.loader present s) (required : Bool)
    (hservlet : present servletClass = false) (hreactive : present reactiveClass = false) :
    (isAny registered context required s).1.isMatch = false := by
  obtain ⟨servlet, t, hfirst, ht, hnoServlet⟩ := isServlet_spec h
  obtain ⟨reactive, u, hsecond, -, hnoReactive⟩ := isReactive_spec ht
  have hservletMatch := hnoServlet hservlet
  have hreactiveMatch := hnoReactive hreactive
  unfold isAny
  rw [Action.run_bind, hfirst]
  dsimp only
  rw [hservletMatch, if_neg (by simp), Action.run_bind, hsecond]
  dsimp only
  rw [hreactiveMatch, if_neg (by simp)]
  rfl

/-- Whether an application is of a kind. -/
def isOfKind (registered : Builtins) (context : Context) (required : Bool) : Kind → Action Outcome
  | .servlet => isServlet registered context
  | .reactive => isReactive registered context
  | .any => isAny registered context required

/-- A type is judged by whether the application is of the kind that it asks for: with the mark it
has to be, without it it must not be. -/
lemma run_judge (registered : Builtins) (context : Context) (marks : Marks) (s : Store) :
    (judge registered context marks s).1.isMatch = decide (marks.contains mark =
      (isOfKind registered context (marks.contains mark) (kindOf marks) s).1.isMatch) := by
  unfold judge isOfKind
  cases kindOf marks <;> rfl

/-- There is something where otherwise there is nothing. -/
lemma eq_false_of_some {missed : Bool} {message : Message} {outcome : Outcome}
    (h : (if missed then none else some (Outcome.noMatch message)) = some outcome) :
    missed = false := by
  cases missed with
  | false => rfl
  | true => cases h

/-- Something is foreseen of a kind only when all marker classes are missing that would do for
it. -/
lemma missing_of_foreseen {kind : Kind} {outcome : Outcome}
    (h : foreseen present kind = some outcome) :
    (kind ≠ .reactive → present servletClass = false) ∧
      (kind ≠ .servlet → present reactiveClass = false) := by
  cases kind with
  | servlet => exact ⟨fun _ => eq_false_of_some h, fun hne => absurd rfl hne⟩
  | reactive => exact ⟨fun hne => absurd rfl hne, fun _ => eq_false_of_some h⟩
  | any =>
    obtain ⟨hservlet, hreactive⟩ := Bool.or_eq_false_iff.mp (eq_false_of_some h)
    exact ⟨fun _ => hservlet, fun _ => hreactive⟩

/-- An application is not of a kind of which this has been foreseen. -/
lemma isMatch_isOfKind (h : Settled registered context.loader present s) (required : Bool)
    {kind : Kind}
    {outcome : Outcome} (hforeseen : foreseen present kind = some outcome) :
    (isOfKind registered context required kind s).1.isMatch = false := by
  obtain ⟨hservlet, hreactive⟩ := missing_of_foreseen hforeseen
  cases kind with
  | servlet =>
    obtain ⟨found, t, hrun, -, hnone⟩ := isServlet_spec h
    show (isServlet registered context s).1.isMatch = false
    rw [hrun]
    exact hnone (hservlet nofun)
  | reactive =>
    obtain ⟨found, t, hrun, -, hnone⟩ := isReactive_spec h
    show (isReactive registered context s).1.isMatch = false
    rw [hrun]
    exact hnone (hreactive nofun)
  | any => exact isMatch_isAny h required (hservlet nofun) (hreactive nofun)

/-! ### Both judgements -/

/-- A type with a value under its first mark has the mark, and asks for the kind of the value. -/
lemma kindOf_of_value? {value : String} (h : marks.value? mark typeKey = some value) :
    marks.contains mark = true ∧ kindOf marks = .ofValue value := by
  constructor
  · obtain ⟨entry, hfound, -⟩ := Option.bind_eq_some_iff.mp h
    have hentry := List.find?_some hfound
    exact List.any_eq_true.mpr ⟨entry, List.mem_of_find?_eq_some hfound, hentry⟩
  · unfold kindOf
    rw [h]
    rfl

/-- What is foreseen of the text in the metadata holds of a type with that text, in any context. -/
lemma isMatch_judge (h : Settled registered context.loader present s) {value : String}
    {outcome : Outcome}
    (hforeseen : foreseen present (.ofValue value) = some outcome)
    (hvalue : marks.value? mark typeKey = some value) :
    (judge registered context marks s).1.isMatch = false := by
  obtain ⟨hmark, hkind⟩ := kindOf_of_value? hvalue
  rw [run_judge, hmark, hkind, isMatch_isOfKind h true hforeseen]
  rfl

/-- An outcome in advance belongs to a candidate with a text in its metadata, and is foreseen of
it. -/
lemma exists_of_foreseenOf {metadata : Metadata} {candidate : Option String} {outcome : Outcome}
    (h : foreseenOf present metadata candidate = some outcome) :
    ∃ name value, candidate = some name ∧ metadata.get? name mark = some value ∧
      foreseen present (.ofValue value) = some outcome := by
  obtain ⟨value, hvalue, hforeseen⟩ := Option.bind_eq_some_iff.mp h
  obtain ⟨name, hname, hget⟩ := Option.bind_eq_some_iff.mp hvalue
  exact ⟨name, value, hname, hget, hforeseen⟩

/-- As long as the presence of marker classes does not change, the filter rejects in advance only
what the condition rejects later.  An outcome that it gives a position is a decision against the
candidate there; the metadata of the candidate has a text for the mark; and a type of which the
first mark has this text is rejected in every context with the same choice of loaders, whatever
scopes, environment, resource loader and further marks there are.  So no candidate is dropped whose
type the condition accepts. -/
theorem rejected_after_advance {loader : Loader} (hs : Settled registered loader present s)
    (ht : Settled registered loader present t) (metadata : Metadata)
    (candidates : List (Option String)) :
    (∀ (i : Nat) (outcome : Outcome),
      ((filter registered loader).outcomes candidates metadata s).1[i]? = some (some outcome) →
        outcome.isMatch = false ∧ ∃ candidate value, candidates[i]? = some (some candidate) ∧
          metadata.get? candidate mark = some value ∧
          ∀ (context : Context) (marks : Marks), context.loader = loader →
            marks.value? mark typeKey = some value →
            (judge registered context marks t).1.isMatch = false) ∧
    ∀ (i : Nat) (candidate : String), candidates[i]? = some (some candidate) →
      ∀ (context : Context) (marks : Marks), context.loader = loader →
        (∀ value, metadata.get? candidate mark = some value →
          marks.value? mark typeKey = some value) →
        (judge registered context marks t).1.isMatch = true →
        ((filter registered loader).passes candidates metadata s).1[i]? = some true := by
  obtain ⟨u, hrun, -⟩ := outcomes_spec hs metadata candidates
  constructor
  · intro i outcome houtcome
    rw [hrun, List.getElem?_map] at houtcome
    obtain ⟨candidate?, hi, hforeseenOf⟩ := Option.map_eq_some_iff.mp houtcome
    obtain ⟨candidate, value, rfl, hget, hforeseen⟩ := exists_of_foreseenOf hforeseenOf
    refine ⟨isMatch_of_foreseen hforeseen, candidate, value, hi, hget, ?_⟩
    rintro context marks rfl hvalue
    exact isMatch_judge ht hforeseen hvalue
  · rintro i candidate hi context marks rfl hvalue haccepted
    obtain ⟨v, -, hpasses⟩ := Filter.passing_spec
      (candidates.map (foreseenOf present metadata)) candidates u
    unfold Filter.passes
    rw [Action.run_bind, hrun, hpasses, List.getElem?_zipWith, List.getElem?_map, hi]
    cases hforeseenOf : foreseenOf present metadata (some candidate) with
    | none => simp [hforeseenOf, Filter.isRejection]
    | some outcome =>
      obtain ⟨name, value, hname, hget, hforeseen⟩ := exists_of_foreseenOf hforeseenOf
      cases hname
      rw [isMatch_judge ht hforeseen (hvalue value hget)] at haccepted
      cases haccepted

/-- A store with the small chain as its context loader, in which nothing has happened. -/
def sampleStore : Store := { Loader.sampleStore with context := Loader.sampleChain }

/-- The classes that the small chain has. -/
def samplePresent (name : String) : Bool := (Loader.sampleChain.origin? sampleStore name).isSome

/-- Without a loader of its own the condition asks the small chain, where the presence of classes is
settled. -/
lemma settled_sampleStore : Settled registered .absent samplePresent sampleStore := by
  have hend : ∀ depth id, Loader.sampleChain.ancestor depth ≠ .failing id := by
    rintro (_ | _ | _ | depth) id h
    · cases h
    · cases h
    · cases h
    · cases (Loader.ancestor_absent depth).symm.trans h
  have hfresh : sampleStore.Fresh Loader.sampleChain :=
    ⟨rfl, fun _ _ _ => rfl, fun _ _ _ _ _ => rfl⟩
  have hgenuine : sampleStore.Genuine := fun _ _ _ h => by cases h
  exact settled_of_faithful rfl Loader.proper_sampleChain hend Loader.unambiguous_sampleChain
    (Loader.faithful_of_fresh hfresh hgenuine)

/-- A candidate that asks for a servlet application is rejected in advance for want of a class, and
later, too, although everything else speaks for it. -/
theorem rejected_after_advance_sampleStore :
    ∃ t, Settled Loader.sampleBuiltins .absent samplePresent sampleStore ∧
      Settled Loader.sampleBuiltins .absent samplePresent t ∧
      (filter Loader.sampleBuiltins .absent).outcomes [none, some "s"] sampleMetadata sampleStore =
        ([none, some (.noMatch (missingClasses "servlet"))], t) ∧
      (judge Loader.sampleBuiltins
        ⟨.absent, some [sessionScope], .servletWeb, .webApplicationContext⟩
        ⟨[(mark, [(typeKey, "SERVLET")]), (mark, [(typeKey, "ANY")])]⟩ t).1.isMatch = false := by
  obtain ⟨t, hrun, ht⟩ := outcomes_spec settled_sampleStore sampleMetadata [none, some "s"]
  have hforeseen : [none, some "s"].map (foreseenOf samplePresent sampleMetadata) =
      [none, some (.noMatch (missingClasses "servlet"))] := by
    decide +kernel
  rw [hforeseen] at hrun
  obtain ⟨hrejected, -⟩ := rejected_after_advance settled_sampleStore ht sampleMetadata
    [none, some "s"]
  rw [hrun] at hrejected
  obtain ⟨-, candidate, value, hcandidate, hvalue, hlater⟩ := hrejected 1 _ rfl
  cases hcandidate
  have hservlet : sampleMetadata.get? "s" mark = some "SERVLET" := by decide +kernel
  cases hservlet.symm.trans hvalue
  exact ⟨t, settled_sampleStore, ht, hrun, hlater _ _ rfl rfl⟩

end Web

end AppLauncher
