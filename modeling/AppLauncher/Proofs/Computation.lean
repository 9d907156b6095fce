import AppLauncher.Store
import Mathlib.Tactic.Common

/-!
# Running computations on the store

A computation on the store is a function, and an attempt is one whose result may be a failure.  The
lemmas `Action.run_*` and `Attempt.run_*` say what each way of composing computations does to a
store; with them a computation is followed step by step, and the composition itself is never opened
again.
-/

namespace AppLauncher

variable {ε δ α β : Type}

/-- A result that is there is a success. -/
lemma eq_ok_of_toOption {x : Except ε α} {a : α} (h : x.toOption = some a) :
    x = .ok a := by
  cases x with
  | error cause => cases h
  | ok b =>
    cases h
    rfl

namespace Action

/-- The second of two computations runs on the store that the first leaves behind. -/
lemma run_bind (x : Action α) (f : α → Action β) (s : Store) :
    (x >>= f) s = f (x s).1 (x s).2 := rfl

end Action

namespace Attempt

/-- A value given back is a success. -/
lemma run_pure (a : α) (s : Store) : (pure a : Attempt ε α) s = (.ok a, s) := rfl

/-- A computation that cannot fail is an attempt that succeeds. -/
lemma run_lift (x : Action α) (s : Store) :
    (liftM x : Attempt ε α) s = (.ok (x s).1, (x s).2) := rfl

/-- Asking for the result of an attempt always succeeds. -/
lemma run_result (x : Attempt ε α) (s : Store) :
    (x.result : Attempt δ (Except ε α)) s = (.ok (x s).1, (x s).2) := rfl

/-- An attempt is a computation of its result. -/
lemma run_run (x : Attempt ε α) (s : Store) : (ExceptT.run x : Action (Except ε α)) s = x s := rfl

/-- The second of two attempts runs on the store that the first leaves behind, if the first
succeeds. -/
lemma run_bind (x : Attempt ε α) (f : α → Attempt ε β) (s : Store) :
    (x >>= f) s = match x s with
      | (.ok a, t) => f a t
      | (.error cause, t) => (.error cause, t) := by
  show (ExceptT.bindCont f (x s).1) (x s).2 = _
  rcases h : x s with ⟨cause | a, t⟩ <;> rfl

/-- The second of two attempts after a first one that succeeds. -/
lemma run_bind_ok {x : Attempt ε α} {s t : Store} {a : α} (h : x s = (.ok a, t))
    (f : α → Attempt ε β) : (x >>= f) s = f a t := by
  rw [run_bind, h]

/-- A computation that cannot fail, followed by an attempt. -/
lemma run_bind_lift (x : Action α) (f : α → Attempt ε β) (s : Store) :
    ((liftM x : Attempt ε α) >>= f) s = f (x s).1 (x s).2 := by
  rw [run_bind, run_lift]

/-- A look at the files, followed by an attempt. -/
lemma run_bind_files (f : FileSystem → Attempt ε β) (s : Store) :
    ((liftM Action.files : Attempt ε FileSystem) >>= f) s = f s.files s :=
  run_bind_lift Action.files f s

/-- A failure of the first of two attempts is the result of both. -/
lemma run_bind_error {x : Attempt ε α} {s t : Store} {cause : ε} (h : x s = (.error cause, t))
    (f : α → Attempt ε β) : (x >>= f) s = (.error cause, t) := by
  rw [run_bind, h]

/-- A function applied to the result of an attempt. -/
lemma run_map (f : α → β) (x : Attempt ε α) (s : Store) :
    (f <$> x) s = ((x s).1.map f, (x s).2) := by
  show (x >>= fun a => pure (f a)) s = _
  rw [run_bind]
  rcases h : x s with ⟨cause | a, t⟩ <;> rfl

/-- The causes of failures seen as others. -/
lemma run_adapt (f : ε → δ) (x : Attempt ε α) (s : Store) :
    (ExceptT.adapt f x : Attempt δ α) s = ((x s).1.mapError f, (x s).2) := rfl

/-- A result that is known already. -/
lemma run_liftExcept (x : Except ε α) (s : Store) : (liftExcept x : Attempt ε α) s = (x, s) := by
  cases x <;> rfl

end Attempt

end AppLauncher
