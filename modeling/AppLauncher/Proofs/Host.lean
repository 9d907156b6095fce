import AppLauncher.Host
import Mathlib.Tactic.Common

/-!
# Running computations in a process

Whatever a process does it does by procedures, and `Procedure.run_bind` and
`Procedure.run_bindExcept` follow them step by step.  Carrying out a computation on the store
changes what the process knows about its logging in no way, and leaves nothing behind that has not
been delivered (`Host.perform_logging`, `Host.perform_trail`).
-/

namespace AppLauncher

namespace Procedure

variable {ε α β : Type}

/-- The second of two procedures goes on in the process that the first leaves behind. -/
lemma run_bind (x : Procedure α) (f : α → Procedure β) (h : Host) :
    (x >>= f) h = f (x h).1 (x h).2 := rfl

/-- The second of two procedures that may fail goes on in the process that the first leaves behind,
if the first succeeds. -/
lemma run_bindExcept (x : ExceptT ε Procedure α) (f : α → ExceptT ε Procedure β) (h : Host) :
    (x >>= f) h = match x h with
      | (.ok a, g) => f a g
      | (.error cause, g) => (.error cause, g) := by
  show (ExceptT.bindCont f (x h).1) (x h).2 = _
  rcases x h with ⟨cause | a, g⟩ <;> rfl

/-- The causes of failures seen as others. -/
lemma run_adapt {δ : Type} (f : ε → δ) (x : ExceptT ε Procedure α) (h : Host) :
    (ExceptT.adapt f x : ExceptT δ Procedure α) h = ((x h).1.mapError f, (x h).2) := rfl

end Procedure

namespace Host

variable {α : Type}

/-! ### Delivering what a computation has left behind -/

/-- Writing to a log file changes the files only. -/
lemma printTo_eq (h : Host) (file : Path) (text : String) :
    ∃ files, h.printTo file text = { h with store.files := files } := by
  unfold printTo
  split
  · exact ⟨_, rfl⟩
  · exact ⟨h.store.files, rfl⟩

/-- A record that is delivered changes nothing about the logging, and leaves no trail. -/
lemma deliverRecord_spec (h : Host) (record : Record) :
    (h.deliverRecord record).logging = h.logging ∧
      (h.deliverRecord record).store.trail = h.store.trail := by
  unfold deliverRecord
  split
  · exact ⟨rfl, rfl⟩
  · split
    · split
      · obtain ⟨files, hfiles⟩ := h.printTo_eq ‹Path› record.text
        rw [hfiles]
        exact ⟨rfl, rfl⟩
      · exact ⟨rfl, rfl⟩
    · exact ⟨rfl, rfl⟩

/-- An event that is delivered changes nothing about the logging, and leaves no trail. -/
lemma deliver_spec (h : Host) (event : Event) :
    (h.deliver event).logging = h.logging ∧ (h.deliver event).store.trail = h.store.trail := by
  cases event with
  | logged record => exact h.deliverRecord_spec record
  | called call => exact ⟨rfl, rfl⟩
  | consulted filter candidates => exact ⟨rfl, rfl⟩

/-- Events that are delivered change nothing about the logging, and leave no trail. -/
lemma foldl_deliver_spec (events : List Event) (h : Host) :
    (events.foldl deliver h).logging = h.logging ∧
      (events.foldl deliver h).store.trail = h.store.trail := by
  induction events generalizing h with
  | nil => exact ⟨rfl, rfl⟩
  | cons event events ih =>
    obtain ⟨hlogging, htrail⟩ := h.deliver_spec event
    rw [List.foldl_cons, ← hlogging, ← htrail]
    exact ih (h.deliver event)

/-! ### Carrying out a computation -/

/-- Carrying out a computation on the store changes nothing about the logging. -/
@[simp]
lemma perform_logging (action : Action α) (h : Host) : (perform action h).2.logging = h.logging :=
  (foldl_deliver_spec _ _).1

/-- When a computation on the store has been carried out, everything has been delivered. -/
@[simp]
lemma perform_trail (action : Action α) (h : Host) : (perform action h).2.store.trail = [] :=
  (foldl_deliver_spec _ _).2

/-- The result of a computation on the store. -/
lemma run_eq (action : Action α) (h : Host) :
    run action h = ((action { h.store with trail := [] }).1, (perform action h).2) := rfl

/-- What a computation on the store gives back changes nothing about the logging either. -/
@[simp]
lemma run_logging (action : Action α) (h : Host) : (run action h).2.logging = h.logging := by
  rw [run_eq, perform_logging]

/-- When a computation on the store has been carried out for its result, everything has been
delivered. -/
@[simp]
lemma run_trail (action : Action α) (h : Host) : (run action h).2.store.trail = [] := by
  rw [run_eq, perform_trail]

/-- In a process that has delivered everything a record is logged by delivering it. -/
lemma log_eq {h : Host} (htrail : h.store.trail = []) (severity : Severity)
    (target message : String) (fields : List Field) :
    log severity target message fields h =
      ((), h.deliverRecord ⟨severity, target, message, fields⟩) := by
  have hstore : { h with store := { h.store with trail := [] } } = h := by
    rw [← htrail]
  exact congrArg (fun h : Host => ((), h.deliverRecord ⟨severity, target, message, fields⟩)) hstore

end Host

end AppLauncher
