/-!
# Interruptions

A computation that does not return ends with an error, which its caller can deal with, or with a
panic, which ends everything that the computation is a part of.
-/

namespace AppLauncher

/-- How a computation ends when it does not return. -/
inductive Interruption (ε : Type) where
  | error (cause : ε)
  | panic (text : String)
deriving DecidableEq, Repr

namespace Interruption

/-- The interruption with its error, if it is one, seen as another. -/
def map {ε δ : Type} (f : ε → δ) : Interruption ε → Interruption δ
  | error cause => .error (f cause)
  | panic text => .panic text

@[simp] theorem map_error {ε δ : Type} (f : ε → δ) (cause : ε) :
    (error cause).map f = .error (f cause) := rfl

@[simp] theorem map_panic {ε δ : Type} (f : ε → δ) (text : String) :
    (panic text : Interruption ε).map f = .panic text := rfl

end Interruption

end AppLauncher
