/-!
# Sets of characters

A large set of characters is written as the list of the code points at which membership changes, in
ascending order: the first member, the first character after it that is no member, the next member,
and so on. `covers_eq_odd` says what that means: a number is a member if the number of edges up to
it is odd.
-/

namespace AppLauncher.Text

/-- A set of characters, given by the code points at which membership changes. -/
structure CharSet where
  edges : List Nat
deriving DecidableEq, Repr

namespace CharSet

/-- Whether a number is a member, given the edges in ascending order. -/
def covers (n : Nat) : List Nat → Bool
  | [] => false
  | edge :: edges => if n < edge then false else !covers n edges

/-- Whether a character is a member. -/
def contains (s : CharSet) (c : Char) : Bool := covers c.toNat s.edges

/-- Nothing below all edges is a member. -/
theorem covers_of_forall_lt {n : Nat} {edges : List Nat} (h : ∀ edge ∈ edges, n < edge) :
    covers n edges = false := by
  cases edges with
  | nil => rfl
  | cons edge edges => simp [covers, h edge List.mem_cons_self]

/-- A number is a member if the number of edges up to it is odd. -/
theorem covers_eq_odd {n : Nat} {edges : List Nat} (sorted : edges.Pairwise (· ≤ ·)) :
    covers n edges = decide (edges.countP (· ≤ n) % 2 = 1) := by
  induction edges with
  | nil => rfl
  | cons edge edges ih =>
    have ⟨above, sorted⟩ := List.pairwise_cons.1 sorted
    by_cases h : n < edge
    · have none : edges.countP (· ≤ n) = 0 := by
        rw [List.countP_eq_zero]
        intro other member
        have := above other member
        simp only [decide_eq_true_eq]
        omega
      have : ¬edge ≤ n := by omega
      simp [covers, h, none, this]
    · have reached : edge ≤ n := by omega
      rw [covers, if_neg h, ih sorted, List.countP_cons_of_pos (by simpa using reached)]
      by_cases odd : edges.countP (· ≤ n) % 2 = 1
      · have : ¬(edges.countP (· ≤ n) + 1) % 2 = 1 := by omega
        simp [odd, this]
      · have : (edges.countP (· ≤ n) + 1) % 2 = 1 := by omega
        simp [odd, this]

end CharSet

end AppLauncher.Text
