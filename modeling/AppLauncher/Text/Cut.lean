import AppLauncher.Text.Quoted

/-!
# Cutting text at a byte

Places in a text are counted in the bytes of its UTF-8 form. A text can be cut at a place that lies
between two characters, and the two parts joined give it back (`append_of_cutAt`).
-/

namespace AppLauncher.Text

/-- The number of bytes of a text. -/
def byteLength (cs : List Char) : Nat := cs.foldl (fun n c => n + c.utf8Size) 0

/-- A place that lies within a character. -/
structure Inside where
  place : Nat
  char : Char
  /-- The place of the first byte of the character. -/
  start : Nat
deriving DecidableEq, Repr

/-- The cause in words; `role` says what is at the place. -/
def Inside.message (i : Inside) (role : String) : String :=
  role ++ " byte index " ++ toString i.place ++ " is not a char boundary; it is inside '" ++
    String.ofList (Quoted.escape i.char) ++ "' (bytes " ++ toString i.start ++ ".." ++
    toString (i.start + i.char.utf8Size) ++ " of string)"

/-- Cuts a text at a place, given how many bytes come before the text. -/
def cutFrom (before place : Nat) : List Char → Except Inside (List Char × List Char)
  | [] => .ok ([], [])
  | c :: cs =>
    if place ≤ before then .ok ([], c :: cs)
    else if place < before + c.utf8Size then .error ⟨place, c, before⟩
    else (cutFrom (before + c.utf8Size) place cs).map fun (first, second) => (c :: first, second)

/-- Cuts a text at a place. -/
def cutAt (place : Nat) (cs : List Char) : Except Inside (List Char × List Char) :=
  cutFrom 0 place cs

theorem append_of_cutFrom {before place : Nat} {cs first second : List Char}
    (h : cutFrom before place cs = .ok (first, second)) : first ++ second = cs := by
  induction cs generalizing before first with
  | nil =>
    obtain ⟨rfl, rfl⟩ : [] = first ∧ [] = second := by simpa [cutFrom] using h
    rfl
  | cons c cs ih =>
    rw [cutFrom] at h
    split at h
    · obtain ⟨rfl, rfl⟩ : [] = first ∧ c :: cs = second := by simpa using h
      rfl
    · split at h
      · simp at h
      · cases inner : cutFrom (before + c.utf8Size) place cs with
        | error inside => simp [inner, Except.map] at h
        | ok parts =>
          obtain ⟨rfl, rfl⟩ : c :: parts.1 = first ∧ parts.2 = second := by
            simpa [inner, Except.map] using h
          simp [ih inner]

/-- The parts of a text joined give it back. -/
theorem append_of_cutAt {place : Nat} {cs first second : List Char}
    (h : cutAt place cs = .ok (first, second)) : first ++ second = cs :=
  append_of_cutFrom h

end AppLauncher.Text
