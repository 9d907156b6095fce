import AppLauncher.Text.Quoted

/-!
# Text that terminals show

A terminal takes some control characters as the start of a command. Text from outside is shown with
escapes in their place, so that it cannot command the terminal. Line ends, tabs and the other
controls stay as they are, as they command nothing.
-/

namespace AppLauncher.Text.Terminal

/-- One character as a terminal can show it. -/
def escape (c : Char) : List Char :=
  match c with
  | '\x07' => ['\\', 'x', '0', '7']
  | '\x08' => ['\\', 'x', '0', '8']
  | '\x0c' => ['\\', 'x', '0', 'c']
  | '\x1b' => ['\\', 'x', '1', 'b']
  | '\x7f' => ['\\', 'x', '7', 'f']
  | c => if 0x80 ≤ c.toNat ∧ c.toNat ≤ 0x9F then Quoted.byNumber c else [c]

/-- A text as a terminal can show it. -/
def encode (s : String) : String := String.ofList (s.toList.flatMap escape)

end AppLauncher.Text.Terminal
