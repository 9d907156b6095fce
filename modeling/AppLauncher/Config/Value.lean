import AppLauncher.Text.Number

/-!
# Configuration values and paths

A configuration is a tree of values. A path leads into it by keys and indices. Setting a table
merges it into the table that is there; setting anything else replaces what is there; and on the way
to the place, tables and lists are made where they are missing. Positions in lists are words of 64
bits, so that an index which counts back beyond the start of a list stands for a position far behind
its end.
-/

namespace AppLauncher.Config

/-- A value of a configuration. -/
inductive Value where
  | null
  | bool (b : Bool)
  | integer (i : Int)
  | float (x : Float)
  | text (s : String)
  | list (items : List Value)
  | table (entries : List (String × Value))
deriving Inhabited

/-- Why a list cannot be made long enough for a position. -/
inductive Overrun where
  /-- The length of a list that reaches up to the position wraps around, so that it is empty. -/
  | outOfBounds (position : Nat)
  /-- The list would not fit into memory. -/
  | tooLong
deriving DecidableEq, Repr

/-- The cause in words. -/
def Overrun.message : Overrun → String
  | outOfBounds position =>
    "index out of bounds: the len is 0 but the index is " ++ toString position
  | tooLong => "capacity overflow"

/-- The number of bytes that an item of a list takes. -/
def itemSize : Nat := 96

/-- The number of items that fit into memory, whose addresses are positive numbers of 64 bits. -/
def maxItems : Nat := (Text.wordBound 63 - 1) / itemSize

/-- A step of a path. -/
inductive Step where
  | child (key : String)
  /-- An index into a list; negative ones count from its end. -/
  | index (i : Int)
deriving DecidableEq, Repr

namespace Value

/-- The entries of a table; other values have none. -/
def entries : Value → List (String × Value)
  | table entries => entries
  | _ => []

/-- The items of a list; other values have none. -/
def items : Value → List Value
  | list items => items
  | _ => []

/-- The entry of a key. -/
def find? (key : String) (entries : List (String × Value)) : Option Value :=
  (entries.find? (·.1 = key)).map (·.2)

/-- Sets the entry of a key, in place or at the end. -/
def setEntry (key : String) (value : Value) : List (String × Value) → List (String × Value)
  | [] => [(key, value)]
  | (k, v) :: rest => if k = key then (k, value) :: rest else (k, v) :: setEntry key value rest

/-- The position that an index stands for in a list of a given length. -/
def position (i : Int) (length : Nat) : Nat :=
  if 0 ≤ i then i.toNat else ((length + i) % (Text.wordBound 64 : Int)).toNat

/-- What a step leads to. -/
def step? (v : Value) : Step → Option Value
  | .child key => find? key v.entries
  | .index i => v.items[position i v.items.length]?

/-- What a path leads to. -/
def get? (v : Value) (path : List Step) : Option Value := path.foldlM step? v

mutual

/-- Merges a value into what stands under a key of a table; a value that is no table is replaced by
one. -/
def merge (v : Value) (key : String) : Value → Value
  | table entries =>
    .table (setEntry key (mergeAll ((find? key v.entries).getD (.table [])) entries) v.entries)
  | new => .table (setEntry key new v.entries)
termination_by new => sizeOf new

/-- Merges entries into a table one after the other. -/
def mergeAll (v : Value) : List (String × Value) → Value
  | [] => v
  | (key, new) :: rest => mergeAll (merge v key new) rest
termination_by entries => sizeOf entries

end

/-- Fills a list up with nulls until it has a position. The length that this takes is a word of 64
bits too, so that for the last position of all it is zero. -/
def reach (n : Nat) (items : List Value) : Except Overrun (List Value) :=
  if n < items.length then .ok items
  else
    let length := (n + 1) % Text.wordBound 64
    if length = 0 then .error (.outOfBounds n)
    else if maxItems < length then .error .tooLong
    else .ok (items ++ List.replicate (length - items.length) null)

/-- Sets what a path leads to. -/
def put (new : Value) : List Step → Value → Except Overrun Value
  | [], _ => .ok new
  | [.child key], v => .ok (merge v key new)
  | .child key :: rest, v => do
    let inner ← put new rest ((find? key v.entries).getD .null)
    return .table (setEntry key inner v.entries)
  | .index i :: rest, v => do
    let n := position i v.items.length
    let items ← reach n v.items
    let inner ← put new rest ((items[n]?).getD .null)
    return .list (items.set n inner)

end Value

/-! ### Reading paths -/

/-- Whether a character may be part of a key in a path. -/
def isKeyChar (c : Char) : Bool :=
  ('a' ≤ c && c ≤ 'z') || ('A' ≤ c && c ≤ 'Z') || ('0' ≤ c && c ≤ '9') || c = ' ' || c = '_' ||
    c = '-'

/-- Reads a key at the start of a text. -/
def keyStep? (cs : List Char) : Option (Step × List Char) :=
  match cs.takeWhile isKeyChar with
  | [] => none
  | key => some (.child (String.ofList key), cs.dropWhile isKeyChar)

/-- Whether a character may stand around an index. -/
def isIndexBlank (c : Char) : Bool := c = ' ' || c = '\t'

/-- The bound of indices. -/
def indexBound : Nat := Text.wordBound 63

/-- Reads an index and the closing bracket behind it. -/
def indexStep? (cs : List Char) : Option (Step × List Char) :=
  let cs := cs.dropWhile isIndexBlank
  let (sign, cs) := match cs with
    | '-' :: rest => (['-'], rest)
    | _ => ([], cs)
  let digits := cs.takeWhile Char.isDigit
  match (cs.dropWhile Char.isDigit).dropWhile isIndexBlank with
  | ']' :: rest =>
    if digits = [] then none
    else (Text.signed? indexBound (sign ++ digits)).map fun i => (.index i, rest)
  | _ => none

/-- Reads the steps after the first one. The number bounds how many there can be. -/
def stepsFrom? : Nat → List Char → Option (List Step)
  | _, [] => some []
  | 0, _ => none
  | bound + 1, c :: cs => do
    let (step, rest) ← if c = '.' then keyStep? cs else if c = '[' then indexStep? cs else none
    return step :: (← stepsFrom? bound rest)

/-- Reads a path: a key, and further keys after dots and indices in brackets. -/
def path? (text : String) : Option (List Step) := do
  let (first, rest) ← keyStep? text.toList
  return first :: (← stepsFrom? rest.length rest)

end AppLauncher.Config
