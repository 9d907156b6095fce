import AppLauncher.FileSystem.Fault
import AppLauncher.FileSystem.Node

/-!
# Walking along paths

A path is followed step by step from the root or from the working directory. Each step needs a
directory to stand in; `.` stays, `..` goes up, and a symbolic link is replaced by the path that it
holds, at most forty times.
-/

namespace AppLauncher

/-- A tree of files and the directory that relative paths start from. -/
structure FileSystem where
  root : FileSystem.Node
  /-- The location of the working directory. -/
  working : List String
deriving Inhabited

namespace FileSystem

/-- Where a walk along a path ends: at a node, or at a name that a directory does not have. -/
inductive Place where
  | found (location : List String) (node : Node)
  | vacant (directory : List String) (name : String)

/-- Where a walk stops for the first time: at its end, at a symbolic link with steps still to go,
or at a fault. -/
inductive Halt where
  | place (place : Place)
  | link (directory : List String) (target : Path) (rest : List String)
  | fault (fault : Fault)

/-- The longest name that a directory takes, in bytes. -/
def maxNameLength : Nat := 255

/-- The length that paths stay below, in bytes. -/
def maxPathLength : Nat := 4096

/-- The number of symbolic links that one walk follows. -/
def maxLinks : Nat := 40

/-- The steps of a path. A slash at the end asks for a directory, as a last step `.` does. -/
def steps (p : Path) : List String :=
  let names := p.pieces.filter (· ≠ "")
  if Text.endsWithSlash p.text ∧ names ≠ [] then names ++ ["."] else names

/-- Walks from a location up to the end or to the next symbolic link. A link at the very end counts
as the end unless `last` asks to follow it. -/
def advance (root : Node) (last : Bool) : List String → List String → Halt
  | location, [] =>
    match root.at? location with
    | some node => .place (.found location node)
    | none => .fault .notFound
  | location, step :: rest =>
    match root.at? location with
    | some (.directory children) =>
      if step = "." then advance root last location rest
      else if step = ".." then advance root last location.dropLast rest
      else if step.utf8ByteSize > maxNameLength then .fault .nameTooLong
      else match children.get? step with
        | none => if rest = [] then .place (.vacant location step) else .fault .notFound
        | some (.link target) =>
          if rest = [] ∧ last = false then .place (.found (location ++ [step]) (.link target))
          else .link location target rest
        | some _ => advance root last (location ++ [step]) rest
    | some _ => .fault .notDirectory
    | none => .fault .notFound

/-- Walks to the end, following at most the given number of symbolic links. -/
def follow (root : Node) (last : Bool) (links : Nat) (location steps : List String) :
    Except Fault Place :=
  match advance root last location steps with
  | .place place => .ok place
  | .fault fault => .error fault
  | .link directory target rest =>
    match links with
    | 0 => .error .tooManyLinks
    | links + 1 =>
      follow root last links (if target.isAbsolute then [] else directory)
        (FileSystem.steps target ++ rest)

/-- Where a path leads. -/
def resolve (files : FileSystem) (last : Bool) (p : Path) : Except Fault Place :=
  if p.text.toList.contains '\x00' then .error .nulInPath
  else if p.text.utf8ByteSize ≥ maxPathLength then .error .nameTooLong
  else if p.text = "" then .error .notFound
  else follow files.root last maxLinks (if p.isAbsolute then [] else files.working) (steps p)

end FileSystem

end AppLauncher
