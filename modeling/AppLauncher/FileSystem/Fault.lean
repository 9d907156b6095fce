/-!
# Why a file system refuses

The causes of failed file operations, each with its system error number and text.
-/

namespace AppLauncher.FileSystem

/-- The cause of a failed file operation. -/
inductive Fault where
  | notFound
  | exists
  | notDirectory
  | isDirectory
  | invalid
  /-- The file is the image of a running program. -/
  | busy
  | nameTooLong
  | tooManyLinks
  /-- The path holds a NUL character, so the system is not asked. -/
  | nulInPath
deriving DecidableEq, Repr

namespace Fault

/-- The system error number, for faults that come from the system. -/
def number? : Fault → Option Nat
  | .notFound => some 2
  | .exists => some 17
  | .notDirectory => some 20
  | .isDirectory => some 21
  | .invalid => some 22
  | .busy => some 26
  | .nameTooLong => some 36
  | .tooManyLinks => some 40
  | .nulInPath => none

/-- What the fault is called among the kinds of input and output errors. -/
def kind : Fault → String
  | .notFound => "NotFound"
  | .exists => "AlreadyExists"
  | .notDirectory => "NotADirectory"
  | .isDirectory => "IsADirectory"
  | .invalid => "InvalidInput"
  | .busy => "ExecutableFileBusy"
  | .nameTooLong => "InvalidFilename"
  | .tooManyLinks => "FilesystemLoop"
  | .nulInPath => "InvalidInput"

/-- The fault in words. -/
def text : Fault → String
  | .notFound => "No such file or directory"
  | .exists => "File exists"
  | .notDirectory => "Not a directory"
  | .isDirectory => "Is a directory"
  | .invalid => "Invalid argument"
  | .busy => "Text file busy"
  | .nameTooLong => "File name too long"
  | .tooManyLinks => "Too many levels of symbolic links"
  | .nulInPath => "file name contained an unexpected NUL byte"

/-- The fault in words, with its number. -/
def message (f : Fault) : String :=
  match f.number? with
  | some n => f.text ++ " (os error " ++ toString n ++ ")"
  | none => f.text

end Fault

end AppLauncher.FileSystem
