import AppLauncher.Archive.Url
import AppLauncher.FileSystem.Fault
import AppLauncher.Tar.Header
import AppLauncher.Text.Quoted

/-!
# Why an archive cannot be used

The causes of failures of archives, their texts, and the form in which a log shows their structure.
-/

namespace AppLauncher

/-- What is wrong with the bytes of an archive. -/
inductive Malformation where
  | tar (fault : Tar.Fault)
  /-- The data of an entry does not lie within the stream. -/
  | outOfBounds (entry : String)
  /-- The trailer of an artifact points behind itself. -/
  | payloadOffset (offset : Nat)
  | scripted (text : String)
deriving DecidableEq, Repr

/-- The cause of a failed use of an archive. -/
inductive ArchiveError where
  | io (path : Path) (fault : FileSystem.Fault)
  | malformed (url : Url) (reason : Malformation)
  | missingEntry (url : Url) (name : String)
deriving DecidableEq, Repr

/-- What is wrong with the bytes of an archive, in words. -/
def Malformation.message : Malformation → String
  | .tar fault => fault.message
  | .outOfBounds entry => "entry " ++ entry ++ " exceeds archive bounds"
  | .payloadOffset offset => "payload offset " ++ toString offset ++ " exceeds artifact size"
  | .scripted text => "scripted: " ++ text

namespace ArchiveError

/-- The cause in words. -/
def message : ArchiveError → String
  | .io path fault => "Error reading archive " ++ path.text ++ ": " ++ fault.message
  | .malformed url reason => "Malformed archive " ++ url.text ++ ": " ++ reason.message
  | .missingEntry url name => "Cannot find entry " ++ name ++ " in archive " ++ url.text

end ArchiveError

/-! ### The structure of a cause, as logs show it -/

/-- A record with named fields. -/
def showRecord (name : String) (fields : List (String × String)) : String :=
  name ++ " \x7b " ++ ", ".intercalate (fields.map fun (key, value) => key ++ ": " ++ value) ++
    " \x7d"

/-- The structure of a url. -/
def Url.structureText : Url → String
  | .directory path => "Directory(" ++ Text.Quoted.encode path.text ++ ")"
  | .packaged root nested =>
    showRecord "Packaged" [("root", Text.Quoted.encode root.text),
      ("nested", "[" ++ ", ".intercalate (nested.map Text.Quoted.encode) ++ "]")]

/-- The structure of a fault. -/
def FileSystem.Fault.structureText (f : Fault) : String :=
  match f.number? with
  | some n =>
    showRecord "Os" [("code", toString n), ("kind", f.kind),
      ("message", Text.Quoted.encode f.text)]
  | none =>
    showRecord "Error" [("kind", f.kind), ("message", Text.Quoted.encode f.text)]

/-- The structure of a cause. -/
def ArchiveError.structureText : ArchiveError → String
  | .io path fault =>
    showRecord "Io" [("path", Text.Quoted.encode path.text), ("source", fault.structureText)]
  | .malformed url reason =>
    showRecord "Malformed" [("url", url.structureText),
      ("reason", Text.Quoted.encode reason.message)]
  | .missingEntry url name =>
    showRecord "MissingEntry" [("url", url.structureText), ("name", Text.Quoted.encode name)]

end AppLauncher
