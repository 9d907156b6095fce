import AppLauncher.FileSystem.Fault
import AppLauncher.Path

/-!
# Why a logger cannot be installed

The causes of failures of logging, and their texts.
-/

namespace AppLauncher.Logging

/-- Why a logger cannot be installed. -/
inductive Error where
  | unknownLevel (text : String)
  | invalidFilter
  | logFile (path : Path) (fault : FileSystem.Fault)
  /-- There is a logger already. -/
  | install
deriving DecidableEq, Repr

/-- The cause in words. -/
def Error.message : Error → String
  | unknownLevel text => "Unknown log level: " ++ text
  | invalidFilter => "Invalid log filter: invalid filter directive"
  | logFile path fault => "Cannot open log file " ++ path.text ++ ": " ++ fault.message
  | install => "Cannot install logger: a logger has already been installed"

end AppLauncher.Logging
