import AppLauncher.Interruption
import AppLauncher.Loader.Basic

/-!
# Why a launch stops

A launch stops early because a step fails or because an entry point panics.
-/

namespace AppLauncher

/-- The cause of a failed launch. -/
inductive LauncherError where
  | codeSourceMissing (path : Path)
  | missingManifest (url : Url)
  | missingStartClass (url : Url)
  | missingContextLoader
  | mainMethodNotFound (name : String)
  | archive (cause : ArchiveError)
  | loader (cause : LoaderError)
  /-- The entry point failed with a text. -/
  | application (text : String)
deriving DecidableEq, Repr

/-- The cause in words. -/
def LauncherError.message : LauncherError → String
  | codeSourceMissing path => "Unable to determine code source archive from " ++ path.text
  | missingManifest url => "No manifest found in " ++ url.text
  | missingStartClass url => "No 'Start-Class' manifest entry specified in " ++ url.text
  | missingContextLoader => "No context class loader installed for the current thread"
  | mainMethodNotFound name => "Class " ++ name ++ " does not declare an entry point"
  | archive cause => cause.message
  | loader cause => cause.message
  | application text => "Application error: " ++ text

/-- How an entry point ends when it does not return. -/
inductive Crash where
  | failure (text : String)
  | panic (text : String)
deriving DecidableEq, Repr

namespace Interruption

/-- A failed loader stops a launch. -/
def ofLoader : LoaderError → Interruption LauncherError
  | .packageVanished name => .panic (LoaderError.packageVanished name).message
  | cause => .error (.loader cause)

/-- A crashed entry point stops a launch. -/
def ofCrash : Crash → Interruption LauncherError
  | .failure text => .error (.application text)
  | .panic text => .panic text

end Interruption

end AppLauncher
