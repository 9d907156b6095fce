import AppLauncher.Archive.Basic
import AppLauncher.Launch.Error

/-!
# Layouts of executable archives

A layout says which entries of an executable archive are parts of its class path, and arranges the
archives that they become.
-/

namespace AppLauncher

/-- The layout of an executable archive. -/
structure Layout where
  /-- Whether an entry becomes an archive of the class path. -/
  isNested : Entry → Bool
  /-- Arranges the archives of the class path. -/
  arrange : List Archive → Except LauncherError (List Archive)

namespace Layout

/-- The directory of the classes of an application. -/
def classesDirectory : String := "BOOT-INF/classes/"

/-- The directory of the libraries of an application. -/
def libraryDirectory : String := "BOOT-INF/lib/"

/-- The layout with one directory of classes and a directory of libraries. -/
def jar : Layout where
  isNested entry :=
    if entry.isDirectory then entry.name = classesDirectory
    else libraryDirectory.toList.isPrefixOf entry.name.toList
  arrange := .ok

/-- The layout in which all files are libraries. -/
def files : Layout where
  isNested entry := !entry.isDirectory
  arrange := .ok

/-- A layout with its class path turned round. -/
def reversed (layout : Layout) : Layout :=
  { layout with arrange := fun archives => layout.arrange archives.reverse }

/-- A layout that leaves out the first archive of its class path. -/
def tailOf (layout : Layout) : Layout :=
  { layout with arrange := fun archives => layout.arrange archives.tail }

/-- A layout that cannot arrange any class path. -/
def failing (layout : Layout) (cause : LauncherError) : Layout :=
  { layout with arrange := fun _ => .error cause }

end Layout

end AppLauncher
