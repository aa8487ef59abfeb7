import KeyIntern.Path
import KeyIntern.Files.Tree

/-! # Paths a project walk leaves out

A walk of a project covers the files below its root, except those inside a dependency or
tool directory (`node_modules`, `.git`, and the generated `.keywords`) and those under one of
the configured ignored directories. Ignored directories are given relative to the root or
absolute; they are compared in their canonical form where they exist, and in their cleaned
absolute form where they do not. All comparisons are by path components, so `lib` does not
cover `library`.
-/

namespace KeyIntern.Exclusion

open KeyIntern.Path

/-- The directory names a walk never enters, wherever they occur. -/
def alwaysIgnoredDirs : List String :=
  ["node_modules", ".git", ".keywords"]

/-- The ignored directories joined onto the root and cleaned: the form they are compared in
when none of them exists. -/
def resolveIgnoredDirs (root : String) (dirs : List String) : List String :=
  dirs.map fun d => clean (join root d)

/-- The ignored directories in the form they are compared in: joined onto the root, and made
canonical where the joined path exists, so that links are resolved; cleaned where it does
not. -/
def resolveIgnoredDirsIn (fs : Files.FileTree) (root : String) (dirs : List String) :
    List String :=
  dirs.map fun d =>
    match fs.canonicalize (join root d) with
    | .ok canonical => canonical
    | .error _ => clean (join root d)

/-- Whether a component is one of the always-ignored directory names. -/
def isAlwaysIgnored : Component → Bool
  | .normal n => alwaysIgnoredDirs.contains n
  | _ => false

/-- Whether a walk from `root` leaves `path` out: it lies outside the root, below an
always-ignored directory, or under one of the `ignored` directories. -/
def isIgnoredPath (root : String) (ignored : List String) (path : String) : Bool :=
  match stripPrefix? path root with
  | none => true
  | some rel => rel.any isAlwaysIgnored || ignored.any (startsWith path)

theorem isIgnoredPath_of_not_startsWith {root path : String} (ignored : List String)
    (h : startsWith path root = false) : isIgnoredPath root ignored path = true := by
  simp only [startsWith] at h
  simp [isIgnoredPath, stripPrefix?, h]

end KeyIntern.Exclusion
