import KeyIntern.Files.Tree
import KeyIntern.Failure

/-! # The repository root

Without an explicit root, a project is the nearest repository around the working directory: the
working directory itself or the first of its ancestors that holds an entry named `.git`, a
directory or a file alike. Without one up to `/`, there is no project.

Main statement: `gitRoot_of_marked` says a working directory that holds `.git` is its own root.
-/

namespace KeyIntern.Files

namespace FileTree

/-- The name of the entry that marks a repository. -/
def repositoryMarker : String := ".git"

/-- Whether the directory at a location holds the repository marker, or a link that leads to
something. -/
def isMarked (t : FileTree) (l : Location) : Bool :=
  t.pathExists (l ++ [repositoryMarker]).text

/-- The nearest marked directory among a location, given by its names reversed, and its
ancestors. -/
def markedAncestor (t : FileTree) : List String → Option Location
  | [] => if t.isMarked [] then some [] else none
  | n :: up =>
    let here := (n :: up).reverse
    if t.isMarked here then some here else markedAncestor t up

/-- The repository root around the working directory. -/
def gitRoot (t : FileTree) : Except Failure String :=
  match t.markedAncestor t.cwd.reverse with
  | some l => .ok l.text
  | none => .error (.ofMessage "Could not find .git directory in any parent folder")

theorem gitRoot_of_marked {t : FileTree} (h : t.isMarked t.cwd = true) :
    t.gitRoot = .ok t.cwd.text := by
  unfold gitRoot
  cases hc : t.cwd.reverse with
  | nil =>
    have : t.cwd = [] := List.reverse_eq_nil_iff.mp hc
    simp [markedAncestor, this ▸ h, this]
  | cons n up =>
    have : (n :: up).reverse = t.cwd := by rw [← hc, List.reverse_reverse]
    simp [markedAncestor, this, h]

end FileTree

end KeyIntern.Files
