import KeyIntern.Files.Tree

/-! # Trees taken from a disk and changes given back

A run works on a file tree taken from the disk: the working directory, and the directories and
files of a listing. What the run did is given back as changes from the tree before to the tree
after: the directories made and the files written, each directory before what is in it. A run
never removes entries and never makes a link, so no removal and no link is listed.

Main statement: `entryChanges_same_file`, a file left as it was is no change.
-/

namespace KeyIntern.Files

/-- One change to a disk. -/
inductive Change where
  | makeDir (path : String)
  | write (path : String) (content : ByteArray)

mutual

/-- The changes that turn the entry `before` at `path` (if there was one) into `after`. -/
def entryChanges (path : String) (before : Option Entry) : Entry → List Change
  | .file b =>
    match before with
    | some (.file old) => if old.data == b.data then [] else [.write path b]
    | _ => [.write path b]
  | .dir cs =>
    match before with
    | some (.dir old) => childChanges path old cs
    | _ => .makeDir path :: childChanges path [] cs
  -- a run makes no links, so a link after it was there before
  | .link _ => []

/-- The changes that turn the entries `before` of the directory `path` into the entries after. -/
def childChanges (path : String) (before : List (String × Entry)) :
    List (String × Entry) → List Change
  | [] => []
  | (n, e) :: rest => entryChanges (Path.join path n) (before.lookup n) e ++ childChanges path before rest

end

namespace FileTree

/-- The changes that turn one tree into another. -/
def changes (before after : FileTree) : List Change :=
  childChanges "/" before.top after.top

/-- A tree with the working directory and the entries of a listing: a directory for `none`, a
file with its bytes otherwise. Relative paths start at the working directory, and an entry
that cannot be placed is left out. -/
def ofListing (cwd : String) (entries : List (String × Option ByteArray)) : FileTree :=
  let made := (FileTree.empty.createDirAll cwd).toOption.getD FileTree.empty
  let start := match made.resolve cwd with
    | .ok l => { made with cwd := l }
    | .error _ => made
  entries.foldl (fun t (p, content) =>
    match content with
    | none => (t.createDirAll p).toOption.getD t
    | some b => (t.putFile p b).toOption.getD t) start

end FileTree

theorem entryChanges_same_file (path : String) (b : ByteArray) :
    entryChanges path (some (.file b)) (.file b) = [] := by
  simp [entryChanges]

end KeyIntern.Files
