import KeyIntern.Path

/-! # File trees

A file tree is what one run sees of the disk: directories that hold named entries, files that
hold bytes and symbolic links that hold a path, below a root `/`, with a working directory that
relative paths start from. A location names an entry by the names from the root down, never
through a link, so it is the one canonical spelling of what it holds.

Paths are looked up the way the system does it. `/` separates names; empty names and `.` stay
where they are; `..` climbs from where the lookup is, never above `/`. Every step leaves a
directory, so a file met before the last name is `Not a directory`, and a missing name is `No
such file or directory`. A link met on the way is replaced by the path it holds, looked up from
the directory of the link, or from `/` when that path is absolute; one lookup follows at most
`maxLinks` links. A path that ends in `/` must name a directory. Each failure carries the
system's wording, `IoError.message`.

What follows a link at the last name is up to the operation: reading, testing what a path is,
making it canonical and writing a file follow it; making a directory and removing leave it as
it is.
-/

namespace KeyIntern.Files

/-- A failure of a file operation. -/
inductive IoError where
  | notFound
  | notADirectory
  | isADirectory
  | alreadyExists
  | invalidUtf8
  | tooManyLinks
  deriving DecidableEq, Repr

/-- The system's wording of a failure. -/
def IoError.message : IoError → String
  | .notFound => "No such file or directory (os error 2)"
  | .notADirectory => "Not a directory (os error 20)"
  | .isADirectory => "Is a directory (os error 21)"
  | .alreadyExists => "File exists (os error 17)"
  | .invalidUtf8 => "stream did not contain valid UTF-8"
  | .tooManyLinks => "Too many levels of symbolic links (os error 40)"

/-- An entry of a file tree: a file with its bytes, a directory with its named entries in the
order they were made, or a symbolic link with the path it holds. -/
inductive Entry where
  | file (content : ByteArray)
  | dir (children : List (String × Entry))
  | link (target : String)

/-- A place in a tree: the names from the root down. -/
abbrev Location := List String

/-- The text of a location: `/`, then its names joined by `/`. -/
def Location.text (l : Location) : String :=
  "/" ++ "/".intercalate l

namespace Entry

/-- Whether the entry is a directory. -/
def isDir : Entry → Bool
  | .dir _ => true
  | _ => false

/-- The entry at a location below this one. Only a directory has entries below it; a link is
not looked through. -/
def get? : Entry → Location → Option Entry
  | e, [] => some e
  | .file _, _ :: _ => none
  | .link _, _ :: _ => none
  | .dir cs, n :: rest =>
    match cs.lookup n with
    | some c => c.get? rest
    | none => none

/-- Applies `g` to the entries of the directory at a location below this one; a location that is
no directory is left as it is. -/
def modifyDir (g : List (String × Entry) → List (String × Entry)) : Entry → Location → Entry
  | .dir cs, [] => .dir (g cs)
  | .file b, _ => .file b
  | .link target, _ => .link target
  | .dir cs, n :: rest =>
    .dir (cs.map fun p => if p.1 = n then (p.1, modifyDir g p.2 rest) else p)

end Entry

/-- Puts `e` under `name` among the entries `cs`: in place of the entry of that name, or after
all of them. -/
def setChild (name : String) (e : Entry) (cs : List (String × Entry)) : List (String × Entry) :=
  if cs.any (·.1 == name) then cs.map fun p => if p.1 = name then (name, e) else p
  else cs ++ [(name, e)]

/-- Drops the entry called `name`. -/
def dropChild (name : String) (cs : List (String × Entry)) : List (String × Entry) :=
  cs.filter (·.1 != name)

/-- A file tree: the entries of the root directory, and the working directory. -/
structure FileTree where
  top : List (String × Entry)
  cwd : Location

/-- One step of a lookup. -/
inductive Step where
  | down (name : String)
  | stay
  | up

/-- A path text read for lookup: where it starts, its steps, and whether it ends in `/`. -/
structure Route where
  absolute : Bool
  steps : List Step
  dirOnly : Bool

/-- The step a piece of a path text takes; empty pieces take none. -/
def Step.ofPiece (s : List Char) : Option Step :=
  if s = [] then none
  else if s = ['.'] then some .stay
  else if s = ['.', '.'] then some .up
  else some (.down (String.ofList s))

/-- Reads a path text for lookup. -/
def Route.ofText (p : String) : Route where
  absolute := Path.isAbsolute p
  steps := (Path.segments p.toList).filterMap Step.ofPiece
  dirOnly := p.endsWith "/"

/-- The steps the path of a link takes: those of its route, and a last `.stay` when the path
ends in `/`, so that it must reach a directory. -/
def Route.linkSteps (r : Route) : List Step :=
  r.steps ++ if r.dirOnly then [.stay] else []

namespace FileTree

/-- The tree with an empty root, working in the root. -/
def empty : FileTree := ⟨[], []⟩

/-- The root directory. -/
def root (t : FileTree) : Entry := .dir t.top

/-- The entry at a location. -/
def get? (t : FileTree) (l : Location) : Option Entry :=
  t.root.get? l

/-- The entries of the directory at a location; none when it is no directory. -/
def children (t : FileTree) (l : Location) : List (String × Entry) :=
  match t.get? l with
  | some (.dir cs) => cs
  | _ => []

/-- Applies `g` to the entries of the directory at a location. -/
def modifyDir (t : FileTree) (l : Location) (g : List (String × Entry) → List (String × Entry)) :
    FileTree :=
  match t.root.modifyDir g l with
  | .dir cs => { t with top := cs }
  | _ => t

/-- The most links one lookup follows. -/
def maxLinks : Nat := 40

/-- Takes the steps from `cur`, each from a directory. At a step down to a link the lookup goes
on with the link's steps and then the steps left, from the root or from the directory of the
link; `onLink` takes that on. With `create`, a last step down may name a missing entry: the
place where a write makes its file. -/
def followWith (t : FileTree) (create : Bool)
    (onLink : Location → List Step → Except IoError Location) :
    Location → List Step → Except IoError Location
  | cur, [] => .ok cur
  | cur, s :: rest =>
    match t.get? cur with
    | none => .error .notFound
    | some (.dir _) =>
      match s with
      | .stay => followWith t create onLink cur rest
      | .up => followWith t create onLink cur.dropLast rest
      | .down n =>
        match t.get? (cur ++ [n]) with
        | none => if create && rest.isEmpty then .ok (cur ++ [n]) else .error .notFound
        | some (.link target) =>
          let r := Route.ofText target
          onLink (if r.absolute then [] else cur) (r.linkSteps ++ rest)
        | some _ => followWith t create onLink (cur ++ [n]) rest
    | some _ => .error .notADirectory

/-- Goes on after a link when `n` more links may be followed after it. -/
def followLink (t : FileTree) (create : Bool) : Nat → Location → List Step → Except IoError Location
  | 0 => fun _ _ => .error .tooManyLinks
  | n + 1 => t.followWith create (t.followLink create n)

/-- Takes the steps from `cur`, each from a directory, following up to `maxLinks` links. -/
def follow (t : FileTree) (cur : Location) (steps : List Step) : Except IoError Location :=
  t.followWith false (t.followLink false maxLinks) cur steps

/-- Where a write that takes the steps from `cur` puts its file: the lookup, links included, where
the last step down may name a missing entry. -/
def followToWrite (t : FileTree) (cur : Location) (steps : List Step) : Except IoError Location :=
  t.followWith true (t.followLink true maxLinks) cur steps

/-- Where a lookup of the route starts. -/
def start (t : FileTree) (r : Route) : Location :=
  if r.absolute then [] else t.cwd

/-- The location a path text names, when it names an existing entry. -/
def resolve (t : FileTree) (p : String) : Except IoError Location :=
  if p.isEmpty then .error .notFound
  else
    let r := Route.ofText p
    match t.follow (t.start r) r.steps with
    | .error e => .error e
    | .ok l =>
      match t.get? l with
      | some (.file _) => if r.dirOnly then .error .notADirectory else .ok l
      | some (.dir _) => .ok l
      | _ => .error .notFound

/-- The directory a path text makes its last name in, and that name; no name when the text ends
in a step that names an existing directory (`.`, `..`, the root). Links on the way to the
directory are followed, and the last name is left as it is. -/
def parentAndName (t : FileTree) (p : String) : Except IoError (Location × Option String) :=
  if p.isEmpty then .error .notFound
  else
    let r := Route.ofText p
    match r.steps.getLast? with
    | some (.down n) => (t.follow (t.start r) r.steps.dropLast).map fun l => (l, some n)
    | _ => (t.follow (t.start r) r.steps).map fun l => (l, none)

/-- The entry a path text names. -/
def entry? (t : FileTree) (p : String) : Option Entry :=
  match t.resolve p with
  | .ok l => t.get? l
  | .error _ => none

/-- Whether a path text names an existing entry. -/
def pathExists (t : FileTree) (p : String) : Bool :=
  (t.entry? p).isSome

/-- Whether a path text names a file. -/
def isFile (t : FileTree) (p : String) : Bool :=
  match t.entry? p with
  | some (.file _) => true
  | _ => false

/-- Whether a path text names a directory. -/
def isDir (t : FileTree) (p : String) : Bool :=
  match t.entry? p with
  | some (.dir _) => true
  | _ => false

/-- The canonical absolute spelling of an existing path. -/
def canonicalize (t : FileTree) (p : String) : Except IoError String :=
  (t.resolve p).map Location.text

/-- The bytes of a file; a directory cannot be read. -/
def readBytes (t : FileTree) (p : String) : Except IoError ByteArray :=
  match t.entry? p with
  | some (.file b) => .ok b
  | some (.dir _) => .error .isADirectory
  | _ =>
    match t.resolve p with
    | .error e => .error e
    | .ok _ => .error .notFound

/-- The text of a file, which must be UTF-8. -/
def readText (t : FileTree) (p : String) : Except IoError String :=
  match t.readBytes p with
  | .error e => .error e
  | .ok b =>
    match String.fromUTF8? b with
    | some s => .ok s
    | none => .error .invalidUtf8

/-- Makes one directory; its parent must be a directory and the name must be free. -/
def makeDir (t : FileTree) (p : String) : Except IoError FileTree :=
  match t.parentAndName p with
  | .error e => .error e
  | .ok (_, none) => .error .alreadyExists
  | .ok (parent, some n) =>
    match t.get? parent with
    | some (.dir _) =>
      if (t.get? (parent ++ [n])).isSome then .error .alreadyExists
      else .ok (t.modifyDir parent (setChild n (.dir [])))
    | _ => .error .notADirectory

/-- Makes a directory and the missing ones above it, from the components of its path taken from
the last: a name whose parent is missing makes the parent first; a name already taken by a
directory is fine. -/
def makeDirsRev (t : FileTree) : List Path.Component → Except IoError FileTree
  | [] => .ok t
  | c :: up =>
    let p := Path.ofComponents (c :: up).reverse
    match t.makeDir p with
    | .ok t' => .ok t'
    | .error .notFound =>
      match makeDirsRev t up with
      | .error e => .error e
      | .ok t' =>
        match t'.makeDir p with
        | .ok t'' => .ok t''
        | .error e => if t'.isDir p then .ok t' else .error e
    | .error e => if t.isDir p then .ok t else .error e

/-- Makes a directory and every missing directory above it. -/
def createDirAll (t : FileTree) (p : String) : Except IoError FileTree :=
  if p.isEmpty then .ok t else t.makeDirsRev (Path.components p).reverse

/-- Puts a file of `bytes` at a location, into the directory above it. -/
def putFileAt (t : FileTree) (l : Location) (bytes : ByteArray) : FileTree :=
  t.modifyDir l.dropLast (setChild (l.getLastD "") (.file bytes))

/-- Writes a file, replacing the bytes of a file there; its directory must exist. The lookup
follows links, one at the last name too, so a link is written through to where it leads, and a
missing last name is made. -/
def writeFile (t : FileTree) (p : String) (bytes : ByteArray) : Except IoError FileTree :=
  if p.isEmpty then .error .notFound
  else
    let r := Route.ofText p
    match r.steps.getLast? with
    | some (.down _) =>
      match t.followToWrite (t.start r) r.steps with
      | .error e => .error e
      | .ok l =>
        match t.get? l with
        | some (.file _) => if r.dirOnly then .error .notADirectory else .ok (t.putFileAt l bytes)
        | none => if r.dirOnly then .error .isADirectory else .ok (t.putFileAt l bytes)
        | _ => .error .isADirectory
    | _ =>
      match t.follow (t.start r) r.steps with
      | .error e => .error e
      | .ok _ => .error .isADirectory

/-- Writes a file after making the directories above it. -/
def putFile (t : FileTree) (p : String) (bytes : ByteArray) : Except IoError FileTree :=
  match t.createDirAll (Path.ofComponents (Path.components p).dropLast) with
  | .ok t' => t'.writeFile p bytes
  | .error e => .error e

/-- Removes the entry a path names, with everything below it; a link at the last name is removed
itself. A missing path changes nothing, and so does a path that ends in `.` or `..`, or one that
ends in `/` and names no directory. -/
def remove (t : FileTree) (p : String) : FileTree :=
  match t.parentAndName p with
  | .ok (parent, some n) =>
    match t.get? (parent ++ [n]) with
    | some (.dir _) => t.modifyDir parent (dropChild n)
    | some _ => if (Route.ofText p).dirOnly then t else t.modifyDir parent (dropChild n)
    | none => t
  | _ => t

end FileTree

end KeyIntern.Files
