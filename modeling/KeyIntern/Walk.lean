import KeyIntern.Files.Tree
import KeyIntern.Ignore.Rules
import KeyIntern.Exclusion
import KeyIntern.Script.Dialect
import KeyIntern.Failure

/-! # Collecting the files of a project

A walk of a project visits the entries below its canonical root and collects the regular files
with a candidate extension. It leaves out an entry, and everything below a directory it leaves
out, when the ignore files around it ignore it, or when `Exclusion.isIgnoredPath` excludes it.
Hidden entries are walked like any other. A link is never entered: the walk collects it, under
its own path, when it leads to a file with a candidate extension, and the ignore files see it as
no directory. A root that is a file is walked as itself: it is collected when it has a candidate
extension, whatever the ignore files say.

Every directory from the root down contributes its `.ignore`, `.gitignore` and
`.git/info/exclude` rules, relative to itself; the directories above the root contribute
theirs too. For an entry, within each kind the nearest directory with a matching rule speaks,
and the kinds rank `.ignore` over `.gitignore` over `.git/info/exclude`; an allowing verdict
keeps the entry. The rules of a directory above the root see an entry as if it lay directly in
the root: its name joined onto the root. No global excludes file is read: the walk is that of a
machine whose git configuration names none.
-/

namespace KeyIntern

open Files Ignore

/-- The ignore rules one directory contributes. -/
structure DirRules where
  dir : String
  ignoreFile : RuleFile
  gitignore : RuleFile
  exclude : RuleFile

/-- The rules of one ignore file below a directory; an unreadable file has none. -/
def readRuleFile (fs : FileTree) (dir name : String) : RuleFile :=
  match fs.readBytes (Path.join dir name) with
  | .ok bytes => RuleFile.ofBytes dir bytes
  | .error _ => RuleFile.empty dir

/-- The rules a directory contributes. -/
def DirRules.read (fs : FileTree) (dir : String) : DirRules where
  dir := dir
  ignoreFile := readRuleFile fs dir ".ignore"
  gitignore := readRuleFile fs dir ".gitignore"
  exclude := readRuleFile fs dir ".git/info/exclude"

/-- What a walk needs to know besides the entries: the tree, the canonical root, the resolved
ignored directories, and the rules of the directories above the root, nearest first. -/
structure WalkContext where
  fs : FileTree
  root : String
  ignored : List String
  above : List DirRules

/-- The verdict of the ignore files on an entry. `levels` are the directories from the entry's
own directory up to the root. -/
def WalkContext.verdict (ctx : WalkContext) (levels : List DirRules) (path : String)
    (isDir : Bool) : Verdict :=
  let containing := (levels.head?.map (·.dir)).getD ctx.root
  let rest := if path.startsWith containing then (path.drop containing.length).toString else path
  let rest := if rest.startsWith "/" then (rest.drop 1).toString else rest
  let seenAbove := Path.join ctx.root rest
  let inside (pick : DirRules → RuleFile) := levels.map fun l => (pick l).verdict path isDir
  let outside (pick : DirRules → RuleFile) := ctx.above.map fun l => (pick l).verdict seenAbove isDir
  let ofKind (pick : DirRules → RuleFile) := Verdict.first (inside pick ++ outside pick)
  (ofKind (·.ignoreFile)).orElse ((ofKind (·.gitignore)).orElse (ofKind (·.exclude)))

/-- Whether the walk leaves an entry out. -/
def WalkContext.skips (ctx : WalkContext) (levels : List DirRules) (path : String)
    (isDir : Bool) : Bool :=
  ctx.verdict levels path isDir == .ignored || Exclusion.isIgnoredPath ctx.root ctx.ignored path

mutual

/-- The files the walk collects from the entries of the directory `dir`. -/
def walkEntries (ctx : WalkContext) (levels : List DirRules) (dir : String) :
    List (String × Entry) → List String
  | [] => []
  | (name, e) :: rest => walkEntry ctx levels dir name e ++ walkEntries ctx levels dir rest

/-- The files the walk collects from one entry. -/
def walkEntry (ctx : WalkContext) (levels : List DirRules) (dir name : String) :
    Entry → List String
  | .file _ =>
    let path := Path.join dir name
    if ctx.skips levels path false || !Script.isCandidate path then [] else [path]
  | .dir cs =>
    let path := Path.join dir name
    if ctx.skips levels path true then []
    else walkEntries ctx (DirRules.read ctx.fs path :: levels) path cs
  | .link _ =>
    -- the walk does not enter a link; it takes one that leads to a file, under its own name
    let path := Path.join dir name
    if ctx.skips levels path false || !Script.isCandidate path || !ctx.fs.isFile path then []
    else [path]

end

/-- The directories above a canonical path, nearest first. -/
def ancestors (path : String) : List String :=
  let cs := Path.components path
  ((List.range cs.length).reverse.map fun n => Path.ofComponents (cs.take n)).filter (· != "")

/-- The candidate files of the project at `root`, as absolute paths. -/
def collectFiles (fs : FileTree) (root : String) (ignoredDirs : List String) :
    Except Failure (List String) :=
  match fs.canonicalize root with
  | .error e => .error ⟨"Failed to resolve project root " ++ root, [e.message]⟩
  | .ok croot =>
    let above := (ancestors croot).map (DirRules.read fs)
    let ctx : WalkContext :=
      { fs, root := croot, ignored := Exclusion.resolveIgnoredDirsIn fs croot ignoredDirs, above }
    match fs.entry? croot with
    | some (.dir cs) => .ok (walkEntries ctx [DirRules.read fs croot] croot cs)
    | some (.file _) => .ok (if Script.isCandidate croot then [croot] else [])
    | _ => .ok []

end KeyIntern
