import KeyIntern.Command.Parse
import KeyIntern.Scan
import KeyIntern.Files.GitRoot
import KeyIntern.Json.Quote

/-! # The command line

The program `keywords` has two subcommands, both of which scan a project:

* `generate` writes the declaration file and prints the keywords, one per line followed by a
  summary, or with `--json` as a JSON array;
* `module` prints the runtime module of the keywords, labelled with `--dev`, and writes
  nothing.

The project root is the `--root` directory made canonical (kept as given when that fails), or
else the nearest directory above the working directory that holds `.git`. The configuration
file of the root is read, and the `--additional-module` names are added to it. Directories given
with `--ignore` are left out of the scan.

A run ends with status 0 after help or success, 2 when the command line does not fit, and 1
when the work fails; the failure is then reported on standard error after `Error: `.

Main statement: `run_empty`, the bare program prints its help as a complaint.
-/

namespace KeyIntern.Cli

open Command Files

/-- The options of both subcommands: where the project is, what to leave out of the scan, and
more modules to take keywords from. -/
def scanFlags : List Flag :=
  [{ long := "root", valueName := "ROOT", action := .single, kind := .path,
     help := "Root directory of the project (defaults to git root)" },
   { long := "ignore", valueName := "IGNORED_DIRS", action := .repeated, kind := .path,
     help := "Directory to exclude from scanning, relative to the root (repeatable)" },
   { long := "additional-module", valueName := "ADDITIONAL_MODULES", action := .repeated,
     help := "Extra module name treated like the virtual module (repeatable)" }]

/-- The grammar of the program. -/
def program : Program where
  name := "keywords"
  about := "Generate unique-symbol keyword modules from static usage"
  subcommands :=
    [{ name := "generate", about := "Scan the project and write .keywords/index.d.ts",
       flags := scanFlags ++
         [{ long := "json", action := .switch, help := "Print the discovered keywords as a JSON array" },
          Flag.helpFlag] },
     { name := "module",
       about := "Scan the project and print the runtime module behind the virtual import",
       flags := scanFlags ++
         [{ long := "dev", action := .switch, help := "Label each symbol with its keyword" },
          Flag.helpFlag] }]

/-- What a scan is asked to cover. -/
structure ScanOptions where
  root : Option String
  ignoredDirs : List String
  additionalModules : List String

/-- What the command line asks for. -/
inductive Request where
  | generate (scan : ScanOptions) (json : Bool)
  | module (scan : ScanOptions) (dev : Bool)

/-- The request of a subcommand read from the command line. -/
def Request.ofInvocation (i : Invocation) : Request :=
  let scan : ScanOptions :=
    ⟨(i.valuesOf "root").getLast?, i.valuesOf "ignore", i.valuesOf "additional-module"⟩
  if i.command.name == "generate" then .generate scan (i.has "json") else .module scan (i.has "dev")

/-- What a run reports without deciding it: how long it took, and how many threads it could
scan with. -/
structure Timing where
  elapsedMs : Nat
  threads : Nat

/-- What a run leaves: its exit status, what it printed, and the tree after it. -/
structure Exit where
  status : Nat
  stdout : String
  stderr : String
  tree : FileTree

/-- The project root and its configuration, with the modules of the command line added. -/
def prepare (fs : FileTree) (scan : ScanOptions) : Except Failure (String × Config) := do
  let root ← match scan.root with
    | some r => pure (match fs.canonicalize r with
      | .ok c => c
      | .error _ => r)
    | none => fs.gitRoot
  let config ← Config.load fs root
  pure (root, { config with additionalModules := config.additionalModules ++ scan.additionalModules })

/-- The keywords as an indented JSON array. -/
def keywordsJson (ks : KeywordSet) : String :=
  match ks.toList with
  | [] => "[]"
  | xs => "[\n" ++ ",\n".intercalate (xs.map fun k => "  " ++ Json.quote k) ++ "\n]"

/-- The line that closes the listing of `generate`. -/
def summary (count : Nat) (path : String) (t : Timing) (files : Nat) : String :=
  "● Wrote " ++ toString count ++ " keywords to " ++ path ++ ". Finished in " ++
    toString t.elapsedMs ++ "ms on " ++ toString files ++ " files (using " ++ toString t.threads ++
    " threads)."

/-- Scans the project a request names. -/
def scanRequested (fs : FileTree) (scan : ScanOptions) : Except Failure (String × ScanResult) := do
  let (root, config) ← prepare fs scan
  let (result, _) ← scanProject fs root scan.ignoredDirs config
  pure (root, result)

/-- Where a run stands once its work is done: finished, or, after `generate` printing the
listing, waiting to know how long it took. -/
inductive Done where
  | exit (e : Exit)
  | generated (tree : FileTree) (keywords : KeywordSet) (path : String) (filesScanned : Nat)

/-- The end of a run that failed. -/
def failed (fs : FileTree) (f : Failure) : Done :=
  .exit ⟨1, "", "Error: " ++ f.report ++ "\n", fs⟩

/-- Does what a request asks. -/
def perform (fs : FileTree) : Request → Done
  | .generate scan json =>
    match scanRequested fs scan with
    | .error f => failed fs f
    | .ok (root, result) =>
      match writeTypes fs root result.keywords with
      | (fs', .error f) => failed fs' f
      | (fs', .ok path) =>
        if json then .exit ⟨0, keywordsJson result.keywords ++ "\n", "", fs'⟩
        else .generated fs' result.keywords path result.filesScanned
  | .module scan dev =>
    match scanRequested fs scan with
    | .error f => failed fs f
    | .ok (_, result) => .exit ⟨0, Artifact.renderModule result.keywords dev, "", fs⟩

/-- Reads a command line, its arguments after the program name, and does what it asks. -/
def start (fs : FileTree) (args : List String) : Done :=
  match readCommandLine program args with
  | .error (.help text) => .exit ⟨0, text, "", fs⟩
  | .error (.misuse text) => .exit ⟨2, "", text, fs⟩
  | .ok i => perform fs (Request.ofInvocation i)

/-- How a run ends, given how long its work took. -/
def finish (t : Timing) : Done → Exit
  | .exit e => e
  | .generated fs ks path files =>
    let listing := String.join (ks.toList.map fun k => "  • " ++ k ++ "\n")
    ⟨0, listing ++ "\n" ++ summary ks.size path t files ++ "\n", "", fs⟩

/-- Runs the program on a command line, its arguments after the program name. -/
def run (fs : FileTree) (t : Timing) (args : List String) : Exit :=
  finish t (start fs args)

theorem run_empty (fs : FileTree) (t : Timing) : run fs t [] = ⟨2, "", program.help, fs⟩ := rfl

end KeyIntern.Cli
