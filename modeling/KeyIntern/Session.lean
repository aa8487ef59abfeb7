import KeyIntern.Scan

/-! # A build session

A build tool keeps one session per project. The session serves the runtime module behind the
virtual import and keeps its keyword set current while files change:

* a full build scans the project, replaces the keywords, and writes the declaration file; when it
  fails the keywords stay as they were;
* a changed file that the full scan would take is read again and its keywords are added; when
  that adds any, the declaration file is written again and the change is reported. Keywords are
  only ever removed by a full build;
* the virtual module id resolves to its internal id, and loading the internal id gives the
  runtime module of the current keywords.

A changed file is taken when it has a candidate extension and is not excluded: it lies under the
canonical root, outside the always-ignored and configured directories, and the root's
`.gitignore` (read once, when the session starts) ignores neither it nor a directory above it.
The path is compared with its directory made canonical when that directory exists, so that a
deleted file still compares canonically.

Main statements: `keywords_subset_handleChange` says a change never removes a keyword, and
`handleChange_of_not_candidate` that a file without a candidate extension is passed over.
-/

namespace KeyIntern

open Files Ignore

/-- The state of a build session. -/
structure Session where
  root : String
  config : Config
  ignoredDirs : List String
  canonicalRoot : String
  resolvedIgnored : List String
  rootRules : RuleFile
  dev : Bool
  keywords : KeywordSet

namespace Session

/-- Starts a session for the project at `root`, reading the root's `.gitignore`. -/
def start (fs : FileTree) (root : String) (config : Config) (ignoredDirs : List String)
    (dev : Bool) : Session :=
  let canonical := match fs.canonicalize root with
    | .ok p => p
    | .error _ => root
  let rulesPath := Path.join canonical ".gitignore"
  let rootRules :=
    if fs.isFile rulesPath then
      match fs.readBytes rulesPath with
      | .ok b => RuleFile.ofBytes canonical b
      | .error _ => RuleFile.empty canonical
    else RuleFile.empty canonical
  { root, config, ignoredDirs, canonicalRoot := canonical,
    resolvedIgnored := Exclusion.resolveIgnoredDirsIn fs canonical ignoredDirs,
    rootRules, dev, keywords := KeywordSet.empty }

/-- The targets of the session's configuration. -/
def targets (s : Session) : Targets :=
  Targets.ofList s.config.additionalModules

/-- A full build: scan, replace the keywords, write the declaration file. -/
def build (s : Session) (fs : FileTree) : Session × Outcome Unit :=
  let out := generateTypes fs s.root s.ignoredDirs s.config
  match out.result with
  | .ok ks => ({ s with keywords := ks }, ⟨out.tree, out.reports, .ok ()⟩)
  | .error f => (s, ⟨out.tree, out.reports, .error f⟩)

/-- The internal id of a module id, for the virtual module only. -/
def resolveId (id : String) : Option String :=
  if id = virtualModule then some resolvedVirtualModule else none

/-- The text of a module by its internal id: the runtime module of the current keywords. -/
def load (s : Session) (id : String) : Option String :=
  if id = resolvedVirtualModule then some (Artifact.renderModule s.keywords s.dev) else none

/-- The path a changed file is compared by: its directory made canonical when it exists. -/
def comparedPath (fs : FileTree) (path : String) : String :=
  let parent := Path.ofComponents (Path.components path).dropLast
  match Path.fileName? path, (Path.components path).isEmpty with
  | some name, false =>
    match fs.canonicalize parent with
    | .ok p => Path.join p name
    | .error _ => path
  | _, _ => path

/-- Whether a changed file is excluded from the session. -/
def isExcluded (s : Session) (fs : FileTree) (path : String) : Bool :=
  let p := comparedPath fs path
  Exclusion.isIgnoredPath s.canonicalRoot s.resolvedIgnored p ||
    s.rootRules.verdictWithParents p false == .ignored

/-- Takes in a changed file: answers whether it added keywords, after writing the declaration
file when it did. -/
def handleChange (s : Session) (fs : FileTree) (path : String) : Session × Outcome Bool :=
  if !Script.isCandidate path || s.isExcluded fs path then (s, ⟨fs, [], .ok false⟩)
  else
    match fs.readText path with
    | .error e => (s, ⟨fs, [⟨.warn, "Failed to read " ++ path ++ ": " ++ e.message⟩], .ok false⟩)
    | .ok text =>
      let ks := s.keywords.union (discover s.targets path text).keywords
      if ks.size = s.keywords.size then (s, ⟨fs, [], .ok false⟩)
      else
        let s' := { s with keywords := ks }
        match writeTypes fs s.root ks with
        | (fs', .ok _) => (s', ⟨fs', [], .ok true⟩)
        | (fs', .error f) => (s', ⟨fs', [], .error f⟩)

theorem keywords_subset_handleChange (s : Session) (fs : FileTree) (path : String) (k : String)
    (h : k ∈ s.keywords) : k ∈ (s.handleChange fs path).1.keywords := by
  unfold handleChange
  split
  · exact h
  · split
    · exact h
    · simp only
      split
      · exact h
      · split <;> exact KeywordSet.mem_union.2 (Or.inl h)

theorem handleChange_of_not_candidate (s : Session) (fs : FileTree) (path : String)
    (h : Script.isCandidate path = false) :
    s.handleChange fs path = (s, ⟨fs, [], .ok false⟩) := by
  simp [handleChange, h]

end Session

end KeyIntern
