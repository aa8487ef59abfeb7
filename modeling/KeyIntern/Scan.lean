import KeyIntern.Walk
import KeyIntern.Extract
import KeyIntern.Artifact
import KeyIntern.Config

/-! # Scanning a project

A scan collects the candidate files of a project and unions the keywords each one references.
A file that cannot be read as UTF-8 text contributes nothing and is reported as a warning; the
others are unaffected. Files are taken in batches, one batch after the other; inside a batch the
order is free, and the result does not depend on it, nor on the batch size, since a union is
taken. Generating the declarations scans, writes `.keywords/index.d.ts`, and then reports how
many keywords were found in how many files.

Main statements: `mem_aggregate_keywords` says a keyword is found exactly when some file that
scans gives it, and `aggregate_filesScanned` that every listed file is counted.
-/

namespace KeyIntern

open Files

/-- The level of a message reported to whoever started an operation. -/
inductive Level where
  | info
  | warn
  | error
  deriving DecidableEq, Repr

/-- The name of a level. -/
def Level.name : Level → String
  | .info => "info"
  | .warn => "warn"
  | .error => "error"

/-- A message reported to whoever started an operation. -/
structure Report where
  level : Level
  message : String
  deriving DecidableEq, Repr

/-- What a scan found. -/
structure ScanResult where
  keywords : KeywordSet
  filesScanned : Nat
  filesFailed : Nat

/-- The runs of `size` entries of a list, at least one entry each, in order. -/
def batches (size : Nat) (xs : List α) : List (List α) :=
  go xs.length xs
where
  go : Nat → List α → List (List α)
    | _, [] => []
    | 0, xs => [xs]
    | fuel + 1, xs => xs.take (max size 1) :: go fuel (xs.drop (max size 1))

/-- Scans one file into the running result. -/
def aggregateStep (scan : String → Except Failure KeywordSet) (acc : ScanResult × List Report)
    (file : String) : ScanResult × List Report :=
  match scan file with
  | .ok ks => ({ acc.1 with keywords := acc.1.keywords.union ks }, acc.2)
  | .error f =>
    ({ acc.1 with filesFailed := acc.1.filesFailed + 1 },
      acc.2 ++ [⟨.warn, "Failed to scan " ++ file ++ ": " ++ f.oneLine⟩])

/-- Scans every file, batch after batch, and unions their keywords. -/
def aggregate (files : List String) (batchSize : Nat) (scan : String → Except Failure KeywordSet) :
    ScanResult × List Report :=
  let (r, reports) := (batches batchSize files).foldl (fun acc batch => batch.foldl (aggregateStep scan) acc)
    (⟨KeywordSet.empty, 0, 0⟩, [])
  ({ r with filesScanned := files.length }, reports)

/-- The number of files taken in one batch. -/
def batchSize : Nat := 100

/-- The keywords of one file of the tree: its text, which must be UTF-8, handed to `extract`. -/
def scanFile (fs : FileTree) (extract : String → String → Except Failure KeywordSet)
    (path : String) : Except Failure KeywordSet :=
  match fs.readText path with
  | .error e => .error ⟨"Failed to read " ++ path, [e.message]⟩
  | .ok text => extract path text

/-- Scans the project at `root`; discovery never fails, so only unreadable files do. -/
def scanProject (fs : FileTree) (root : String) (ignoredDirs : List String) (config : Config) :
    Except Failure (ScanResult × List Report) := do
  let files ← collectFiles fs root ignoredDirs
  let targets := Targets.ofList config.additionalModules
  return aggregate files batchSize (scanFile fs fun path text => .ok (discover targets path text).keywords)

/-- Writes the declaration file of a keyword set, making its directory first. Answers the tree
after the writes that succeeded, and the path written. -/
def writeTypes (fs : FileTree) (root : String) (ks : KeywordSet) : FileTree × Except Failure String :=
  let dir := Path.join root Artifact.directoryName
  match fs.createDirAll dir with
  | .error e => (fs, .error ⟨"Failed to create directory " ++ dir, [e.message]⟩)
  | .ok fs =>
    let path := Artifact.typesPath root
    match fs.writeFile path (Artifact.renderTypes ks).toUTF8 with
    | .error e => (fs, .error ⟨"Failed to write " ++ path, [e.message]⟩)
    | .ok fs => (fs, .ok path)

/-- What an operation on a project leaves: the tree after it, what it reported, and its result. -/
structure Outcome (α : Type) where
  tree : FileTree
  reports : List Report
  result : Except Failure α

/-- Scans the project, writes its declaration file, and answers its keywords. -/
def generateTypes (fs : FileTree) (root : String) (ignoredDirs : List String) (config : Config) :
    Outcome KeywordSet :=
  match scanProject fs root ignoredDirs config with
  | .error f => ⟨fs, [], .error f⟩
  | .ok (scan, reports) =>
    match writeTypes fs root scan.keywords with
    | (fs', .error f) => ⟨fs', reports, .error f⟩
    | (fs', .ok _) =>
      ⟨fs', reports ++ [⟨.info, "Found " ++ toString scan.keywords.size ++ " keywords in " ++
        toString scan.filesScanned ++ " files"⟩], .ok scan.keywords⟩

/-! ## Laws of aggregation -/

theorem mem_foldl_aggregateStep (scan : String → Except Failure KeywordSet) (files : List String)
    (acc : ScanResult × List Report) (k : String) :
    k ∈ (files.foldl (aggregateStep scan) acc).1.keywords ↔
      k ∈ acc.1.keywords ∨ ∃ f ∈ files, ∃ ks, scan f = .ok ks ∧ k ∈ ks := by
  induction files generalizing acc with
  | nil => simp
  | cons f fs ih =>
    rw [List.foldl_cons, ih]
    unfold aggregateStep
    cases h : scan f with
    | ok ks =>
      simp only [KeywordSet.mem_union, List.mem_cons]
      constructor
      · rintro ((h1 | h1) | ⟨g, hg, ks', hs, hk⟩)
        · exact Or.inl h1
        · exact Or.inr ⟨f, Or.inl rfl, ks, h, h1⟩
        · exact Or.inr ⟨g, Or.inr hg, ks', hs, hk⟩
      · rintro (h1 | ⟨g, (rfl | hg), ks', hs, hk⟩)
        · exact Or.inl (Or.inl h1)
        · rw [h] at hs; cases hs; exact Or.inl (Or.inr hk)
        · exact Or.inr ⟨g, hg, ks', hs, hk⟩
    | error e =>
      simp only [List.mem_cons]
      constructor
      · rintro (h1 | ⟨g, hg, ks', hs, hk⟩)
        · exact Or.inl h1
        · exact Or.inr ⟨g, Or.inr hg, ks', hs, hk⟩
      · rintro (h1 | ⟨g, (rfl | hg), ks', hs, hk⟩)
        · exact Or.inl h1
        · rw [h] at hs; cases hs
        · exact Or.inr ⟨g, hg, ks', hs, hk⟩

theorem flatten_batches_go (size : Nat) (n : Nat) (xs : List α) (h : xs.length ≤ n) :
    (batches.go size n xs).flatten = xs := by
  induction n generalizing xs with
  | zero =>
    cases xs with
    | nil => simp [batches.go]
    | cons x xs => simp [batches.go]
  | succ n ih =>
    cases xs with
    | nil => simp [batches.go]
    | cons x xs =>
      simp only [batches.go, List.flatten_cons]
      rw [ih]
      · exact List.take_append_drop _ _
      · simp only [List.length_drop, List.length_cons] at h ⊢
        have : 1 ≤ max size 1 := Nat.le_max_right _ _
        omega

/-- Taking the files batch after batch is taking them in order. -/
theorem foldl_batches (size : Nat) (files : List String) (step : β → String → β) (init : β) :
    (batches size files).foldl (fun acc batch => batch.foldl step acc) init =
      files.foldl step init := by
  have flat : ∀ (bs : List (List String)) (acc : β),
      bs.foldl (fun acc batch => batch.foldl step acc) acc = bs.flatten.foldl step acc := by
    intro bs
    induction bs with
    | nil => simp
    | cons b bs ih => intro acc; simp [ih, List.foldl_append]
  rw [flat, batches, flatten_batches_go _ _ files (Nat.le_refl _)]

/-- `aggregate` is one fold of `aggregateStep` over the files in order. -/
theorem aggregate_eq_foldl (files : List String) (batchSize : Nat)
    (scan : String → Except Failure KeywordSet) :
    aggregate files batchSize scan =
      let acc := files.foldl (aggregateStep scan) (⟨KeywordSet.empty, 0, 0⟩, [])
      ({ acc.1 with filesScanned := files.length }, acc.2) := by
  unfold aggregate
  rw [foldl_batches]

theorem mem_aggregate_keywords (files : List String) (batchSize : Nat)
    (scan : String → Except Failure KeywordSet) (k : String) :
    k ∈ (aggregate files batchSize scan).1.keywords ↔
      ∃ f ∈ files, ∃ ks, scan f = .ok ks ∧ k ∈ ks := by
  rw [aggregate_eq_foldl]
  simp only
  rw [mem_foldl_aggregateStep]
  simp [KeywordSet.empty]

theorem aggregate_filesScanned (files : List String) (batchSize : Nat)
    (scan : String → Except Failure KeywordSet) :
    (aggregate files batchSize scan).1.filesScanned = files.length := rfl

end KeyIntern
