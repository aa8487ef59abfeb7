import KeyIntern.Proofs.TreeEdits
import KeyIntern.Proofs.CanonicalPaths

/-! # What a project walk collects

A walk enters the root directory of a project and, below it, every directory that it does not
leave out, and collects the candidate files it keeps. `WalkContext.Keeps` says this of one place
below a directory, name by name: each directory on the way is there and is entered, contributing
its rules to the levels below it, and the last name is a candidate file that is not left out.

The rules come from the ignore files of the directories on the way and above the root, so in
trees without links a change at a place that is no ignore file leaves every verdict as it was.
With the observations of `TreeEdits` this gives the frame rule of the walk.

Main statements: `mem_collectFiles_iff` says the walk of a project whose root is a directory
collects exactly the texts of the places it keeps, and `keeps_changesOnlyAt` that after a change
at one place that is no ignore file the walk keeps nothing new but that place.
-/

namespace KeyIntern

open Files Ignore

/-! ## Ignore files -/

/-- The ignore files a directory takes rules from, as places below it. -/
def ruleFileNames : List Location :=
  [[".ignore"], [".gitignore"], [".git", "info", "exclude"]]

/-- Whether a place is one of the ignore files of a directory. -/
def Files.Location.isRuleFile (L : Location) : Bool :=
  ruleFileNames.any (·.isSuffixOf L)

theorem isRuleFile_append (X : Location) {r : Location} (isRule : r ∈ ruleFileNames) :
    (X ++ r).isRuleFile = true :=
  List.any_eq_true.mpr ⟨r, isRule, List.isSuffixOf_iff_suffix.mpr (List.suffix_append X r)⟩

theorem isRuleFile_typesPath (R : Location) :
    (R ++ [Artifact.directoryName, "index.d.ts"]).isRuleFile = false := by
  simp [Files.Location.isRuleFile, ruleFileNames, List.isSuffixOf, List.isPrefixOf,
    Artifact.directoryName]

theorem proper_ruleFileName {r : Location} (isRule : r ∈ ruleFileNames) : r.Proper ∧ r ≠ [] := by
  simp only [ruleFileNames, List.mem_cons, List.not_mem_nil, or_false] at isRule
  rcases isRule with rfl | rfl | rfl <;> decide

/-- An ignore file reads the same in two trees that read the same bytes from it. -/
theorem readRuleFile_congr {t t' : FileTree} {dir name : String}
    (same : ∀ b, t'.readBytes (Path.join dir name) = .ok b ↔ t.readBytes (Path.join dir name) = .ok b) :
    readRuleFile t' dir name = readRuleFile t dir name := by
  unfold readRuleFile
  cases read : t.readBytes (Path.join dir name) with
  | ok b => rw [(same b).mpr read]
  | error e =>
    cases read' : t'.readBytes (Path.join dir name) with
    | ok b => simp [(same b).mp read'] at read
    | error e' => rfl

/-- The rules of a directory, read from the places of its ignore files. -/
theorem DirRules.read_text (t : FileTree) (X : Location) :
    DirRules.read t X.text =
      ⟨X.text, readRuleFile t X.text ("/".intercalate [".ignore"]),
        readRuleFile t X.text ("/".intercalate [".gitignore"]),
        readRuleFile t X.text ("/".intercalate [".git", "info", "exclude"])⟩ := rfl

namespace Files.FileTree

variable {t t' : FileTree} {L : Location}

/-- A directory's rules are the same in two trees without links that hold the same files at its
ignore files. -/
theorem dirRules_congr (noLinks : t.NoLinks) (noLinks' : t'.NoLinks) {X : Location}
    (proper : X.Proper)
    (same : ∀ r ∈ ruleFileNames, ∀ b, t'.nodeAt (X ++ r) = some (.file b) ↔
      t.nodeAt (X ++ r) = some (.file b)) :
    DirRules.read t' X.text = DirRules.read t X.text := by
  have oneFile : ∀ r ∈ ruleFileNames, readRuleFile t' X.text ("/".intercalate r) =
      readRuleFile t X.text ("/".intercalate r) := by
    intro r isRule
    obtain ⟨names, nonempty⟩ := proper_ruleFileName isRule
    have place := proper.append names
    refine readRuleFile_congr fun b => ?_
    rw [Path.join_text_intercalate proper names nonempty, readBytes_text_eq_ok_iff noLinks' place,
      readBytes_text_eq_ok_iff noLinks place, ← nodeAt_eq_some_file, ← nodeAt_eq_some_file]
    exact same r isRule b
  rw [DirRules.read_text, DirRules.read_text,
    oneFile [".ignore"] (by simp [ruleFileNames]), oneFile [".gitignore"] (by simp [ruleFileNames]),
    oneFile [".git", "info", "exclude"] (by simp [ruleFileNames])]

/-- A change at a place that is no ignore file, from a tree without links to another, leaves the
rules of every directory as they were. -/
theorem ChangesOnlyAt.dirRules (noLinks : t.NoLinks) (noLinks' : t'.NoLinks)
    (changes : t.ChangesOnlyAt t' L) (notRule : L.isRuleFile = false)
    {X : Location} (proper : X.Proper) : DirRules.read t' X.text = DirRules.read t X.text := by
  refine dirRules_congr noLinks noLinks' proper fun r isRule b => ?_
  have other : X ++ r ≠ L := by
    rintro rfl
    rw [isRuleFile_append X isRule] at notRule
    cases notRule
  exact (changes.elsewhere _ other).file_iff

end Files.FileTree

/-! ## The places a walk keeps -/

namespace WalkContext

variable (ctx : WalkContext)

/-- The walk that has entered the directory at `D`, with `levels` the rules from `D` up to the
root, keeps the file at `D ++ rel`: every directory on the way is there and is entered, and the
last name is a candidate file that is not left out. -/
def Keeps (levels : List DirRules) (D : Location) : Location → Prop
  | [] => False
  | [n] => (∃ b, ctx.fs.nodeAt (D ++ [n]) = some (.file b)) ∧
      ctx.skips levels (D ++ [n]).text false = false ∧ Script.isCandidate (D ++ [n]).text = true
  | n :: m :: rest => ctx.fs.nodeAt (D ++ [n]) = some .dir ∧
      ctx.skips levels (D ++ [n]).text true = false ∧
      Keeps (DirRules.read ctx.fs (D ++ [n]).text :: levels) (D ++ [n]) (m :: rest)

variable {ctx}

/-- A kept place holds a candidate file. -/
theorem Keeps.file : ∀ {levels : List DirRules} {D rel : Location}, ctx.Keeps levels D rel →
    (∃ b, ctx.fs.nodeAt (D ++ rel) = some (.file b)) ∧ Script.isCandidate (D ++ rel).text = true
  | _, _, [], keeps => keeps.elim
  | _, _, [_], keeps => ⟨keeps.1, keeps.2.2⟩
  | _, _, _ :: _ :: _, keeps => by simpa using Keeps.file keeps.2.2

theorem Keeps.proper {levels : List DirRules} {D rel : Location} (wf : ctx.fs.WellFormed)
    (keeps : ctx.Keeps levels D rel) : (D ++ rel).Proper := by
  obtain ⟨⟨b, isFile⟩, -⟩ := keeps.file
  exact wf.proper (by simp [FileTree.nodeAt_eq_some_file.mp isFile])

theorem mem_walkEntries {levels : List DirRules} {dir f : String} {cs : List (String × Entry)} :
    f ∈ walkEntries ctx levels dir cs ↔ ∃ p ∈ cs, f ∈ walkEntry ctx levels dir p.1 p.2 := by
  induction cs with
  | nil => simp [walkEntries]
  | cons p rest ih => simp [walkEntries, ih]

mutual

/-- Whatever the walk of the entries of the directory at `D` collects is the text of a place it
keeps. -/
theorem keeps_of_mem_walkEntries (wf : ctx.fs.WellFormed) {levels : List DirRules} {D : Location}
    {f : String} (proper : D.Proper) :
    ∀ {cs : List (String × Entry)}, (∀ p ∈ cs, ctx.fs.get? (D ++ [p.1]) = some p.2) →
      f ∈ walkEntries ctx levels D.text cs → ∃ rel, f = (D ++ rel).text ∧ ctx.Keeps levels D rel
  | [], _, mem => by simp [walkEntries] at mem
  | (n, e) :: rest, children, mem => by
    rw [walkEntries, List.mem_append] at mem
    rcases mem with inEntry | inRest
    · obtain ⟨rel, rfl, keeps⟩ :=
        keeps_of_mem_walkEntry wf proper (children _ List.mem_cons_self) inEntry
      exact ⟨n :: rel, rfl, keeps⟩
    · exact keeps_of_mem_walkEntries wf proper
        (fun p inRest' => children p (List.mem_cons_of_mem _ inRest')) inRest

/-- Whatever the walk of one entry of the directory at `D` collects is the text of a place below
that entry which it keeps. -/
theorem keeps_of_mem_walkEntry (wf : ctx.fs.WellFormed) {levels : List DirRules} {D : Location}
    {f n : String} (proper : D.Proper) :
    ∀ {e : Entry}, ctx.fs.get? (D ++ [n]) = some e → f ∈ walkEntry ctx levels D.text n e →
      ∃ rel, f = (D ++ n :: rel).text ∧ ctx.Keeps levels D (n :: rel)
  | .file b, found, mem => by
    have name : (D ++ [n]).Proper := wf.proper (by simp [found])
    rw [walkEntry, Path.join_text proper (name n (by simp))] at mem
    split at mem
    · cases mem
    · rename_i kept
      rw [List.mem_singleton] at mem
      simp only [Bool.or_eq_true, Bool.not_eq_true', not_or, Bool.not_eq_true, Bool.not_eq_false] at kept
      exact ⟨[], by simpa using mem, ⟨b, FileTree.nodeAt_eq_some_file.mpr found⟩, kept.1, kept.2⟩
  | .link target, found, _ => absurd found (wf.noLinks _ target)
  | .dir cs, found, mem => by
    have name : (D ++ [n]).Proper := wf.proper (by simp [found])
    rw [walkEntry, Path.join_text proper (name n (by simp))] at mem
    split at mem
    · cases mem
    · rename_i entered
      -- the entries below are listed under their own names: the tree is well formed
      obtain ⟨rel, rfl, keeps⟩ := keeps_of_mem_walkEntries wf name
        (fun p inCs => wf.get?_child found inCs) mem
      cases rel with
      | nil => exact keeps.elim
      | cons m rest =>
        refine ⟨m :: rest, by simp, FileTree.nodeAt_eq_some_dir.mpr ⟨cs, found⟩, ?_, keeps⟩
        simpa using entered

end

/-- The walk of the entries of the directory at `D` collects the text of every place it keeps. -/
theorem mem_walkEntries_of_keeps {levels : List DirRules} {D rel : Location}
    {cs : List (String × Entry)} (proper : (D ++ rel).Proper) (atD : ctx.fs.get? D = some (.dir cs))
    (keeps : ctx.Keeps levels D rel) : (D ++ rel).text ∈ walkEntries ctx levels D.text cs := by
  induction rel generalizing D levels cs with
  | nil => exact keeps.elim
  | cons n rest ih =>
    have name : ProperName n := proper n (by simp)
    have listed : ∀ {e : Entry}, ctx.fs.get? (D ++ [n]) = some e → (n, e) ∈ cs := fun found =>
      mem_of_lookup_eq_some (by rwa [FileTree.get?_append_singleton_of_dir atD] at found)
    rw [mem_walkEntries]
    -- the last name is a file the walk keeps, every other one a directory it enters
    cases rest with
    | nil =>
      obtain ⟨⟨b, isFile⟩, kept, candidate⟩ := keeps
      refine ⟨(n, .file b), listed (FileTree.nodeAt_eq_some_file.mp isFile), ?_⟩
      simp [walkEntry, Path.join_text (proper.of_append_left) name, kept, candidate]
    | cons m rest =>
      obtain ⟨isDir, entered, below⟩ := keeps
      obtain ⟨cs', found⟩ := FileTree.nodeAt_eq_some_dir.mp isDir
      refine ⟨(n, .dir cs'), listed found, ?_⟩
      have inside := ih (by simpa using proper) found below
      simp only [walkEntry, Path.join_text (proper.of_append_left) name, entered]
      simpa using inside

/-- After a change at one place that is no ignore file, between trees without links, the walk
keeps only what it kept before, and that place. -/
theorem Keeps.of_changesOnlyAt {t' : FileTree} {L : Location} (noLinks : ctx.fs.NoLinks)
    (noLinks' : t'.NoLinks) (changes : ctx.fs.ChangesOnlyAt t' L)
    (notRule : L.isRuleFile = false) :
    ∀ {levels : List DirRules} {D rel : Location}, (D ++ rel).Proper →
      ({ ctx with fs := t' } : WalkContext).Keeps levels D rel →
        ctx.Keeps levels D rel ∨ D ++ rel = L
  | _, _, [], _, keeps => keeps.elim
  | _, D, [n], _, keeps => by
    obtain ⟨⟨b, isFile⟩, kept, candidate⟩ := keeps
    by_cases atL : D ++ [n] = L
    · exact .inr atL
    · exact .inl ⟨⟨b, (changes.elsewhere _ atL).file_iff.mp isFile⟩, kept, candidate⟩
  | levels, D, n :: m :: rest, proper, keeps => by
    obtain ⟨-, entered, below⟩ := keeps
    have above : (D ++ [n]).Proper := Location.Proper.of_append_left (m := m :: rest) (by simpa using proper)
    -- the directory contributes the rules it did before the change
    have sameRules := changes.dirRules noLinks noLinks' notRule above
    dsimp only at below
    rw [sameRules] at below
    rcases Keeps.of_changesOnlyAt noLinks noLinks' changes notRule (by simpa using proper) below
      with kept | atL
    · -- a file below the directory was there before, so the directory was too
      obtain ⟨⟨b, isFile⟩, -⟩ := kept.file
      have isDir : ctx.fs.nodeAt (D ++ [n]) = some .dir :=
        FileTree.nodeAt_dir_of_below (by rw [isFile]; rfl)
      exact .inl ⟨isDir, entered, kept⟩
    · exact .inr (by simpa using atL)

end WalkContext

/-! ## The walk of a project -/

/-- The walk context of a project whose canonical root is the place `R`. -/
def WalkContext.atRoot (t : FileTree) (R : Location) (ignoredDirs : List String) : WalkContext where
  fs := t
  root := R.text
  ignored := Exclusion.resolveIgnoredDirs R.text ignoredDirs
  above := (ancestors R.text).map (DirRules.read t)

section Project

variable {t t' : FileTree} {root : String} {R L : Location} {ignoredDirs : List String}

/-- A walk that succeeds began at the place its root names. -/
theorem resolve_of_collectFiles {files : List String}
    (collected : collectFiles t root ignoredDirs = .ok files) : ∃ R, t.resolve root = .ok R := by
  unfold collectFiles FileTree.canonicalize at collected
  cases found : t.resolve root with
  | error e => simp [found, Except.map] at collected
  | ok R => exact ⟨R, rfl⟩

/-- The walk of a project whose root is the directory at `R`, in a tree without links, walks the
entries of `R`, with the ignored directories cleaned. -/
theorem collectFiles_of_dir {cs : List (String × Entry)} (noLinks : t.NoLinks) (proper : R.Proper)
    (resolved : t.resolve root = .ok R) (atR : t.get? R = some (.dir cs)) :
    collectFiles t root ignoredDirs =
      .ok (walkEntries (.atRoot t R ignoredDirs) [DirRules.read t R.text] R.text cs) := by
  have canonical : t.canonicalize root = .ok R.text := by
    simp [FileTree.canonicalize, resolved, Except.map]
  simp only [collectFiles, canonical, FileTree.entry?_text noLinks proper, atR,
    Exclusion.resolveIgnoredDirsIn_eq noLinks (Location.isAbsolute_text R)]
  rfl

/-- The walk of a project whose root is a directory collects exactly the texts of the places it
keeps. -/
theorem mem_collectFiles_iff (wf : t.WellFormed) (resolved : t.resolve root = .ok R)
    (isDir : t.nodeAt R = some .dir) :
    ∃ files, collectFiles t root ignoredDirs = .ok files ∧
      ∀ f, f ∈ files ↔ ∃ rel, f = (R ++ rel).text ∧
        (WalkContext.atRoot t R ignoredDirs).Keeps [DirRules.read t R.text] R rel := by
  obtain ⟨cs, atR⟩ := FileTree.nodeAt_eq_some_dir.mp isDir
  have proper : R.Proper := wf.proper (by simp [atR])
  refine ⟨_, collectFiles_of_dir wf.noLinks proper resolved atR, fun f => ⟨fun mem => ?_, ?_⟩⟩
  · exact WalkContext.keeps_of_mem_walkEntries wf proper (fun p inCs => wf.get?_child atR inCs) mem
  · rintro ⟨rel, rfl, keeps⟩
    exact WalkContext.mem_walkEntries_of_keeps (keeps.proper wf) atR keeps

/-- After a change at one place that is no ignore file, between trees without links, the walk of
a project reads the changed tree with the rules it read before. -/
theorem atRoot_changesOnlyAt (noLinks : t.NoLinks) (noLinks' : t'.NoLinks) (proper : R.Proper)
    (changes : t.ChangesOnlyAt t' L) (notRule : L.isRuleFile = false) :
    WalkContext.atRoot t' R ignoredDirs = { WalkContext.atRoot t R ignoredDirs with fs := t' } := by
  simp only [WalkContext.atRoot, WalkContext.mk.injEq, true_and]
  apply List.map_congr_left
  intro a isAncestor
  obtain ⟨k, -, rfl⟩ := mem_ancestors_text proper isAncestor
  exact changes.dirRules noLinks noLinks' notRule (proper.take k)

/-- After a change at one place that is no ignore file, between trees without links, the walk of
a project keeps only what it kept before, and that place. -/
theorem keeps_changesOnlyAt (noLinks : t.NoLinks) (noLinks' : t'.NoLinks) {rel : Location}
    (proper : (R ++ rel).Proper) (changes : t.ChangesOnlyAt t' L) (notRule : L.isRuleFile = false)
    (keeps : (WalkContext.atRoot t' R ignoredDirs).Keeps [DirRules.read t' R.text] R rel) :
    (WalkContext.atRoot t R ignoredDirs).Keeps [DirRules.read t R.text] R rel ∨ R ++ rel = L := by
  have properR : R.Proper := proper.of_append_left
  rw [atRoot_changesOnlyAt noLinks noLinks' properR changes notRule,
    changes.dirRules noLinks noLinks' notRule properR] at keeps
  exact keeps.of_changesOnlyAt noLinks noLinks' changes notRule proper

/-! ## The declaration file is never collected -/

/-- Below the root, a place is seen by the names that lead to it from the root. -/
theorem Path.stripPrefix?_text {rel : Location} (proper : (R ++ rel).Proper) :
    Path.stripPrefix? (R ++ rel).text R.text = some (rel.map .normal) := by
  have properR : R.Proper := proper.of_append_left
  simp [Path.stripPrefix?, Path.components_text proper, Path.components_text properR,
    List.isPrefixOf_iff_prefix]

/-- The walk of a project leaves out the directory of the declaration file. -/
theorem skips_directory (proper : R.Proper) (levels : List DirRules) (isDir : Bool) :
    (WalkContext.atRoot t R ignoredDirs).skips levels (R ++ [Artifact.directoryName]).text isDir =
      true := by
  have strip : Path.stripPrefix? (R ++ [Artifact.directoryName]).text R.text =
      some ([Artifact.directoryName].map .normal) :=
    Path.stripPrefix?_text (proper.append (.singleton properName_directoryName))
  simp only [WalkContext.skips, WalkContext.atRoot, Exclusion.isIgnoredPath, strip]
  simp [Exclusion.isAlwaysIgnored, Exclusion.alwaysIgnoredDirs, Artifact.directoryName]

/-- Nothing in the directory of the declaration file is kept. -/
theorem not_keeps_directory (proper : R.Proper) (levels : List DirRules) :
    ∀ rel, ¬ (WalkContext.atRoot t R ignoredDirs).Keeps levels R (Artifact.directoryName :: rel)
  | [], keeps => by
    have kept := keeps.2.1
    rw [skips_directory proper] at kept
    cases kept
  | _ :: _, keeps => by
    have entered := keeps.2.1
    rw [skips_directory proper] at entered
    cases entered

/-- The walk of a project never collects its declaration file. -/
theorem typesPath_not_mem_collectFiles {files : List String} (wf : t.WellFormed)
    (resolved : t.resolve root = .ok R) (isDir : t.nodeAt R = some .dir)
    (collected : collectFiles t root ignoredDirs = .ok files) :
    (R ++ [Artifact.directoryName, "index.d.ts"]).text ∉ files := by
  obtain ⟨files', collected', members⟩ := @mem_collectFiles_iff t root R ignoredDirs wf resolved isDir
  rw [collected, Except.ok.injEq] at collected'
  subst collected'
  intro mem
  obtain ⟨rel, same, keeps⟩ := (members _).mp mem
  have properR : R.Proper := (keeps.proper wf).of_append_left
  have typesProper : (R ++ [Artifact.directoryName, "index.d.ts"]).Proper :=
    properR.append fun x inNames => by
      simp only [List.mem_cons, List.not_mem_nil, or_false] at inNames
      rcases inNames with rfl | rfl
      · exact properName_directoryName
      · exact properName_typesFile
  have atTypes := Location.text_inj typesProper (keeps.proper wf) same
  rw [List.append_cancel_left atTypes.symm] at keeps
  exact not_keeps_directory properR _ _ keeps

end Project

end KeyIntern
