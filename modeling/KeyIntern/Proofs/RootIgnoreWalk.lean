import KeyIntern.Proofs.CollectedFiles

/-! # A walk that only the root's `.gitignore` steers

A walk reads the ignore files of every directory on the way to an entry and above the root. When
the only ignore file a tree holds is the root's `.gitignore`, every other file contributes no
rule, and the verdict on an entry is the verdict of that one file. The walk then keeps a file
exactly when it is a candidate, lies outside the always-ignored and configured directories, and
the root's `.gitignore` ignores neither the file nor a directory on the way to it
(`keeps_iff_rootRules`). Which directories lie outside the configured ones is monotone along a
path, so pruning a directory never hides a file the per-path test would admit
(`isIgnoredPath_append`); the verdicts of the `.gitignore` are not, and are checked for every
directory on the way.

With no ignore file at all, the walk of a project whose root is a directory collects exactly the
candidate files under it that the per-path test admits. A root that is itself a file is collected
as it is, since the walk never tests its own root (`collectFiles_unignored_files`,
`collectFiles_file_root_ignored`).
-/

namespace KeyIntern

open Files Ignore

/-! ## Verdicts -/

namespace Ignore.Verdict

theorem orElse_unmatched_right (v : Verdict) : v.orElse .unmatched = v := by
  cases v <;> rfl

theorem first_eq_unmatched {vs : List Verdict} (each : ∀ w ∈ vs, w = .unmatched) :
    Verdict.first vs = .unmatched := by
  induction vs with
  | nil => rfl
  | cons w ws ih =>
    rw [Verdict.first, each w List.mem_cons_self, Verdict.orElse_unmatched]
    exact ih fun w' inWs => each w' (List.mem_cons_of_mem w inWs)

/-- A list of verdicts, each unmatched or `v`, that holds `v` gives `v`. -/
theorem first_eq_of_forall {v : Verdict} {vs : List Verdict}
    (each : ∀ w ∈ vs, w = .unmatched ∨ w = v) (mem : v ∈ vs) : Verdict.first vs = v := by
  by_cases silent : v = .unmatched
  · subst silent
    exact first_eq_unmatched fun w inVs => (each w inVs).elim id id
  · induction vs with
    | nil => cases mem
    | cons w ws ih =>
      rw [Verdict.first]
      rcases each w List.mem_cons_self with rfl | rfl
      · rw [Verdict.orElse_unmatched]
        exact ih (fun w' inWs => each w' (List.mem_cons_of_mem _ inWs))
          ((List.mem_cons.mp mem).resolve_left silent)
      · cases w with
        | unmatched => exact absurd rfl silent
        | ignored => rfl
        | allowed => rfl

/-- The verdict a list gives is one of its own, unless it is unmatched. -/
theorem mem_of_first_eq {v : Verdict} {vs : List Verdict} (first : Verdict.first vs = v)
    (speaks : v ≠ .unmatched) : v ∈ vs := by
  induction vs with
  | nil => exact absurd first.symm speaks
  | cons w ws ih =>
    rw [Verdict.first] at first
    cases w with
    | unmatched =>
      rw [Verdict.orElse_unmatched] at first
      exact List.mem_cons_of_mem _ (ih first)
    | ignored => exact first ▸ List.mem_cons_self
    | allowed => exact first ▸ List.mem_cons_self

/-- Without an allowing verdict, one ignoring verdict makes the list ignore. -/
theorem first_eq_ignored {vs : List Verdict} (noAllow : Verdict.allowed ∉ vs)
    (ignoring : Verdict.ignored ∈ vs) : Verdict.first vs = .ignored := by
  induction vs with
  | nil => cases ignoring
  | cons w ws ih =>
    rw [Verdict.first]
    cases w with
    | unmatched =>
      rw [Verdict.orElse_unmatched]
      exact ih (fun inWs => noAllow (List.mem_cons_of_mem _ inWs)) (by simpa using ignoring)
    | ignored => rfl
    | allowed => exact absurd List.mem_cons_self noAllow

end Ignore.Verdict

theorem RuleFile.verdict_of_rules_nil {f : RuleFile} (none : f.rules = []) (path : String)
    (isDir : Bool) : f.verdict path isDir = .unmatched := by
  simp [RuleFile.verdict, none]

/-! ## Ignore files that say nothing -/

/-- Every ignore file a tree holds is at one of the places `allowed`. -/
def Files.FileTree.RuleFilesAmong (t : FileTree) (allowed : List Location) : Prop :=
  ∀ L, L.isRuleFile = true → L ∉ allowed → ∀ b, t.nodeAt L ≠ some (.file b)

mutual

/-- The places of the files at or below an entry; a link holds none. -/
def Files.Entry.fileLocations : Entry → List Location
  | .file _ => [[]]
  | .dir cs => Files.Entry.dirFileLocations cs
  | .link _ => []

/-- The places of the files below the entries of a directory. -/
def Files.Entry.dirFileLocations : List (String × Entry) → List Location
  | [] => []
  | (n, c) :: rest => c.fileLocations.map (n :: ·) ++ Entry.dirFileLocations rest

end

theorem Files.Entry.mem_dirFileLocations {cs : List (String × Entry)} {n : String} {c : Entry}
    (named : cs.lookup n = some c) {rest : Location} (inC : rest ∈ c.fileLocations) :
    n :: rest ∈ Entry.dirFileLocations cs := by
  induction cs with
  | nil => cases named
  | cons p ps ih =>
    obtain ⟨m, d⟩ := p
    rw [Entry.dirFileLocations, List.mem_append]
    rw [lookup_cons_if] at named
    by_cases same : n = m
    · rw [if_pos same, Option.some_inj] at named
      subst same named
      exact .inl (List.mem_map_of_mem inC)
    · rw [if_neg same] at named
      exact .inr (ih named)

/-- Every file below an entry is at one of its listed places. -/
theorem Files.Entry.mem_fileLocations {b : ByteArray} :
    ∀ {e : Entry} {l : Location}, e.get? l = some (.file b) → l ∈ e.fileLocations
  | .file _, [], _ => by simp [Entry.fileLocations]
  | .dir _, [], found => by simp at found
  | .link _, [], found => by simp at found
  | .file _, _ :: _, found => by simp at found
  | .link _, _ :: _, found => by simp at found
  | .dir cs, n :: rest, found => by
    rw [Entry.get?_dir_cons, Option.bind_eq_some_iff] at found
    obtain ⟨c, named, below⟩ := found
    exact Entry.mem_dirFileLocations named (Entry.mem_fileLocations below)

/-- Where the ignore files of a tree are can be read off the places of its files. -/
theorem Files.FileTree.ruleFilesAmong_of_fileLocations {t : FileTree} {allowed : List Location}
    (listed : ∀ L ∈ t.root.fileLocations, L.isRuleFile = true → L ∈ allowed) :
    t.RuleFilesAmong allowed := by
  intro L rule notAllowed b found
  rw [FileTree.nodeAt_eq_some_file] at found
  exact notAllowed (listed L (Entry.mem_fileLocations found) rule)

/-- A directory whose ignore files hold no rule. -/
def DirRules.Silent (d : DirRules) : Prop :=
  d.ignoreFile.rules = [] ∧ d.gitignore.rules = [] ∧ d.exclude.rules = []

theorem readRuleFile_of_absent {t : FileTree} {dir name : String}
    (absent : ∀ b, t.readBytes (Path.join dir name) ≠ .ok b) : (readRuleFile t dir name).rules = [] := by
  unfold readRuleFile
  cases read : t.readBytes (Path.join dir name) with
  | ok b => exact absurd read (absent b)
  | error e => rfl

section RuleFiles

variable {t : FileTree} {allowed : List Location} {X : Location}

/-- An ignore file that a tree without links does not hold gives no rule. -/
theorem readRuleFile_rules_nil (noLinks : t.NoLinks) (only : t.RuleFilesAmong allowed)
    (proper : X.Proper)
    {r : Location} (isRule : r ∈ ruleFileNames) (elsewhere : X ++ r ∉ allowed) :
    (readRuleFile t X.text ("/".intercalate r)).rules = [] := by
  obtain ⟨names, nonempty⟩ := proper_ruleFileName isRule
  refine readRuleFile_of_absent fun b read => ?_
  rw [Path.join_text_intercalate proper names nonempty,
    FileTree.readBytes_text_eq_ok_iff noLinks (proper.append names),
    ← FileTree.nodeAt_eq_some_file] at read
  exact only _ (isRuleFile_append X isRule) elsewhere b read

/-- A directory none of whose ignore files a tree without links holds is silent. -/
theorem DirRules.read_silent (noLinks : t.NoLinks) (only : t.RuleFilesAmong allowed)
    (proper : X.Proper) (elsewhere : ∀ r ∈ ruleFileNames, X ++ r ∉ allowed) :
    (DirRules.read t X.text).Silent := by
  rw [DirRules.read_text]
  exact ⟨readRuleFile_rules_nil noLinks only proper (by simp [ruleFileNames])
      (elsewhere _ (by simp [ruleFileNames])),
    readRuleFile_rules_nil noLinks only proper (by simp [ruleFileNames])
      (elsewhere _ (by simp [ruleFileNames])),
    readRuleFile_rules_nil noLinks only proper (by simp [ruleFileNames])
      (elsewhere _ (by simp [ruleFileNames]))⟩

/-- Only the root itself holds its `.gitignore`: no other directory's ignore file is that place. -/
theorem ruleFile_ne_rootGitignore {R : Location} {r : Location} (isRule : r ∈ ruleFileNames)
    (other : X ≠ R) : X ++ r ≠ R ++ [".gitignore"] := by
  simp only [ruleFileNames, List.mem_cons, List.not_mem_nil, or_false] at isRule
  rcases isRule with rfl | rfl | rfl
  · intro same
    have last := congrArg List.getLast? same
    simp at last
  · exact fun same => other (List.append_cancel_right same)
  · intro same
    have last := congrArg List.getLast? same
    simp at last

end RuleFiles

/-! ## The per-path test along a path -/

/-- Once the per-path test leaves a place below the root out, it leaves out everything below
that place. -/
theorem isIgnoredPath_append {R y x : Location} (proper : (R ++ y ++ x).Proper)
    (ignored : List String) (out : Exclusion.isIgnoredPath R.text ignored (R ++ y).text = true) :
    Exclusion.isIgnoredPath R.text ignored (R ++ y ++ x).text = true := by
  have properY : (R ++ y).Proper := proper.of_append_left
  have properYX : (R ++ (y ++ x)).Proper := by rwa [← List.append_assoc]
  rw [Exclusion.isIgnoredPath, Path.stripPrefix?_text properY] at out
  rw [Exclusion.isIgnoredPath, List.append_assoc, Path.stripPrefix?_text properYX]
  simp only [Bool.or_eq_true, List.any_eq_true] at out ⊢
  rcases out with ⟨c, inY, always⟩ | ⟨d, listed, starts⟩
  · exact .inl ⟨c, by simp only [List.map_append, List.mem_append]; exact .inl inY, always⟩
  · refine .inr ⟨d, listed, ?_⟩
    -- the components of the longer path begin with those of the shorter one
    simp only [Path.startsWith, List.isPrefixOf_iff_prefix] at starts ⊢
    rw [Path.components_text properY] at starts
    rw [← List.append_assoc, Path.components_text proper]
    refine starts.trans ⟨x.map .normal, ?_⟩
    simp

/-! ## The verdict of a walk that one file steers -/

/-- The levels of a walk that only `G` steers: no `.ignore` or exclude rules, and every
`.gitignore` either without rules or `G`. -/
def QuietLevels (G : RuleFile) (levels : List DirRules) : Prop :=
  ∀ l ∈ levels, l.ignoreFile.rules = [] ∧ l.exclude.rules = [] ∧
    (l.gitignore.rules = [] ∨ l.gitignore = G)

theorem QuietLevels.cons {G : RuleFile} {levels : List DirRules} {d : DirRules}
    (quiet : QuietLevels G levels) (silent : d.Silent) : QuietLevels G (d :: levels) := by
  intro l inLevels
  rcases List.mem_cons.mp inLevels with rfl | later
  · exact ⟨silent.1, silent.2.2, .inl silent.2.1⟩
  · exact quiet l later

/-- When the directories above the root are silent and only `G` speaks on the way, the walk's
verdict on an entry is `G`'s. -/
theorem WalkContext.verdict_eq (ctx : WalkContext) {G : RuleFile} {levels : List DirRules}
    (above : ∀ l ∈ ctx.above, l.Silent) (quiet : QuietLevels G levels)
    (rootLevel : ∃ l ∈ levels, l.gitignore = G) (path : String) (isDir : Bool) :
    ctx.verdict levels path isDir = G.verdict path isDir := by
  -- the directories above the root are seen by another path, which does not matter here
  have ignoreFiles : ∀ seen, Verdict.first (levels.map (fun l => l.ignoreFile.verdict path isDir) ++
      ctx.above.map (fun l => l.ignoreFile.verdict seen isDir)) = .unmatched := by
    intro seen
    refine Verdict.first_eq_unmatched fun w listed => ?_
    simp only [List.mem_append, List.mem_map] at listed
    rcases listed with ⟨l, inLevels, rfl⟩ | ⟨l, inAbove, rfl⟩
    · exact RuleFile.verdict_of_rules_nil (quiet l inLevels).1 _ _
    · exact RuleFile.verdict_of_rules_nil (above l inAbove).1 _ _
  have excludes : ∀ seen, Verdict.first (levels.map (fun l => l.exclude.verdict path isDir) ++
      ctx.above.map (fun l => l.exclude.verdict seen isDir)) = .unmatched := by
    intro seen
    refine Verdict.first_eq_unmatched fun w listed => ?_
    simp only [List.mem_append, List.mem_map] at listed
    rcases listed with ⟨l, inLevels, rfl⟩ | ⟨l, inAbove, rfl⟩
    · exact RuleFile.verdict_of_rules_nil (quiet l inLevels).2.1 _ _
    · exact RuleFile.verdict_of_rules_nil (above l inAbove).2.2 _ _
  have gitignores : ∀ seen, Verdict.first (levels.map (fun l => l.gitignore.verdict path isDir) ++
      ctx.above.map (fun l => l.gitignore.verdict seen isDir)) = G.verdict path isDir := by
    intro seen
    obtain ⟨l₀, atRoot, steers⟩ := rootLevel
    refine Verdict.first_eq_of_forall (fun w listed => ?_)
      (List.mem_append_left _ (List.mem_map.mpr ⟨l₀, atRoot, by rw [steers]⟩))
    simp only [List.mem_append, List.mem_map] at listed
    rcases listed with ⟨l, inLevels, rfl⟩ | ⟨l, inAbove, rfl⟩
    · rcases (quiet l inLevels).2.2 with none | isG
      · exact .inl (RuleFile.verdict_of_rules_nil none _ _)
      · exact .inr (by rw [isG])
    · exact .inl (RuleFile.verdict_of_rules_nil (above l inAbove).2.1 _ _)
  unfold WalkContext.verdict
  simp only [ignoreFiles, excludes, gitignores, Verdict.orElse_unmatched,
    Verdict.orElse_unmatched_right]

/-- Whether a quiet walk leaves an entry out: `G` ignores it, or the per-path test does. -/
theorem WalkContext.skips_eq (ctx : WalkContext) {G : RuleFile} {levels : List DirRules}
    (above : ∀ l ∈ ctx.above, l.Silent) (quiet : QuietLevels G levels)
    (rootLevel : ∃ l ∈ levels, l.gitignore = G) (path : String) (isDir : Bool) :
    ctx.skips levels path isDir =
      (G.verdict path isDir == .ignored || Exclusion.isIgnoredPath ctx.root ctx.ignored path) := by
  rw [WalkContext.skips, ctx.verdict_eq above quiet rootLevel]

/-! ## What a quiet walk keeps -/

section Keeps

variable {t : FileTree} {R : Location} {ignoredDirs : List String} {G : RuleFile}

/-- A quiet walk that has entered `R ++ y` keeps the file at `R ++ y ++ rel` exactly when it is a
candidate file that the per-path test admits, and `G` ignores neither it nor a directory on the
way to it from `R ++ y`. -/
theorem keeps_iff_quiet (above : ∀ l ∈ (WalkContext.atRoot t R ignoredDirs).above, l.Silent) :
    ∀ (y rel : Location) {levels : List DirRules}, QuietLevels G levels →
      (∃ l ∈ levels, l.gitignore = G) →
      (∀ x, x ≠ [] → (R ++ y ++ x).Proper → (DirRules.read t (R ++ y ++ x).text).Silent) →
      (R ++ y ++ rel).Proper →
      ((WalkContext.atRoot t R ignoredDirs).Keeps levels (R ++ y) rel ↔
        rel ≠ [] ∧ (∃ b, t.nodeAt (R ++ y ++ rel) = some (.file b)) ∧
        Script.isCandidate (R ++ y ++ rel).text = true ∧
        Exclusion.isIgnoredPath R.text (Exclusion.resolveIgnoredDirs R.text ignoredDirs)
          (R ++ y ++ rel).text = false ∧
        ∀ j, 0 < j → j ≤ rel.length →
          G.verdict (R ++ y ++ rel.take j).text (decide (j < rel.length)) ≠ .ignored)
  | _, [], _, _, _, _, _ => by simp [WalkContext.Keeps]
  | y, [n], levels, quiet, rootLevel, _, _ => by
    rw [WalkContext.Keeps, WalkContext.skips_eq _ above quiet rootLevel]
    simp only [WalkContext.atRoot, Bool.or_eq_false_iff, beq_eq_false_iff_ne, ne_eq,
      List.cons_ne_nil, not_false_eq_true, List.length_singleton, true_and]
    constructor
    · rintro ⟨found, ⟨verdict, admitted⟩, candidate⟩
      refine ⟨found, candidate, admitted, fun j pos le => ?_⟩
      obtain rfl : j = 1 := by omega
      simpa using verdict
    · rintro ⟨found, candidate, admitted, verdicts⟩
      exact ⟨found, ⟨by simpa using verdicts 1 (by omega) (Nat.le_refl 1), admitted⟩, candidate⟩
  | y, n :: m :: rest, levels, quiet, rootLevel, below, proper => by
    have assoc : R ++ y ++ [n] = R ++ (y ++ [n]) := List.append_assoc R y [n]
    have properN : (R ++ (y ++ [n])).Proper := by
      rw [← assoc]
      exact Location.Proper.of_append_left (m := m :: rest) (by simpa using proper)
    have silentN : (DirRules.read t (R ++ (y ++ [n])).text).Silent := by
      rw [← assoc] at properN ⊢
      exact below [n] (List.cons_ne_nil n []) properN
    have inner := keeps_iff_quiet above (y ++ [n]) (m :: rest) (quiet.cons silentN)
      (by obtain ⟨l, inLevels, steers⟩ := rootLevel; exact ⟨l, List.mem_cons_of_mem _ inLevels, steers⟩)
      (fun x nonempty properX => by
        simpa using below ([n] ++ x) (by simp) (by simpa using properX))
      (by simpa using proper)
    have onTree : (WalkContext.atRoot t R ignoredDirs).fs = t := rfl
    rw [WalkContext.Keeps, WalkContext.skips_eq _ above quiet rootLevel, assoc, onTree, inner]
    have here : R ++ (y ++ [n]) ++ m :: rest = R ++ y ++ n :: m :: rest := by simp
    -- a verdict on the way below `n` is one on the way below `y`, one step further
    have further : ∀ j, R ++ y ++ (n :: m :: rest).take (j + 1) = R ++ (y ++ [n]) ++ (m :: rest).take j := by
      intro j
      simp
    simp only [WalkContext.atRoot, here, Bool.or_eq_false_iff, beq_eq_false_iff_ne, ne_eq,
      List.cons_ne_nil, not_false_eq_true, true_and, List.length_cons]
    constructor
    · rintro ⟨-, ⟨entered, admittedN⟩, found, candidate, admitted, verdicts⟩
      refine ⟨found, candidate, admitted, fun j pos le => ?_⟩
      rcases j with _ | _ | j
      · omega
      · simpa using entered
      · rw [further (j + 1)]
        simpa using verdicts (j + 1) (by omega) (by omega)
    · rintro ⟨⟨b, found⟩, candidate, admitted, verdicts⟩
      have isDir : t.nodeAt (R ++ (y ++ [n])) = some .dir :=
        FileTree.nodeAt_dir_of_below
          (show (t.nodeAt (R ++ (y ++ [n]) ++ m :: rest)).isSome by rw [here, found]; rfl)
      -- the per-path test admits the directory, since it admits the file below it
      have admittedN : Exclusion.isIgnoredPath R.text (Exclusion.resolveIgnoredDirs R.text ignoredDirs)
          (R ++ (y ++ [n])).text = false := by
        rw [Bool.eq_false_iff]
        intro out
        have below := isIgnoredPath_append (x := m :: rest) (by rw [here]; exact proper) _ out
        rw [here, admitted] at below
        cases below
      refine ⟨isDir, ⟨by simpa using verdicts 1 (by omega) (by omega), admittedN⟩, ⟨b, found⟩,
        candidate, admitted, fun j pos le => ?_⟩
      rw [← further j]
      simpa using verdicts (j + 1) (by omega) (by omega)

end Keeps

/-! ## A project that only its root's `.gitignore` steers -/

section Project

variable {t : FileTree} {R : Location}

theorem Files.FileTree.RuleFilesAmong.mono {allowed more : List Location} (only : t.RuleFilesAmong allowed)
    (sub : ∀ L ∈ allowed, L ∈ more) : t.RuleFilesAmong more :=
  fun L rule notMore => only L rule fun inAllowed => notMore (sub L inAllowed)

/-- The rules of the root's `.gitignore`, as the walk reads them. -/
def rootGitignore (t : FileTree) (R : Location) : RuleFile :=
  (DirRules.read t R.text).gitignore

/-- Every directory other than the root is silent when the root's `.gitignore` is the only
ignore file of a tree without links. -/
theorem read_silent_of_ne (noLinks : t.NoLinks) (only : t.RuleFilesAmong [R ++ [".gitignore"]])
    {X : Location} (proper : X.Proper) (other : X ≠ R) : (DirRules.read t X.text).Silent :=
  DirRules.read_silent noLinks only proper fun _ isRule atRoot =>
    ruleFile_ne_rootGitignore isRule other (List.mem_singleton.mp atRoot)

theorem quietLevels_root (noLinks : t.NoLinks) (only : t.RuleFilesAmong [R ++ [".gitignore"]])
    (proper : R.Proper) :
    QuietLevels (rootGitignore t R) [DirRules.read t R.text] := by
  intro l inLevels
  rw [List.mem_singleton] at inLevels
  subst inLevels
  have notIgnore : R ++ [".ignore"] ∉ [R ++ [".gitignore"]] := by simp
  have notExclude : R ++ [".git", "info", "exclude"] ∉ [R ++ [".gitignore"]] := by simp
  rw [DirRules.read_text]
  exact ⟨readRuleFile_rules_nil noLinks only proper (by simp [ruleFileNames]) notIgnore,
    readRuleFile_rules_nil noLinks only proper (by simp [ruleFileNames]) notExclude, .inr rfl⟩

/-- The directories above the root of a project are silent. -/
theorem above_silent (noLinks : t.NoLinks) (only : t.RuleFilesAmong [R ++ [".gitignore"]])
    (proper : R.Proper) (ignoredDirs : List String) : ∀ l ∈ (WalkContext.atRoot t R ignoredDirs).above, l.Silent := by
  intro l listed
  simp only [WalkContext.atRoot, List.mem_map] at listed
  obtain ⟨a, isAncestor, rfl⟩ := listed
  obtain ⟨k, shorter, rfl⟩ := mem_ancestors_text proper isAncestor
  refine read_silent_of_ne noLinks only (proper.take k) fun same => ?_
  have := congrArg List.length same
  simp at this
  omega

/-- The walk of a project that only its root's `.gitignore` steers keeps a file exactly when it is
a candidate file that the per-path test admits and that the `.gitignore` ignores neither it nor a
directory on the way to it. -/
theorem keeps_iff_rootRules (noLinks : t.NoLinks) (only : t.RuleFilesAmong [R ++ [".gitignore"]])
    {rel : Location} (proper : (R ++ rel).Proper) (ignoredDirs : List String) :
    (WalkContext.atRoot t R ignoredDirs).Keeps [DirRules.read t R.text] R rel ↔
      rel ≠ [] ∧ (∃ b, t.nodeAt (R ++ rel) = some (.file b)) ∧
      Script.isCandidate (R ++ rel).text = true ∧
      Exclusion.isIgnoredPath R.text (Exclusion.resolveIgnoredDirs R.text ignoredDirs)
        (R ++ rel).text = false ∧
      ∀ j, 0 < j → j ≤ rel.length →
        (rootGitignore t R).verdict (R ++ rel.take j).text (decide (j < rel.length)) ≠ .ignored := by
  have properR : R.Proper := proper.of_append_left
  have quiet := keeps_iff_quiet (above_silent noLinks only properR ignoredDirs) [] rel
    (quietLevels_root noLinks only properR) ⟨_, List.mem_singleton_self _, rfl⟩
    (fun x nonempty properX =>
      read_silent_of_ne noLinks only properX fun same => nonempty (by simpa using same))
    (by simpa using proper)
  simpa using quiet

/-- With no ignore file at all, the walk of a project whose root is a directory collects exactly
the candidate files below the root that the per-path test admits; a root that is a file is
collected alone when it is a candidate, whatever the per-path test says of it. -/
theorem collectFiles_unignored_files {root : String} (wf : t.WellFormed)
    (resolved : t.resolve root = .ok R) (noRules : t.RuleFilesAmong []) (ignoredDirs : List String) :
    (t.nodeAt R = some .dir → ∃ files, collectFiles t root ignoredDirs = .ok files ∧
      ∀ f, f ∈ files ↔ ∃ rel, rel ≠ [] ∧ f = (R ++ rel).text ∧
        (∃ b, t.nodeAt (R ++ rel) = some (.file b)) ∧ Script.isCandidate f = true ∧
        Exclusion.isIgnoredPath R.text (Exclusion.resolveIgnoredDirs R.text ignoredDirs) f = false) ∧
    (∀ b, t.nodeAt R = some (.file b) →
      collectFiles t root ignoredDirs = .ok (if Script.isCandidate R.text then [R.text] else [])) := by
  have only : t.RuleFilesAmong [R ++ [".gitignore"]] := noRules.mono fun L listed => by cases listed
  refine ⟨fun isDir => ?_, fun b isFile => ?_⟩
  · obtain ⟨cs, atR⟩ := FileTree.nodeAt_eq_some_dir.mp isDir
    have properR : R.Proper := wf.proper (by simp [atR])
    -- without a `.gitignore` at the root, its verdicts are all unmatched
    have unmatched : ∀ path isDir, (rootGitignore t R).verdict path isDir = .unmatched := by
      intro path isDir
      refine RuleFile.verdict_of_rules_nil ?_ path isDir
      rw [rootGitignore, DirRules.read_text]
      exact readRuleFile_rules_nil wf.noLinks noRules properR (by simp [ruleFileNames]) (by simp)
    obtain ⟨files, collected, members⟩ : ∃ files, collectFiles t root ignoredDirs = .ok files ∧ _ :=
      mem_collectFiles_iff wf resolved isDir
    refine ⟨files, collected, fun f => ?_⟩
    rw [members f]
    constructor
    · rintro ⟨rel, rfl, keeps⟩
      obtain ⟨nonempty, found, candidate, admitted, -⟩ :=
        (keeps_iff_rootRules wf.noLinks only (keeps.proper wf) ignoredDirs).mp keeps
      exact ⟨rel, nonempty, rfl, found, candidate, admitted⟩
    · rintro ⟨rel, nonempty, rfl, ⟨b, found⟩, candidate, admitted⟩
      have proper : (R ++ rel).Proper :=
        wf.proper (by simp [FileTree.nodeAt_eq_some_file.mp found])
      refine ⟨rel, rfl, (keeps_iff_rootRules wf.noLinks only proper ignoredDirs).mpr
        ⟨nonempty, ⟨b, found⟩, candidate, admitted, fun j _ _ => ?_⟩⟩
      rw [unmatched]
      decide
  · have found := FileTree.nodeAt_eq_some_file.mp isFile
    have proper : R.Proper := wf.proper (by simp [found])
    have canonical : t.canonicalize root = .ok R.text := by
      simp [FileTree.canonicalize, resolved, Except.map]
    simp only [collectFiles, canonical, FileTree.entry?_text wf.noLinks proper, found]

/-- A project with a script at its root, one in a configured directory `lib` and one in
`node_modules`. -/
def plainTree : FileTree :=
  ⟨[("r", .dir [("a.ts", .file "".toUTF8), ("lib", .dir [("b.ts", .file "".toUTF8)]),
    ("node_modules", .dir [("c.ts", .file "".toUTF8)])])], []⟩

theorem collectFiles_unignored_files_plainTree :
    plainTree.WellFormed ∧ plainTree.resolve "/r" = .ok ["r"] ∧ plainTree.RuleFilesAmong [] ∧
      (plainTree.nodeAt ["r"] = some .dir → ∃ files, collectFiles plainTree "/r" ["lib"] = .ok files ∧
        ∀ f, f ∈ files ↔ ∃ rel, rel ≠ [] ∧ f = Location.text (["r"] ++ rel) ∧
          (∃ b, plainTree.nodeAt (["r"] ++ rel) = some (.file b)) ∧ Script.isCandidate f = true ∧
          Exclusion.isIgnoredPath (Location.text ["r"])
            (Exclusion.resolveIgnoredDirs (Location.text ["r"]) ["lib"]) f = false) ∧
      (∀ b, plainTree.nodeAt ["r"] = some (.file b) →
        collectFiles plainTree "/r" ["lib"] =
          .ok (if Script.isCandidate (Location.text ["r"]) then [Location.text ["r"]] else [])) := by
  have wf : plainTree.WellFormed := FileTree.WellFormed.of_isWellFormed (by decide)
  have resolved : plainTree.resolve "/r" = .ok ["r"] := by
    have text : Location.text ["r"] = "/r" := by decide
    rw [← text]
    exact FileTree.resolve_text wf.noLinks (by decide) rfl
  have noRules : plainTree.RuleFilesAmong [] := FileTree.ruleFilesAmong_of_fileLocations (by decide)
  exact ⟨wf, resolved, noRules, collectFiles_unignored_files wf resolved noRules ["lib"]⟩

/-- A computation whose result as an option is `some a` succeeded with `a`; on a fixed project the
option form is what evaluation decides, failures having no decidable equality. -/
theorem Except.eq_ok_of_toOption {ε α : Type} {x : Except ε α} {a : α} (h : x.toOption = some a) :
    x = .ok a := by
  cases x with
  | error e => cases h
  | ok b => cases h; rfl

/-- A project whose root `r` holds one script, which imports keyword `k`. -/
def fileRootTree : FileTree :=
  ⟨[("r", .dir [("a.ts", .file "import { k } from 'virtual:keywords';\n".toUTF8)])], []⟩

/-- The walk does not test its own root: a root that is a candidate file is collected even when
the per-path test leaves it out, here as the configured directory `.` of the root. -/
theorem collectFiles_file_root_ignored :
    fileRootTree.WellFormed ∧ fileRootTree.RuleFilesAmong [] ∧
      collectFiles fileRootTree "/r/a.ts" ["."] = .ok ["/r/a.ts"] ∧
      Exclusion.isIgnoredPath "/r/a.ts" (Exclusion.resolveIgnoredDirs "/r/a.ts" ["."]) "/r/a.ts" =
        true := by
  have wf : fileRootTree.WellFormed := FileTree.WellFormed.of_isWellFormed (by decide)
  have collected : (collectFiles fileRootTree "/r/a.ts" ["."]).toOption = some ["/r/a.ts"] := by
    decide +kernel
  exact ⟨wf, FileTree.ruleFilesAmong_of_fileLocations (by decide), Except.eq_ok_of_toOption collected,
    by decide +kernel⟩

end Project

end KeyIntern
