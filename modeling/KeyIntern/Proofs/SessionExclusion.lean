import KeyIntern.Proofs.RootIgnoreWalk

/-! # What a session leaves out, against what the walk collects

A session decides whether to take in a changed file with the per-path test and the root's
`.gitignore` alone, read once when it starts, while the walk reads the ignore files of every
directory on the way. Where the root's `.gitignore` is the only ignore file, the two read it in
two different ways. The session lets the nearest verdict among the file and the directories above
it decide, so a rule that allows a file speaks over a rule that ignores a directory above it,
where the walk never enters that directory. And the session also asks about the root itself, as
the empty path, which the walk never tests.

So a file that the walk collects is taken in unless the `.gitignore` ignores the empty path, and a
file that the walk passes over is left out when the `.gitignore` allows nothing
(`isExcluded_agrees_with_collectFiles`). With an ignore file below the root neither holds:
`nested_ignore_not_excluded` is a file that the `.gitignore` beside it ignores and that the
session takes in.
-/

namespace KeyIntern

open Files Ignore

/-! ## Verdicts -/

namespace Ignore.Verdict

theorem orElse_of_ne_unmatched {a : Verdict} (speaks : a ≠ .unmatched) (b : Verdict) :
    a.orElse b = a := by
  cases a with
  | unmatched => exact absurd rfl speaks
  | ignored => rfl
  | allowed => rfl

/-- A verdict taken from two is one of them. -/
theorem orElse_eq_or (a b : Verdict) : a.orElse b = a ∨ a.orElse b = b := by
  cases a <;> simp [Verdict.orElse]

end Ignore.Verdict

/-! ## Names joined by `/` -/

namespace Files.Location

theorem toList_text_append {R x : Location} (nonempty : x ≠ []) :
    (R ++ x).text.toList =
      (if R = [] then [] else R.text.toList) ++ '/' :: ("/".intercalate x).toList := by
  by_cases root : R = []
  · subst root
    simp [Location.text]
  · simp [Location.text, root, String.intercalate_append_of_ne_nil root nonempty]

theorem text_startsWith_dot (l : Location) : l.text.startsWith "./" = false := by
  rw [String.startsWith_string_eq_false_iff, Location.toList_text]
  simp

end Files.Location

namespace Path

/-- The components of names joined by `/` are the names. -/
theorem components_intercalate {x : Location} (names : x.Proper) :
    Path.components ("/".intercalate x) = x.map .normal := by
  cases x with
  | nil => rfl
  | cons n rest =>
    have noSlash : ∀ piece ∈ (n :: rest).map String.toList, '/' ∉ piece := by
      simp only [List.mem_map]
      rintro _ ⟨m, inX, rfl⟩
      exact (names m inX).no_slash
    have pieces :
        Path.segments ("/".intercalate (n :: rest)).toList = (n :: rest).map String.toList := by
      rw [Path.segments_eq_splitOn, String.toList_intercalate, show "/".toList = ['/'] from rfl,
        List.splitOn_intercalate '/' noSlash (by simp)]
    have first : ProperName n := names n (by simp)
    unfold Path.components
    rw [Path.isAbsolute_intercalate names (List.cons_ne_nil n rest), pieces,
      if_neg Bool.false_ne_true]
    -- a relative path opens with `.` only when its first name is `.`
    split
    · rename_i r dot
      exact absurd (List.cons.inj dot).1 first.not_current
    · exact Path.segmentComponents_names names

theorem ofComponents_normal (x : Location) :
    Path.ofComponents (x.map .normal) = "/".intercalate x := by
  cases x with
  | nil => rfl
  | cons n rest => simp [Path.ofComponents, Function.comp_def, Path.ofComponents.componentText]

end Path

/-! ## An ignore file's view of the places below its directory -/

namespace Ignore.RuleFile

variable {f : RuleFile} {R x rel : Location}

/-- An ignore file sees a place below its directory by the names that lead to it. -/
theorem relative_text (root : f.root = R.text) (names : x.Proper) (nonempty : x ≠ []) :
    f.relative (R ++ x).text = "/".intercalate x := by
  have relHead : ("/".intercalate x).toList.head? ≠ some '/' := by
    have relative := Path.isAbsolute_intercalate names nonempty
    simpa [Path.isAbsolute] using relative
  have whole := Location.toList_text_append (R := R) nonempty
  have notDot : (R.text != ".") = true := by
    rw [bne_iff_ne]
    intro dot
    have chars := congrArg String.toList dot
    simp [Location.toList_text] at chars
  have slash : (R ++ x).text.toList.contains '/' = true := by
    simp [Location.toList_text]
  have below : (R ++ x).text.startsWith R.text = true := by
    rw [String.startsWith_string_iff, whole]
    split
    · rename_i atTop
      subst atTop
      simp
    · exact List.prefix_append _ _
  -- what is left once the directory is cut off: a `/` first unless the directory is the root
  have rest : ((R ++ x).text.drop R.text.length).toString.toList =
      (if R = [] then [] else ['/']) ++ ("/".intercalate x).toList := by
    rw [String.Slice.toString_eq, String.toList_copy_drop, whole, ← String.length_toList]
    by_cases atTop : R = []
    · subst atTop
      simp
    · simp [atTop]
  unfold RuleFile.relative
  rw [root]
  simp only [Location.text_startsWith_dot, Bool.false_eq_true, if_false, notDot, slash,
    Bool.true_and]
  -- the pattern of a prefix test is a dependent argument, which `simp` does not rewrite
  rw [Location.text_startsWith_dot R, if_neg Bool.false_ne_true, if_pos below]
  by_cases atTop : R = []
  · have noSlash : ((R ++ x).text.drop R.text.length).toString.startsWith "/" = false := by
      rw [String.startsWith_string_eq_false_iff, rest, if_pos atTop, List.nil_append]
      intro slashFirst
      cases chars : ("/".intercalate x).toList with
      | nil => simp [chars] at slashFirst
      | cons c cs =>
        rw [chars] at slashFirst relHead
        have same : '/' = c := by simpa using slashFirst
        exact relHead (by rw [same]; rfl)
    rw [noSlash, if_neg Bool.false_ne_true, ← String.toList_inj, rest, if_pos atTop,
      List.nil_append]
  · have slashFirst : ((R ++ x).text.drop R.text.length).toString.startsWith "/" = true := by
      rw [String.startsWith_string_iff, rest, if_neg atTop]
      simp
    rw [if_pos slashFirst, ← String.toList_inj, String.Slice.toString_eq, String.toList_copy_drop,
      ← String.Slice.toString_eq, rest, if_neg atTop]
    simp

theorem verdictRelative_of_rules_nil (none : f.rules = []) (path : String) (isDir : Bool) :
    f.verdictRelative path isDir = .unmatched := by
  simp [verdictRelative, none]

/-- An ignore file without allowing rules never allows. -/
theorem verdictRelative_ne_allowed (noAllow : ∀ r ∈ f.rules, r.allows = false) (path : String)
    (isDir : Bool) : f.verdictRelative path isDir ≠ .allowed := by
  unfold verdictRelative
  split
  · rename_i r found
    have listed : r ∈ f.rules := List.mem_reverse.mp (List.mem_of_find?_eq_some found)
    simp [noAllow r listed]
  · simp

/-- The verdict on a place below the file's directory is the verdict on the names leading to it. -/
theorem verdict_text (root : f.root = R.text) (names : x.Proper) (nonempty : x ≠ [])
    (isDir : Bool) : f.verdict (R ++ x).text isDir = f.verdictRelative ("/".intercalate x) isDir := by
  unfold verdict
  split
  · rename_i none
    rw [verdictRelative_of_rules_nil (List.isEmpty_iff.mp none)]
  · rw [relative_text root names nonempty]

/-- The verdict with parents on a place below the file's directory: the verdict on its names, or
else the nearest verdict on the directories above it, down to the empty path. -/
theorem verdictWithParents_text (root : f.root = R.text) (names : rel.Proper) (nonempty : rel ≠ [])
    (isDir : Bool) :
    f.verdictWithParents (R ++ rel).text isDir =
      (f.verdictRelative ("/".intercalate rel) isDir).orElse
        (Verdict.first ((List.range rel.length).reverse.map fun k =>
          f.verdictRelative ("/".intercalate (rel.take k)) true)) := by
  unfold verdictWithParents
  split
  · rename_i none
    have silent := verdictRelative_of_rules_nil (f := f) (List.isEmpty_iff.mp none)
    rw [silent, Verdict.orElse_unmatched, Verdict.first_eq_unmatched]
    intro w listed
    obtain ⟨k, -, rfl⟩ := List.mem_map.mp listed
    exact silent _ _
  · simp only [relative_text root names nonempty, Path.components_intercalate names,
      List.length_map, ← List.map_take, Path.ofComponents_normal, List.map_map, Function.comp_def]

/-- The session's reading of a file below the root keeps every file the walk's reading keeps,
unless the empty path is ignored. -/
theorem verdictWithParents_ne_ignored (root : f.root = R.text) (names : rel.Proper)
    (nonempty : rel ≠ [])
    (onTheWay : ∀ j, 0 < j → j ≤ rel.length →
      f.verdict (R ++ rel.take j).text (decide (j < rel.length)) ≠ .ignored)
    (atRoot : f.verdictRelative "" true ≠ .ignored) :
    f.verdictWithParents (R ++ rel).text false ≠ .ignored := by
  have seen : ∀ j, 0 < j → j ≤ rel.length →
      f.verdictRelative ("/".intercalate (rel.take j)) (decide (j < rel.length)) ≠ .ignored := by
    intro j pos le
    rw [← verdict_text root (names.take j) (by simp [List.take_eq_nil_iff, nonempty]; omega)]
    exact onTheWay j pos le
  have pos : 0 < rel.length := List.length_pos_iff.mpr nonempty
  rw [verdictWithParents_text root names nonempty]
  intro ignored
  rcases Verdict.orElse_eq_or (f.verdictRelative ("/".intercalate rel) false) _ with same | same <;>
    rw [same] at ignored
  · -- the file itself
    have onFile := seen rel.length pos (Nat.le_refl _)
    simp only [List.take_length, Nat.lt_irrefl, decide_false] at onFile
    exact onFile ignored
  · -- a directory above it: one the walk entered, or the root itself
    obtain ⟨k, inRange, verdict⟩ := List.mem_map.mp (Verdict.mem_of_first_eq ignored (by decide))
    rw [List.mem_reverse, List.mem_range] at inRange
    rcases Nat.eq_zero_or_pos k with rfl | kPos
    · exact atRoot (by simpa using verdict)
    · have onDir := seen k kPos (Nat.le_of_lt inRange)
      rw [decide_eq_true inRange] at onDir
      exact onDir verdict

/-- Without allowing rules, the session's reading of a file ignores every file whose way the
walk's reading ignores. -/
theorem verdictWithParents_eq_ignored (root : f.root = R.text) (names : rel.Proper)
    (nonempty : rel ≠ []) (noAllow : ∀ r ∈ f.rules, r.allows = false) {j : Nat} (pos : 0 < j)
    (le : j ≤ rel.length)
    (onTheWay : f.verdict (R ++ rel.take j).text (decide (j < rel.length)) = .ignored) :
    f.verdictWithParents (R ++ rel).text false = .ignored := by
  rw [verdict_text root (names.take j) (by simp [List.take_eq_nil_iff, nonempty]; omega)] at onTheWay
  rw [verdictWithParents_text root names nonempty]
  rcases Nat.lt_or_ge j rel.length with above | atFile
  · -- a directory above the file is ignored, and nothing nearer allows
    rw [decide_eq_true above] at onTheWay
    have listed : Verdict.ignored ∈ (List.range rel.length).reverse.map fun k =>
        f.verdictRelative ("/".intercalate (rel.take k)) true :=
      List.mem_map.mpr ⟨j, by simpa using above, onTheWay⟩
    have noAllowed : Verdict.allowed ∉ (List.range rel.length).reverse.map fun k =>
        f.verdictRelative ("/".intercalate (rel.take k)) true := by
      intro allowed
      obtain ⟨k, -, allows⟩ := List.mem_map.mp allowed
      exact verdictRelative_ne_allowed noAllow _ _ allows
    rw [Verdict.first_eq_ignored noAllowed listed]
    cases onFile : f.verdictRelative ("/".intercalate rel) false with
    | unmatched => rfl
    | ignored => rfl
    | allowed => exact absurd onFile (verdictRelative_ne_allowed noAllow _ _)
  · -- the file itself is ignored
    obtain rfl : j = rel.length := by omega
    simp only [List.take_length, Nat.lt_irrefl, decide_false] at onTheWay
    rw [onTheWay]
    rfl

end Ignore.RuleFile

/-! ## What a session compares -/

namespace Session

variable {t fs : FileTree} {root c : String} {config : Config} {ignoredDirs : List String}
  {dev : Bool}

theorem readRuleFile_root (t : FileTree) (dir name : String) : (readRuleFile t dir name).root = dir := by
  unfold readRuleFile
  split <;> rfl

/-- A session reads its root's `.gitignore` as the walk does. -/
theorem rootRules_start (canonical : t.canonicalize root = .ok c) :
    (start t root config ignoredDirs dev).rootRules = readRuleFile t c ".gitignore" := by
  simp only [start, canonical, readRuleFile, FileTree.isFile, FileTree.readBytes]
  cases entry : t.entry? (Path.join c ".gitignore") with
  | none =>
    simp only [Bool.false_eq_true, if_false]
    cases t.resolve (Path.join c ".gitignore") <;> rfl
  | some e =>
    cases e with
    | file b => rfl
    | dir cs => rfl
    | link target =>
      -- the entry a path leads to is never a link; the session and the walk both read nothing
      simp only [Bool.false_eq_true, if_false]
      cases t.resolve (Path.join c ".gitignore") <;> rfl

/-- A session started at a root that resolves leaves a path out when the per-path test does, or
when the root's `.gitignore` ignores the path or, failing a verdict on it, a directory above it. -/
theorem isExcluded_start (canonical : t.canonicalize root = .ok c) (path : String) :
    (start t root config ignoredDirs dev).isExcluded fs path =
      (Exclusion.isIgnoredPath c (Exclusion.resolveIgnoredDirsIn t c ignoredDirs)
          (comparedPath fs path) ||
        (readRuleFile t c ".gitignore").verdictWithParents (comparedPath fs path) false ==
          .ignored) := by
  rw [isExcluded, rootRules_start canonical]
  simp only [start, canonical]

end Session

/-! ## The session against the walk -/

section Agreement

variable {t : FileTree} {root : String} {R : Location}

/-- In a project whose only ignore file is the root's `.gitignore`, a session takes in a file that
the walk collects, unless the `.gitignore` ignores the empty path; and it leaves out a file that
the walk passes over, when the `.gitignore` has no allowing rule. -/
theorem isExcluded_agrees_with_collectFiles (wf : t.WellFormed) (resolved : t.resolve root = .ok R)
    (isDir : t.nodeAt R = some .dir) (only : t.RuleFilesAmong [R ++ [".gitignore"]])
    (config : Config) (ignoredDirs : List String) (dev : Bool) :
    ∃ files, collectFiles t root ignoredDirs = .ok files ∧
      ∀ rel, rel ≠ [] → (∃ b, t.nodeAt (R ++ rel) = some (.file b)) →
        Script.isCandidate (R ++ rel).text = true →
        ((R ++ rel).text ∈ files → (rootGitignore t R).verdictRelative "" true ≠ .ignored →
          (Session.start t root config ignoredDirs dev).isExcluded t (R ++ rel).text = false) ∧
        ((R ++ rel).text ∉ files → (∀ r ∈ (rootGitignore t R).rules, r.allows = false) →
          (Session.start t root config ignoredDirs dev).isExcluded t (R ++ rel).text = true) := by
  obtain ⟨files, collected, members⟩ : ∃ files, collectFiles t root ignoredDirs = .ok files ∧ _ :=
    mem_collectFiles_iff wf resolved isDir
  refine ⟨files, collected, fun rel nonempty found candidate => ?_⟩
  obtain ⟨b, atFile⟩ := found
  have proper : (R ++ rel).Proper := wf.proper (by simp [FileTree.nodeAt_eq_some_file.mp atFile])
  have names : Location.Proper rel := fun n inRel => proper n (List.mem_append_right R inRel)
  have canonical : t.canonicalize root = .ok R.text := by
    simp [FileTree.canonicalize, resolved, Except.map]
  have rulesRoot : (rootGitignore t R).root = R.text := Session.readRuleFile_root t _ _
  -- the session weighs the file's own text, with the rules the walk reads at the root
  have excluded : (Session.start t root config ignoredDirs dev).isExcluded t (R ++ rel).text =
      (Exclusion.isIgnoredPath R.text (Exclusion.resolveIgnoredDirs R.text ignoredDirs)
          (R ++ rel).text ||
        (rootGitignore t R).verdictWithParents (R ++ rel).text false == .ignored) := by
    rw [Session.isExcluded_start canonical, Session.comparedPath_text wf.noLinks proper,
      Exclusion.resolveIgnoredDirsIn_eq wf.noLinks (Location.isAbsolute_text R)]
    rfl
  -- and the walk keeps it by the same two tests, the second asked of every directory on the way
  have kept : (R ++ rel).text ∈ files ↔
      (WalkContext.atRoot t R ignoredDirs).Keeps [DirRules.read t R.text] R rel := by
    rw [members]
    constructor
    · rintro ⟨rel', same, keeps⟩
      have sameRel : rel' = rel :=
        List.append_cancel_left (Location.text_inj (keeps.proper wf) proper same.symm)
      rwa [sameRel] at keeps
    · exact fun keeps => ⟨rel, rfl, keeps⟩
  rw [kept, keeps_iff_rootRules wf.noLinks only proper ignoredDirs, excluded]
  constructor
  · rintro ⟨-, -, -, admitted, onTheWay⟩ atRoot
    rw [admitted, Bool.false_or, beq_eq_false_iff_ne]
    exact RuleFile.verdictWithParents_ne_ignored rulesRoot names nonempty onTheWay atRoot
  · intro passed noAllow
    rw [Bool.or_eq_true, beq_iff_eq]
    by_cases admitted : Exclusion.isIgnoredPath R.text (Exclusion.resolveIgnoredDirs R.text ignoredDirs)
        (R ++ rel).text = true
    · exact .inl admitted
    · -- the walk left out the file or a directory on the way to it
      have ignoredOnTheWay : ∃ j, 0 < j ∧ j ≤ rel.length ∧
          (rootGitignore t R).verdict (R ++ rel.take j).text (decide (j < rel.length)) = .ignored := by
        apply Classical.byContradiction
        intro none
        exact passed ⟨nonempty, ⟨b, atFile⟩, candidate, by simpa using admitted,
          fun j pos le ignored => none ⟨j, pos, le, ignored⟩⟩
      obtain ⟨j, pos, le, ignored⟩ := ignoredOnTheWay
      exact .inr (RuleFile.verdictWithParents_eq_ignored rulesRoot names nonempty noAllow pos le
        ignored)

/-- A project whose root `.gitignore` ignores the directory `gen`. -/
def genIgnoredTree : FileTree :=
  ⟨[("r", .dir [(".gitignore", .file "gen/\n".toUTF8), ("a.ts", .file "".toUTF8),
    ("gen", .dir [("b.ts", .file "".toUTF8)])])], []⟩

theorem isExcluded_agrees_with_collectFiles_genIgnored :
    genIgnoredTree.WellFormed ∧ genIgnoredTree.resolve "/r" = .ok ["r"] ∧
      genIgnoredTree.nodeAt ["r"] = some .dir ∧
      genIgnoredTree.RuleFilesAmong [["r"] ++ [".gitignore"]] ∧
      (rootGitignore genIgnoredTree ["r"]).verdictRelative "" true ≠ .ignored ∧
      (∀ r ∈ (rootGitignore genIgnoredTree ["r"]).rules, r.allows = false) ∧
      ∃ files, collectFiles genIgnoredTree "/r" [] = .ok files ∧
        ∀ rel, rel ≠ [] → (∃ b, genIgnoredTree.nodeAt (["r"] ++ rel) = some (.file b)) →
          Script.isCandidate (Location.text (["r"] ++ rel)) = true →
          (Location.text (["r"] ++ rel) ∈ files →
            (rootGitignore genIgnoredTree ["r"]).verdictRelative "" true ≠ .ignored →
            (Session.start genIgnoredTree "/r" {} [] false).isExcluded genIgnoredTree
              (Location.text (["r"] ++ rel)) = false) ∧
          (Location.text (["r"] ++ rel) ∉ files →
            (∀ r ∈ (rootGitignore genIgnoredTree ["r"]).rules, r.allows = false) →
            (Session.start genIgnoredTree "/r" {} [] false).isExcluded genIgnoredTree
              (Location.text (["r"] ++ rel)) = true) := by
  have wf : genIgnoredTree.WellFormed := FileTree.WellFormed.of_isWellFormed (by decide)
  have resolved : genIgnoredTree.resolve "/r" = .ok ["r"] := by
    have text : Location.text ["r"] = "/r" := by decide
    rw [← text]
    exact FileTree.resolve_text wf.noLinks (by decide) rfl
  have isDir : genIgnoredTree.nodeAt ["r"] = some .dir := rfl
  have only : genIgnoredTree.RuleFilesAmong [["r"] ++ [".gitignore"]] :=
    FileTree.ruleFilesAmong_of_fileLocations (by decide)
  have rules : (rootGitignore genIgnoredTree ["r"]).verdictRelative "" true ≠ .ignored ∧
      ∀ r ∈ (rootGitignore genIgnoredTree ["r"]).rules, r.allows = false := by
    decide +kernel
  exact ⟨wf, resolved, isDir, only, rules.1, rules.2,
    isExcluded_agrees_with_collectFiles wf resolved isDir only {} [] false⟩

/-- A `.gitignore` rule for every directory also matches the empty path, so the session leaves out
a file at the root that the walk collects. -/
example :
    let t : FileTree := ⟨[("r", .dir [(".gitignore", .file "*/\n".toUTF8), ("a.ts", .file "".toUTF8)])], []⟩
    (collectFiles t "/r" []).toOption = some ["/r/a.ts"] ∧
      (Session.start t "/r" {} [] false).isExcluded t "/r/a.ts" = true := by
  decide +kernel

/-- A project whose directory `sub` holds a `.gitignore` that ignores `b.ts` beside it. -/
def nestedIgnoreTree : FileTree :=
  ⟨[("r", .dir [("sub", .dir [(".gitignore", .file "b.ts\n".toUTF8),
    ("b.ts", .file "export {};\n".toUTF8)])])], []⟩

/-- The session reads no ignore file below the root: it takes in a candidate file that the
`.gitignore` beside it ignores, and that the walk therefore passes over. -/
theorem nested_ignore_not_excluded :
    Script.isCandidate "/r/sub/b.ts" = true ∧ collectFiles nestedIgnoreTree "/r" [] = .ok [] ∧
      (Session.start nestedIgnoreTree "/r" {} [] false).isExcluded nestedIgnoreTree "/r/sub/b.ts" =
        false := by
  have collected : (collectFiles nestedIgnoreTree "/r" []).toOption = some [] := by
    decide +kernel
  exact ⟨by decide +kernel, Except.eq_ok_of_toOption collected, by decide +kernel⟩

end Agreement

end KeyIntern
