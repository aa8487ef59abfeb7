import KeyIntern.Proofs.Aggregation
import KeyIntern.Proofs.SessionCoverage

/-! # Generating the declarations a second time

Generating the declarations of a project without links twice in a row gives the same answer and
leaves the same tree as generating them once. Two things make this so.

The declaration file is written into `.keywords` below the root, which the walk never enters, and
a change at one place that is no ignore file leaves every verdict of the walk as it was. So the
second scan collects the files the first one did, reads each the same, and finds the same
keywords, whatever order its tasks run in.

Writing the file of a keyword set again changes nothing: the directories it makes are there, so
making them again succeeds without a change, and putting the same bytes into the file it wrote
gives back the tree it left. A write that failed fails the same way again, in the tree it left.

Main statement: `generateTypes_idempotent`. A link breaks it: with `.keywords` a link to a
directory the walk does enter, the declaration file is written over a file the scan reads
(`generateTypes_through_linked_artifact`).
-/

namespace KeyIntern

open Files

namespace Files

/-! ## Putting an entry twice -/

theorem eq_of_mem_setChild {n : String} {e : Entry} {cs : List (String × Entry)}
    {p : String × Entry} (mem : p ∈ setChild n e cs) (named : p.1 = n) : p = (n, e) := by
  unfold setChild at mem
  split at mem
  · obtain ⟨q, -, rfl⟩ := List.mem_map.mp mem
    split
    · rfl
    · rename_i other
      simp only [other, if_false] at named
  · rename_i absent
    rcases List.mem_append.mp mem with inCs | isNew
    · exact absurd (List.any_eq_true.mpr ⟨p, inCs, by simp [named]⟩) absent
    · simpa using isNew

theorem any_setChild (n : String) (e : Entry) (cs : List (String × Entry)) :
    (setChild n e cs).any (·.1 == n) = true := by
  unfold setChild
  split
  · rename_i present
    obtain ⟨p, inCs, named⟩ := List.any_eq_true.mp present
    refine List.any_eq_true.mpr ⟨(n, e), List.mem_map.mpr ⟨p, inCs, ?_⟩, by simp⟩
    simp only [beq_iff_eq] at named
    simp [named]
  · simp

theorem setChild_setChild (n : String) (e : Entry) (cs : List (String × Entry)) :
    setChild n e (setChild n e cs) = setChild n e cs := by
  have present := any_setChild n e cs
  have only : ∀ p ∈ setChild n e cs, p.1 = n → p = (n, e) := fun _ mem named =>
    eq_of_mem_setChild mem named
  generalize setChild n e cs = s at present only ⊢
  -- the name is there now, so the second put replaces the entries of that name by themselves
  unfold setChild
  rw [if_pos present]
  calc s.map (fun p => if p.1 = n then (n, e) else p)
      = s.map id := List.map_congr_left fun p mem => by
        by_cases named : p.1 = n
        · simp [only p mem named]
        · simp [named]
    _ = s := List.map_id _

theorem Entry.modifyDir_modifyDir (g g' : List (String × Entry) → List (String × Entry))
    (e : Entry) (P : Location) : (e.modifyDir g P).modifyDir g' P = e.modifyDir (g' ∘ g) P := by
  induction P generalizing e with
  | nil => cases e <;> rfl
  | cons n rest ih =>
    cases e with
    | file b => simp
    | link target => simp
    | dir cs =>
      -- only the entry named next is changed, by both changes in turn
      simp only [Entry.modifyDir_dir_cons, List.map_map, Entry.dir.injEq]
      apply List.map_congr_left
      intro p _
      by_cases named : p.1 = n <;> simp [named, ih]

namespace FileTree

variable {t t' t₁ t₂ : FileTree} {p : String} {l P : Location} {n : String}

theorem eq_of_root_eq {t t' : FileTree} (root : t.root = t'.root) (cwd : t.cwd = t'.cwd) :
    t = t' := by
  cases t
  cases t'
  simp only [FileTree.root, Entry.dir.injEq] at root
  simp_all

theorem modifyDir_modifyDir (t : FileTree) (P : Location)
    (g g' : List (String × Entry) → List (String × Entry)) :
    (t.modifyDir P g).modifyDir P g' = t.modifyDir P (g' ∘ g) :=
  eq_of_root_eq (by simp only [root_modifyDir, Entry.modifyDir_modifyDir]) (by simp)

/-! ## Making directories again -/

theorem isDir_eq_true_iff : t.isDir p = true ↔ ∃ l cs, t.resolve p = .ok l ∧ t.get? l = some (.dir cs) := by
  unfold isDir entry?
  cases t.resolve p with
  | error e => simp
  | ok l =>
    simp only [Except.ok.injEq]
    split <;> simp_all

/-- A text naming a directory still names it in a tree that keeps every directory, where neither
tree has links. -/
theorem isDir_of_dirs_kept (noLinks : t.NoLinks) (noLinks' : t'.NoLinks)
    (kept : ∀ x, t.nodeAt x = some .dir → t'.nodeAt x = some .dir)
    (cwd : t'.cwd = t.cwd) (isDir : t.isDir p = true) : t'.isDir p = true := by
  obtain ⟨l, cs, resolved, atL⟩ := isDir_eq_true_iff.mp isDir
  have dirL : t.nodeAt l = some .dir := nodeAt_eq_some_dir.mpr ⟨cs, atL⟩
  obtain ⟨cs', atL'⟩ := nodeAt_eq_some_dir.mp (kept l dirL)
  exact isDir_eq_true_iff.mpr
    ⟨l, cs', resolve_of_dirs_kept noLinks noLinks' kept cwd resolved dirL, atL'⟩

theorem parentAndName_of_follow {init : List Step} (notEmpty : p.isEmpty = false)
    (steps : (Route.ofText p).steps = init ++ [.down n])
    (walk : t.follow (t.start (Route.ofText p)) init = .ok P) :
    t.parentAndName p = .ok (P, some n) := by
  simp [parentAndName, notEmpty, steps, walk, Except.map]

/-- Where a text names something, its last name lies in the directory its route leads to, or the
text ends in a step that names a directory. -/
theorem parentAndName_of_resolve (noLinks : t.NoLinks) (resolved : t.resolve p = .ok l) :
    (∃ P n cs, t.parentAndName p = .ok (P, some n) ∧ t.get? P = some (.dir cs) ∧ l = P ++ [n]) ∨
      t.parentAndName p = .ok (l, none) := by
  obtain ⟨notEmpty, walk, -⟩ := follow_of_resolve resolved
  have noName : (∀ s, (Route.ofText p).steps.getLast? = some s → ∀ n, s ≠ .down n) →
      t.parentAndName p = .ok (l, none) := by
    intro notDown
    unfold parentAndName
    simp only [notEmpty, Bool.false_eq_true, if_false]
    split
    · rename_i n last
      exact absurd rfl (notDown _ last n)
    · simp [walk, Except.map]
  cases last : (Route.ofText p).steps.getLast? with
  | none => exact .inr (noName fun s none' => by simp [last] at none')
  | some s =>
    cases s with
    | down n =>
      -- the route walks to the parent, then one step down to the entry
      obtain ⟨init, steps⟩ := List.getLast?_eq_some_iff.mp last
      rw [steps] at walk
      obtain ⟨P, toP, down⟩ := (follow_append_eq_ok noLinks).mp walk
      obtain ⟨cs, atP, -, atL⟩ := (follow_cons_eq_ok noLinks).mp down
      rw [follow_nil, Except.ok.injEq] at atL
      exact .inl ⟨P, n, cs, parentAndName_of_follow notEmpty steps toP, atP, atL.symm⟩
    | stay => exact .inr (noName fun s same n => by simp_all)
    | up => exact .inr (noName fun s same n => by simp_all)

theorem parentAndName_of_dirs_kept (noLinks : t.NoLinks) (noLinks' : t'.NoLinks)
    (kept : ∀ x, t.nodeAt x = some .dir → t'.nodeAt x = some .dir)
    (cwd : t'.cwd = t.cwd) (named : t.parentAndName p = .ok (P, some n))
    (isDir : t.nodeAt P = some .dir) : t'.parentAndName p = .ok (P, some n) := by
  obtain ⟨notEmpty, init, steps, walk⟩ := parentAndName_eq_ok_some named
  have walk' := follow_of_dirs_kept noLinks noLinks' kept walk (by rw [kept P isDir]; rfl)
  exact parentAndName_of_follow notEmpty steps (by rwa [start_congr cwd rfl])

/-- A text whose last name lies in a directory, where an entry of that name is, leads to that
entry. -/
theorem follow_of_parentAndName (noLinks : t.NoLinks) (named : t.parentAndName p = .ok (P, some n))
    (isDir : t.nodeAt P = some .dir) (found : (t.get? (P ++ [n])).isSome) :
    t.follow (t.start (Route.ofText p)) (Route.ofText p).steps = .ok (P ++ [n]) := by
  obtain ⟨-, init, steps, walk⟩ := parentAndName_eq_ok_some named
  obtain ⟨cs, atP⟩ := nodeAt_eq_some_dir.mp isDir
  rw [steps, follow_append_eq_ok noLinks]
  exact ⟨P, walk, (follow_cons_eq_ok noLinks).mpr ⟨cs, atP, found, rfl⟩⟩

/-- Making a directory under a text that names something fails: the name is taken. -/
theorem makeDir_of_resolve (noLinks : t.NoLinks) (resolved : t.resolve p = .ok l) :
    t.makeDir p = .error .alreadyExists := by
  rcases parentAndName_of_resolve noLinks resolved with ⟨P, n, cs, named, atP, rfl⟩ | named
  · obtain ⟨-, -, found⟩ := follow_of_resolve resolved
    simp [makeDir, named, atP, found]
  · simp [makeDir, named]

theorem isDir_of_makeDir (noLinks : t.NoLinks) (h : t.makeDir p = .ok t') : t'.isDir p = true := by
  have grown := makeDir_grows h
  have noLinks' := grown.noLinks noLinks
  obtain ⟨P, n, named, isDir, -, rfl⟩ := makeDir_eq_ok h
  obtain ⟨notEmpty, -⟩ := parentAndName_eq_ok_some named
  have made : (t.modifyDir P (setChild n (.dir []))).nodeAt (P ++ [n]) = some .dir := by
    rw [nodeAt_setChild isDir (fun _ _ => rfl)]
    simp [Entry.node]
  obtain ⟨cs, atNew⟩ := nodeAt_eq_some_dir.mp made
  -- the route walks to the parent as before, then down to the new directory
  have named' := parentAndName_of_dirs_kept noLinks noLinks'
    (fun x wasDir => (grown.everywhere x).dir wasDir) grown.cwd named isDir
  have walk := follow_of_parentAndName noLinks' named' ((grown.everywhere P).dir isDir)
    (by simp [atNew])
  refine isDir_eq_true_iff.mpr ⟨P ++ [n], cs, ?_, atNew⟩
  simp [resolve, notEmpty, walk, atNew]

variable {c : Path.Component} {up : List Path.Component}

/-- Making a directory and the missing ones above it leaves the directory there. -/
theorem makeDirsRev_isDir (noLinks : t.NoLinks) (h : t.makeDirsRev (c :: up) = .ok t') :
    t'.isDir (Path.ofComponents (c :: up).reverse) = true := by
  simp only [makeDirsRev] at h
  split at h
  · rename_i made
    cases h
    exact isDir_of_makeDir noLinks made
  · split at h
    · cases h
    · -- the directories above were made first, and made no link
      rename_i t₁ parents
      have noLinks₁ := (makeDirsRev_grows parents).noLinks noLinks
      split at h
      · rename_i made
        cases h
        exact isDir_of_makeDir noLinks₁ made
      · split at h
        · rename_i isDir
          cases h
          exact isDir
        · cases h
  · split at h
    · rename_i isDir
      cases h
      exact isDir
    · cases h

/-- Making a directory that is there changes nothing. -/
theorem makeDirsRev_of_isDir (noLinks : t.NoLinks)
    (isDir : t.isDir (Path.ofComponents (c :: up).reverse) = true) : t.makeDirsRev (c :: up) = .ok t := by
  obtain ⟨l, cs, resolved, -⟩ := isDir_eq_true_iff.mp isDir
  simp only [makeDirsRev]
  rw [makeDir_of_resolve noLinks resolved]
  simpa using isDir

/-- Making the directories of a text again, in a tree that keeps every directory the first run
left, changes nothing, where neither tree has links. -/
theorem createDirAll_of_dirs_kept (noLinks : t.NoLinks) (noLinks₂ : t₂.NoLinks)
    (made : t.createDirAll p = .ok t₁)
    (kept : ∀ x, t₁.nodeAt x = some .dir → t₂.nodeAt x = some .dir) (cwd : t₂.cwd = t₁.cwd) :
    t₂.createDirAll p = .ok t₂ := by
  have noLinks₁ := (createDirAll_grows made).noLinks noLinks
  unfold createDirAll at made ⊢
  split
  · rfl
  · rename_i notEmpty
    rw [if_neg notEmpty] at made
    cases comps : (Path.components p).reverse with
    | nil => rfl
    | cons c up =>
      rw [comps] at made
      exact makeDirsRev_of_isDir noLinks₂
        (isDir_of_dirs_kept noLinks₁ noLinks₂ kept cwd (makeDirsRev_isDir noLinks made))

/-! ## Writing a file again -/

theorem get?_setChild_file {bytes : ByteArray} (isDir : t.nodeAt P = some .dir) :
    (t.modifyDir P (setChild n (.file bytes))).get? (P ++ [n]) = some (.file bytes) := by
  rw [← nodeAt_eq_some_file, nodeAt_setChild isDir (fun _ _ => rfl)]
  simp [Entry.node]

theorem writeFile_again (noLinks : t.NoLinks) {bytes : ByteArray} (h : t.writeFile p bytes = .ok t') :
    t'.writeFile p bytes = .ok t' := by
  have noLinks' := writeFile_noLinks noLinks h
  obtain ⟨P, n, named, isDir, notDir, fileOnly, rfl⟩ := writeFile_eq_ok noLinks h
  have changes : t.ChangesOnlyAt (t.modifyDir P (setChild n (.file bytes))) (P ++ [n]) :=
    changesOnlyAt_setChild_file notDir
  have named' := parentAndName_of_dirs_kept noLinks noLinks' changes.keepsDirs changes.cwd named isDir
  have isFile : (t.modifyDir P (setChild n (.file bytes))).nodeAt (P ++ [n]) = some (.file bytes) :=
    nodeAt_eq_some_file.mpr (get?_setChild_file isDir)
  -- the file is there under the same name, and takes the same bytes again
  rw [writeFile_of_parentAndName noLinks' named' (changes.keepsDirs P isDir) (by simp [isFile])
    fileOnly, modifyDir_modifyDir]
  congr 2
  funext cs
  exact setChild_setChild n _ cs

/-- A directory made before a write is made again after it without a change: the write keeps
every directory. -/
theorem createDirAll_after_writeFile (noLinks : t.NoLinks) {q : String} {bytes : ByteArray}
    (made : t.createDirAll p = .ok t₁) (wrote : t₁.writeFile q bytes = .ok t₂) :
    t₂.createDirAll p = .ok t₂ := by
  have noLinks₁ := (createDirAll_grows made).noLinks noLinks
  obtain ⟨P, n, -, changes⟩ := writeFile_changesOnlyAt noLinks₁ wrote
  exact createDirAll_of_dirs_kept noLinks (writeFile_noLinks noLinks₁ wrote) made changes.keepsDirs
    changes.cwd

/-! ## What a change away from a place leaves of it -/

/-- A text that names something other than the changed place names it the same way after the
change. -/
theorem resolve_of_changesOnlyAt (noLinks : t.NoLinks) (noLinks' : t'.NoLinks) {L : Location}
    (changes : t.ChangesOnlyAt t' L) (resolved : t.resolve p = .ok l) (away : l ≠ L) :
    t'.resolve p = .ok l := by
  obtain ⟨notEmpty, walk, found⟩ := follow_of_resolve resolved
  have same : t'.nodeAt l = t.nodeAt l :=
    (changes.elsewhere l away).eq_of_isSome (by simpa [nodeAt] using found)
  have walk' := follow_of_dirs_kept noLinks noLinks' changes.keepsDirs walk
    (by rw [same]; simpa [nodeAt] using found)
  have sameStart : t'.start (Route.ofText p) = t.start (Route.ofText p) := start_congr changes.cwd rfl
  cases atL : t.get? l with
  | none => simp [atL] at found
  | some e =>
    cases e with
    | dir cs =>
      exact resolve_of_dirs_kept noLinks noLinks' changes.keepsDirs changes.cwd resolved
        (nodeAt_eq_some_dir.mpr ⟨cs, atL⟩)
    | file b =>
      -- the same file is at the end of the same route
      have atL' : t'.get? l = some (.file b) :=
        nodeAt_eq_some_file.mp (same.trans (nodeAt_eq_some_file.mpr atL))
      rw [← resolved]
      simp only [resolve, notEmpty, Bool.false_eq_true, if_false, sameStart, walk, walk', atL, atL']
    | link target => exact absurd atL (noLinks l target)

end FileTree

end Files

/-! ## The walk after a change -/

/-- After a change at one place that is no ignore file, the walk keeps every other place it kept
before. -/
theorem WalkContext.Keeps.to_changesOnlyAt {ctx : WalkContext} {t' : FileTree} {L : Location}
    (noLinks : ctx.fs.NoLinks) (noLinks' : t'.NoLinks) (changes : ctx.fs.ChangesOnlyAt t' L)
    (notRule : L.isRuleFile = false) :
    ∀ {levels : List DirRules} {D rel : Location}, (D ++ rel).Proper → ctx.Keeps levels D rel →
      D ++ rel ≠ L → ({ ctx with fs := t' } : WalkContext).Keeps levels D rel
  | _, _, [], _, keeps, _ => keeps.elim
  | _, D, [n], _, keeps, away => by
    obtain ⟨⟨b, isFile⟩, kept, candidate⟩ := keeps
    have same := (changes.elsewhere _ away).eq_of_isSome (by rw [isFile]; rfl)
    exact ⟨⟨b, same.trans isFile⟩, kept, candidate⟩
  | levels, D, n :: m :: rest, proper, keeps, away => by
    obtain ⟨isDir, entered, below⟩ := keeps
    have above : (D ++ [n]).Proper :=
      Location.Proper.of_append_left (m := m :: rest) (by simpa using proper)
    have below' := Keeps.to_changesOnlyAt noLinks noLinks' changes notRule (by simpa using proper)
      below (by simpa using away)
    -- the directory is still there, and contributes the rules it did before
    refine ⟨changes.keepsDirs _ isDir, entered, ?_⟩
    dsimp only
    rw [changes.dirRules noLinks noLinks' notRule above]
    exact below'

section Project

variable {t : FileTree} {root : String} {R : Location} {ignoredDirs : List String}
  {files : List String}

/-- The walk of a project whose root is a file takes the file alone, when it is a candidate. -/
theorem collectFiles_of_file {b : ByteArray} (noLinks : t.NoLinks) (proper : R.Proper)
    (resolved : t.resolve root = .ok R) (atR : t.get? R = some (.file b)) :
    collectFiles t root ignoredDirs = .ok (if Script.isCandidate R.text then [R.text] else []) := by
  have canonical : t.canonicalize root = .ok R.text := by
    simp [FileTree.canonicalize, resolved, Except.map]
  simp only [collectFiles, canonical, FileTree.entry?_text noLinks proper, atR]

/-- The places the walk keeps lie away from the declaration file. -/
theorem ne_typesPath_of_keeps {levels : List DirRules} {rel : Location} (proper : R.Proper)
    (keeps : (WalkContext.atRoot t R ignoredDirs).Keeps levels R rel) :
    R ++ rel ≠ R ++ [Artifact.directoryName, "index.d.ts"] := by
  intro atTypes
  rw [List.append_cancel_left atTypes] at keeps
  exact not_keeps_directory proper levels ["index.d.ts"] keeps

theorem scanKeywords_of_same_file {t' : FileTree} {l : Location} {b : ByteArray}
    (noLinks : t.NoLinks) (noLinks' : t'.NoLinks) (proper : l.Proper)
    (isFile : t.nodeAt l = some (.file b)) (same : t'.nodeAt l = t.nodeAt l) (config : Config) :
    scanKeywords t' config l.text = scanKeywords t config l.text := by
  have read : t.readBytes l.text = .ok b :=
    (FileTree.readBytes_text_eq_ok_iff noLinks proper).mpr (FileTree.nodeAt_eq_some_file.mp isFile)
  have read' : t'.readBytes l.text = .ok b :=
    (FileTree.readBytes_text_eq_ok_iff noLinks' proper).mpr
      (FileTree.nodeAt_eq_some_file.mp (same.trans isFile))
  simp only [scanKeywords, scanFile, FileTree.readText, read, read']

/-- After the declaration file is written, the walk collects the files it collected before, and
each reads the same. -/
theorem collectFiles_writeTypes (ks : KeywordSet) (config : Config) (wf : t.WellFormed)
    (resolved : t.resolve root = .ok R) (collected : collectFiles t root ignoredDirs = .ok files) :
    ∃ files', collectFiles (writeTypes t root ks).1 root ignoredDirs = .ok files' ∧
      (∀ f, f ∈ files' ↔ f ∈ files) ∧
      ∀ f ∈ files, scanKeywords (writeTypes t root ks).1 config f = scanKeywords t config f := by
  have changes : t.ChangesOnlyAt (writeTypes t root ks).1 (R ++ [Artifact.directoryName, "index.d.ts"]) :=
    FileTree.writeTypes_changesOnlyAt wf.noLinks resolved
  have notRule := isRuleFile_typesPath R
  have wf' : (writeTypes t root ks).1.WellFormed := wf.writeTypes
  obtain ⟨-, -, found⟩ := FileTree.follow_of_resolve resolved
  have properR : R.Proper := wf.proper found
  have away : R ≠ R ++ [Artifact.directoryName, "index.d.ts"] := by simp
  have resolved' := FileTree.resolve_of_changesOnlyAt wf.noLinks wf'.noLinks changes resolved away
  cases atR : t.get? R with
  | none => simp [atR] at found
  | some e =>
    cases e with
    | link target => exact absurd atR (wf.noLinks R target)
    | file b =>
      -- a root that is a file is taken alone, and reads the same
      have isFile : t.nodeAt R = some (.file b) := FileTree.nodeAt_eq_some_file.mpr atR
      have same := (changes.elsewhere R away).eq_of_isSome (by rw [isFile]; rfl)
      have atR' := FileTree.nodeAt_eq_some_file.mp (same.trans isFile)
      rw [collectFiles_of_file wf.noLinks properR resolved atR, Except.ok.injEq] at collected
      subst collected
      refine ⟨_, collectFiles_of_file wf'.noLinks properR resolved' atR', fun _ => Iff.rfl,
        fun f taken => ?_⟩
      split at taken
      · rw [List.mem_singleton.mp taken]
        exact scanKeywords_of_same_file wf.noLinks wf'.noLinks properR isFile same config
      · cases taken
    | dir cs =>
      -- the walk keeps the places it kept, and only those: the declaration file is never kept
      have isDir : t.nodeAt R = some .dir := FileTree.nodeAt_eq_some_dir.mpr ⟨cs, atR⟩
      obtain ⟨files₀, collected₀, members⟩ :=
        @mem_collectFiles_iff t root R ignoredDirs wf resolved isDir
      rw [collected, Except.ok.injEq] at collected₀
      subst collected₀
      obtain ⟨files', collected', members'⟩ :=
        @mem_collectFiles_iff _ root R ignoredDirs wf' resolved' (changes.keepsDirs R isDir)
      refine ⟨files', collected', fun f => ?_, fun f taken => ?_⟩
      · rw [members', members]
        constructor
        · rintro ⟨rel, rfl, keeps⟩
          rcases keeps_changesOnlyAt wf.noLinks wf'.noLinks (keeps.proper wf') changes notRule keeps
            with kept | atTypes
          · exact ⟨rel, rfl, kept⟩
          · exact absurd atTypes (ne_typesPath_of_keeps properR keeps)
        · rintro ⟨rel, rfl, keeps⟩
          refine ⟨rel, rfl, ?_⟩
          rw [atRoot_changesOnlyAt wf.noLinks wf'.noLinks properR changes notRule,
            changes.dirRules wf.noLinks wf'.noLinks notRule properR]
          exact keeps.to_changesOnlyAt wf.noLinks wf'.noLinks changes notRule (keeps.proper wf)
            (ne_typesPath_of_keeps properR keeps)
      · obtain ⟨rel, rfl, keeps⟩ := (members f).mp taken
        obtain ⟨⟨b, kept⟩, -⟩ := keeps.file
        have isFile : t.nodeAt (R ++ rel) = some (.file b) := kept
        have same := (changes.elsewhere _ (ne_typesPath_of_keeps properR keeps)).eq_of_isSome
          (by rw [isFile]; rfl)
        exact scanKeywords_of_same_file wf.noLinks wf'.noLinks (keeps.proper wf) isFile same config

end Project

/-! ## Writing the declaration file again -/

/-- Writing the declaration file of a keyword set a second time gives the same answer and leaves
the tree as the first time left it. -/
theorem writeTypes_writeTypes {t : FileTree} (noLinks : t.NoLinks) (root : String) (ks : KeywordSet) :
    writeTypes (writeTypes t root ks).1 root ks = writeTypes t root ks := by
  unfold writeTypes
  cases made : t.createDirAll (Path.join root Artifact.directoryName) with
  | error e => simp only [made]
  | ok t₁ =>
    have noLinks₁ := (FileTree.createDirAll_grows made).noLinks noLinks
    have again := FileTree.createDirAll_of_dirs_kept noLinks noLinks₁ made (fun _ isDir => isDir) rfl
    cases wrote : t₁.writeFile (Artifact.typesPath root) (Artifact.renderTypes ks).toUTF8 with
    | error e => simp only [made, wrote, again]
    | ok t₂ =>
      -- the directory made the first time is still there after the file went in
      simp only [made, wrote, FileTree.createDirAll_after_writeFile noLinks made wrote,
        FileTree.writeFile_again noLinks₁ wrote]

/-! ## Generating twice -/

section Generate

variable {t : FileTree} {root : String} {ignoredDirs : List String} {config : Config}

/-- Two scans over lists with the same members, each file read the same, find the same keywords. -/
theorem found_iff_of_same_files {files files' : List String}
    {scan scan' : String → Except Failure KeywordSet} (members : ∀ f, f ∈ files' ↔ f ∈ files)
    (same : ∀ f ∈ files, scan' f = scan f) (k : String) :
    (∃ f ∈ files', ∃ ks, scan' f = .ok ks ∧ k ∈ ks) ↔ ∃ f ∈ files, ∃ ks, scan f = .ok ks ∧ k ∈ ks := by
  constructor
  · rintro ⟨f, taken, ks, read, found⟩
    have taken₀ := (members f).mp taken
    rw [same f taken₀] at read
    exact ⟨f, taken₀, ks, read, found⟩
  · rintro ⟨f, taken, ks, read, found⟩
    rw [← same f taken] at read
    exact ⟨f, (members f).mpr taken, ks, read, found⟩

/-- Writing the declaration file leaves the keywords a scan finds as they were. -/
theorem scanProject_writeTypes {r : ScanResult × List Report} (ks : KeywordSet) (wf : t.WellFormed)
    (scanned : scanProject t root ignoredDirs config = .ok r) :
    ∃ r', scanProject (writeTypes t root ks).1 root ignoredDirs config = .ok r' ∧
      r'.1.keywords = r.1.keywords := by
  rw [scanProject_eq] at scanned ⊢
  cases collected : collectFiles t root ignoredDirs with
  | error f => simp [collected, Except.map] at scanned
  | ok files =>
    rw [collected, Except.map, Except.ok.injEq] at scanned
    subst scanned
    obtain ⟨R, resolved⟩ := resolve_of_collectFiles collected
    obtain ⟨files', collected', members, same⟩ := collectFiles_writeTypes ks config wf resolved collected
    refine ⟨_, by rw [collected']; rfl, KeywordSet.ext fun k => ?_⟩
    rw [mem_aggregate_keywords, mem_aggregate_keywords]
    exact found_iff_of_same_files members same k

/-- A generation whose scan succeeds leaves the tree the declaration file was written into, and
answers the keywords when the write succeeds. -/
theorem generateTypes_of_scanProject {scan : ScanResult} {reports : List Report}
    (scanned : scanProject t root ignoredDirs config = .ok (scan, reports)) :
    (generateTypes t root ignoredDirs config).tree = (writeTypes t root scan.keywords).1 ∧
      (generateTypes t root ignoredDirs config).result =
        (writeTypes t root scan.keywords).2.map fun _ => scan.keywords := by
  unfold generateTypes
  rw [scanned]
  rcases written : writeTypes t root scan.keywords with ⟨t', _ | _⟩ <;> simp [written, Except.map]

/-- A project worked on from inside its root, given as `.`, with a declaration file left from
before. -/
def staleArtifactTree : FileTree :=
  ⟨[("p", .dir [("src", .dir [("a.ts", .file "import \x7b k \x7d from 'virtual:keywords';\n".toUTF8)]),
    (".keywords", .dir [("index.d.ts", .file "export \x7b\x7d;\n".toUTF8)])])], ["p"]⟩

/-- A project whose `.keywords` is a link to its `src`, where `src/index.d.ts` imports keyword
`k`. -/
def linkedArtifactTree : FileTree :=
  ⟨[("r", .dir [(".keywords", .link "src"),
    ("src", .dir [("index.d.ts", .file "import \x7b k \x7d from 'virtual:keywords';\n".toUTF8)])])],
    []⟩

/-- The first generation replaces the declaration file left from before. -/
example : (generateTypes staleArtifactTree "." [] {}).result.toOption.map (·.toList) = some ["k"] ∧
    ((generateTypes staleArtifactTree "." [] {}).tree.readText "/p/.keywords/index.d.ts").toOption =
      some (Artifact.renderTypes (KeywordSet.ofList ["k"])) := by
  decide +kernel

end Generate

end KeyIntern
