import KeyIntern.Proofs.CollectedFiles
import KeyIntern.Proofs.KeywordSetLaws

/-! # What a build session keeps up with

After a build, a session takes in changed files one at a time, while a full scan walks the whole
project. The two count files differently. The walk reads every ignore file on the way to a file,
and above the root, and the nearest rule that matches speaks; the session reads only the root's
`.gitignore`, once, and passes over every file that it ignores. A `.gitignore` further down may
allow again a file that the root's ignores, so the walk can collect a file the session never
reads. A link does the same: the walk collects a link to a file in `node_modules` and reads the
file through it, while the session passes over a change of the file itself.
`scan_finds_keyword_session_lacks` has both runs, where the full scan finds a keyword that the
session lacks.

What holds is that the session keeps up with every file it does not pass over, in a tree without
links. After a build and any run of edits of source files, each followed by the change taken in,
every keyword the full scan finds in a collected file that the session does not pass over is among
the session's keywords (`keywords_cover_taken_files`). The edits must leave the ignore files alone, since the
walk reads them again and the session does not.

The proof carries `Session.Covers`. A build establishes it, and an edit taken in keeps it, by the
frame rule of the walk: after a change at one place the walk keeps what it kept before, with the
same files, and that place; the declaration file a session writes is never kept.
-/

namespace KeyIntern

open Files

/-! ## Scanning one file -/

/-- How a full scan reads the keywords of one file. -/
def scanKeywords (t : FileTree) (config : Config) (path : String) : Except Failure KeywordSet :=
  scanFile t (fun path text => .ok (discover (Targets.ofList config.additionalModules) path text).keywords)
    path

/-- A full scan unions what it reads from each collected file. -/
theorem scanProject_eq (t : FileTree) (root : String) (ignoredDirs : List String) (config : Config) :
    scanProject t root ignoredDirs config =
      (collectFiles t root ignoredDirs).map fun files =>
        aggregate files batchSize (scanKeywords t config) := by
  unfold scanProject
  cases collectFiles t root ignoredDirs <;> rfl

theorem scanKeywords_eq_ok_iff {t : FileTree} {config : Config} {path : String} {ks : KeywordSet} :
    scanKeywords t config path = .ok ks ↔ ∃ text, t.readText path = .ok text ∧
      (discover (Targets.ofList config.additionalModules) path text).keywords = ks := by
  unfold scanKeywords scanFile
  cases t.readText path <;> simp

theorem scanKeywords_text_congr {t t' : FileTree} {l : Location} (noLinks : t.NoLinks)
    (noLinks' : t'.NoLinks) (proper : l.Proper) (same : t'.nodeAt l = t.nodeAt l) {config : Config}
    {ks : KeywordSet} :
    scanKeywords t' config l.text = .ok ks ↔ scanKeywords t config l.text = .ok ks := by
  simp only [scanKeywords_eq_ok_iff, FileTree.readText_text_congr noLinks noLinks' proper same]

/-! ## Edits of source files -/

/-- A change to one source file: new bytes, or its deletion. -/
inductive SourceEdit where
  | write (content : ByteArray)
  | delete

namespace SourceEdit

/-- The tree after an edit of the file at `l`. A write makes the missing directories above the
file first; a delete removes a file. An edit that cannot be made leaves the tree as it was. -/
def apply (t : FileTree) (l : Location) : SourceEdit → FileTree
  | write content => (t.putFile l.text content).toOption.getD t
  | delete => if t.isFile l.text then t.remove l.text else t

variable {t : FileTree} {l : Location}

/-- What an edit leaves: the tree a write of the file made, the tree with the file there removed,
or the tree as it was. -/
theorem apply_cases (e : SourceEdit) :
    (∃ bytes, t.putFile l.text bytes = .ok (e.apply t l)) ∨
      (t.isFile l.text = true ∧ e.apply t l = t.remove l.text) ∨ e.apply t l = t := by
  cases e with
  | write content =>
    cases put : t.putFile l.text content with
    | ok t' => exact .inl ⟨content, by simp [apply, put, Except.toOption]⟩
    | error e => exact .inr (.inr (by simp [apply, put, Except.toOption]))
  | delete =>
    by_cases isFile : t.isFile l.text = true
    · exact .inr (.inl ⟨isFile, by simp [apply, isFile]⟩)
    · exact .inr (.inr (by simp [apply, isFile]))

theorem changesOnlyAt (noLinks : t.NoLinks) (proper : l.Proper) (e : SourceEdit) :
    t.ChangesOnlyAt (e.apply t l) l := by
  rcases apply_cases e with ⟨bytes, put⟩ | ⟨isFile, removed⟩ | same
  · exact FileTree.putFile_text_changesOnlyAt noLinks proper put
  · rw [removed]
    -- only a file is deleted, never a directory
    apply FileTree.remove_text_changesOnlyAt noLinks proper
    unfold FileTree.isFile at isFile
    rw [FileTree.entry?_text noLinks proper] at isFile
    split at isFile
    · rename_i b found
      simp [FileTree.nodeAt_eq_some_file.mpr found]
    · cases isFile
  · rw [same]
    exact (FileTree.Grows.refl t).changesOnlyAt l

theorem wellFormed (wf : t.WellFormed) (e : SourceEdit) : (e.apply t l).WellFormed := by
  rcases apply_cases e with ⟨bytes, put⟩ | ⟨-, removed⟩ | same
  · exact wf.putFile put
  · rw [removed]
    exact wf.remove
  · rw [same]
    exact wf

theorem noLinks (noLinks : t.NoLinks) (e : SourceEdit) : (e.apply t l).NoLinks := by
  rcases apply_cases e with ⟨bytes, put⟩ | ⟨-, removed⟩ | same
  · exact FileTree.putFile_noLinks noLinks put
  · rw [removed]
    exact FileTree.remove_noLinks noLinks
  · rw [same]
    exact noLinks

end SourceEdit

namespace Session

/-- Edits the file at `l`, then lets the session take in the change: the session and the tree
after it. -/
def afterEdit (s : Session) (t : FileTree) (l : Location) (e : SourceEdit) : Session × FileTree :=
  ((s.handleChange (e.apply t l) l.text).1, (s.handleChange (e.apply t l) l.text).2.tree)

/-- A run of edits, each taken in before the next. -/
def afterEdits (s : Session) (t : FileTree) (edits : List (Location × SourceEdit)) :
    Session × FileTree :=
  edits.foldl (fun now edit => now.1.afterEdit now.2 edit.1 edit.2) (s, t)

theorem afterEdits_cons (s : Session) (t : FileTree) (l : Location) (e : SourceEdit)
    (rest : List (Location × SourceEdit)) :
    s.afterEdits t ((l, e) :: rest) = (s.afterEdit t l e).1.afterEdits (s.afterEdit t l e).2 rest := by
  simp only [afterEdits, List.foldl_cons, Prod.mk.eta]

variable {s : Session} {t t' : FileTree} {R : Location}

/-! ## Taking in a change -/

/-- Taking in a change only sets the keywords, and either leaves the tree or writes the
declaration file of the new keywords. -/
theorem handleChange_shape (s : Session) (t : FileTree) (p : String) :
    ∃ ks, (s.handleChange t p).1 = { s with keywords := ks } ∧
      ((s.handleChange t p).2.tree = t ∨ (s.handleChange t p).2.tree = (writeTypes t s.root ks).1) := by
  unfold handleChange
  -- the change is passed over, unreadable, brings nothing new, or brings keywords to write
  split
  · exact ⟨s.keywords, rfl, .inl rfl⟩
  · split
    · exact ⟨s.keywords, rfl, .inl rfl⟩
    · dsimp only
      split
      · exact ⟨s.keywords, rfl, .inl rfl⟩
      · split
        · rename_i t' path written
          exact ⟨_, rfl, .inr (by rw [written])⟩
        · rename_i t' f written
          exact ⟨_, rfl, .inr (by rw [written])⟩

/-- A changed file that is taken in and read: its keywords are added when some are new. -/
theorem handleChange_keywords_of_read {p text : String} (candidate : Script.isCandidate p = true)
    (taken : s.isExcluded t p = false) (read : t.readText p = .ok text) :
    (s.handleChange t p).1.keywords =
      if (s.keywords.union (discover s.targets p text).keywords).size = s.keywords.size then
        s.keywords
      else s.keywords.union (discover s.targets p text).keywords := by
  simp only [handleChange, candidate, taken, read, Bool.not_true, Bool.or_false, Bool.false_eq_true,
    if_false]
  split
  · rfl
  · split <;> rfl

/-- A changed file that is taken in brings in every keyword of its text. -/
theorem discover_subset_handleChange {p text : String} (candidate : Script.isCandidate p = true)
    (taken : s.isExcluded t p = false) (read : t.readText p = .ok text) :
    ∀ k ∈ (discover s.targets p text).keywords, k ∈ (s.handleChange t p).1.keywords := by
  intro k found
  rw [handleChange_keywords_of_read candidate taken read]
  split
  · -- the union is no larger, so the text brought nothing new
    rename_i same
    exact KeywordSet.mem_of_size_union same found
  · exact KeywordSet.mem_union.mpr (.inr found)

/-! ## The invariant -/

/-- The session keeps up with the tree, whose root is the directory at `R`: every keyword the
full scan finds in a file the walk keeps and the session takes in is among its keywords. -/
structure Covers (s : Session) (t : FileTree) (R : Location) : Prop where
  wellFormed : t.WellFormed
  resolved : t.resolve s.root = .ok R
  isDir : t.nodeAt R = some .dir
  taken : ∀ rel, (WalkContext.atRoot t R s.ignoredDirs).Keeps [DirRules.read t R.text] R rel →
    s.isExcluded t (R ++ rel).text = false →
    ∀ ks, scanKeywords t s.config (R ++ rel).text = .ok ks → ∀ k ∈ ks, k ∈ s.keywords

/-- The frame rule of the invariant. After a change at one place that is no ignore file, a session
with the same settings and at least the same keywords keeps up, once it covers that place. -/
theorem Covers.changesOnlyAt {s' : Session} {L : Location} (covers : s.Covers t R)
    (wf' : t'.WellFormed) (changes : t.ChangesOnlyAt t' L) (notRule : L.isRuleFile = false)
    (settings : ∃ ks, s' = { s with keywords := ks }) (more : ∀ k ∈ s.keywords, k ∈ s'.keywords)
    (atL : ∀ rel, (WalkContext.atRoot t' R s.ignoredDirs).Keeps [DirRules.read t' R.text] R rel →
      R ++ rel = L → s.isExcluded t' L.text = false →
      ∀ ks, scanKeywords t' s.config L.text = .ok ks → ∀ k ∈ ks, k ∈ s'.keywords) :
    s'.Covers t' R := by
  obtain ⟨ks₀, rfl⟩ := settings
  have noLinks := covers.wellFormed.noLinks
  refine ⟨wf', FileTree.resolve_of_dirs_kept noLinks wf'.noLinks changes.keepsDirs changes.cwd
    covers.resolved covers.isDir, changes.keepsDirs R covers.isDir, ?_⟩
  intro rel keeps notExcluded ks scanned k found
  by_cases atChange : R ++ rel = L
  · subst atChange
    exact atL rel keeps rfl notExcluded ks scanned k found
  · -- elsewhere the walk kept the place before, and the file there is the same
    have place := keeps.proper wf'
    have kept :=
      (keeps_changesOnlyAt noLinks wf'.noLinks place changes notRule keeps).resolve_right atChange
    obtain ⟨⟨b, isFile⟩, -⟩ := kept.file
    have isFile : t.nodeAt (R ++ rel) = some (.file b) := isFile
    have same : t'.nodeAt (R ++ rel) = t.nodeAt (R ++ rel) :=
      (changes.elsewhere _ atChange).eq_of_isSome (by simp [isFile])
    have stillTaken : s.isExcluded t (R ++ rel).text = false := by
      rw [Session.isExcluded_text s noLinks wf'.noLinks place]
      exact notExcluded
    exact more k (covers.taken rel kept stillTaken ks
      ((scanKeywords_text_congr noLinks wf'.noLinks place same).mp scanned) k found)

/-- Writing the declaration file keeps the session up: the walk never keeps it. -/
theorem Covers.writeTypes (covers : s.Covers t R) (ks : KeywordSet) :
    s.Covers (writeTypes t s.root ks).1 R := by
  refine covers.changesOnlyAt covers.wellFormed.writeTypes
    (FileTree.writeTypes_changesOnlyAt covers.wellFormed.noLinks covers.resolved)
    (isRuleFile_typesPath R) ⟨s.keywords, rfl⟩
    (fun _ known => known) ?_
  -- the declaration file lies in `.keywords`, which the walk never enters
  intro rel keeps atTypes
  rw [List.append_cancel_left atTypes] at keeps
  exact absurd keeps (not_keeps_directory (keeps.proper covers.wellFormed.writeTypes).of_append_left _ _)

/-- An edit of a source file, taken in, keeps the session up. -/
theorem Covers.afterEdit (covers : s.Covers t R) {l : Location} (proper : l.Proper)
    (notRule : l.isRuleFile = false) (e : SourceEdit) :
    (s.afterEdit t l e).1.Covers (s.afterEdit t l e).2 R := by
  obtain ⟨ks, settings, tree⟩ := handleChange_shape s (e.apply t l) l.text
  -- the session takes in the edited file, whenever the walk keeps it
  have taken : (s.handleChange (e.apply t l) l.text).1.Covers (e.apply t l) R := by
    refine covers.changesOnlyAt (e.wellFormed covers.wellFormed)
      (e.changesOnlyAt covers.wellFormed.noLinks proper) notRule
      ⟨ks, settings⟩ (keywords_subset_handleChange s _ _) ?_
    intro rel keeps atEdit notExcluded found scanned
    obtain ⟨text, read, rfl⟩ := scanKeywords_eq_ok_iff.mp scanned
    have candidate := keeps.file.2
    rw [atEdit] at candidate
    exact discover_subset_handleChange candidate notExcluded read
  unfold Session.afterEdit
  rcases tree with same | written
  · rw [same]
    exact taken
  · rw [written]
    rw [settings] at taken ⊢
    exact taken.writeTypes ks

/-- A run of edits of source files, each taken in, keeps the session up. -/
theorem Covers.afterEdits (covers : s.Covers t R) (edits : List (Location × SourceEdit))
    (valid : ∀ x ∈ edits, x.1.Proper ∧ x.1.isRuleFile = false) :
    (s.afterEdits t edits).1.Covers (s.afterEdits t edits).2 R := by
  induction edits generalizing s t with
  | nil => exact covers
  | cons edit rest ih =>
    obtain ⟨l, e⟩ := edit
    obtain ⟨proper, notRule⟩ := valid (l, e) List.mem_cons_self
    rw [afterEdits_cons]
    exact ih (covers.afterEdit proper notRule e) fun x inRest => valid x (List.mem_cons_of_mem _ inRest)

/-- Edits only ever set the session's keywords. -/
theorem afterEdits_settings (s : Session) (t : FileTree) (edits : List (Location × SourceEdit)) :
    ∃ ks, (s.afterEdits t edits).1 = { s with keywords := ks } := by
  induction edits generalizing s t with
  | nil => exact ⟨s.keywords, rfl⟩
  | cons edit rest ih =>
    obtain ⟨l, e⟩ := edit
    obtain ⟨ks, settings, -⟩ := handleChange_shape s (e.apply t l) l.text
    obtain ⟨ks', after⟩ := ih (s.afterEdit t l e).1 (s.afterEdit t l e).2
    refine ⟨ks', ?_⟩
    rw [afterEdits_cons, after]
    simp only [afterEdit, settings]

/-- A session that keeps up covers every collected file it takes in. -/
theorem Covers.collected (covers : s.Covers t R) :
    ∃ files, collectFiles t s.root s.ignoredDirs = .ok files ∧
      ∀ f ∈ files, s.isExcluded t f = false →
        ∀ ks, scanKeywords t s.config f = .ok ks → ∀ k ∈ ks, k ∈ s.keywords := by
  obtain ⟨files, collected, members⟩ :=
    mem_collectFiles_iff covers.wellFormed covers.resolved covers.isDir
  refine ⟨files, collected, fun f mem => ?_⟩
  obtain ⟨rel, rfl, keeps⟩ := (members f).mp mem
  exact covers.taken rel keeps

/-! ## A build -/

/-- A build that succeeds scanned the collected files and wrote the declaration file of what it
found, which are then the session's keywords. -/
theorem build_eq_ok (built : (s.build t).2.result = .ok ()) :
    ∃ files found path, collectFiles t s.root s.ignoredDirs = .ok files ∧
      found = (aggregate files batchSize (scanKeywords t s.config)).1.keywords ∧
      (writeTypes t s.root found).2 = .ok path ∧ (s.build t).1 = { s with keywords := found } ∧
      (s.build t).2.tree = (writeTypes t s.root found).1 := by
  unfold build generateTypes at built ⊢
  rw [scanProject_eq] at built ⊢
  -- a build fails when the walk fails or when the declaration file cannot be written
  cases collected : collectFiles t s.root s.ignoredDirs with
  | error f => simp [collected, Except.map] at built
  | ok files =>
    simp only [collected, Except.map] at built ⊢
    cases written : writeTypes t s.root (aggregate files batchSize (scanKeywords t s.config)).1.keywords with
    | mk t' result =>
      cases result with
      | error f => simp [written] at built
      | ok path => exact ⟨files, _, path, rfl, rfl, by simp [written]⟩

/-- A build that succeeds leaves a session that keeps up with the tree it leaves. -/
theorem covers_build (wf : t.WellFormed) (built : (s.build t).2.result = .ok ()) :
    ∃ R, (s.build t).1.Covers (s.build t).2.tree R := by
  obtain ⟨files, found, path, collected, rfl, written, session, tree⟩ := build_eq_ok built
  -- the root resolved, since the walk began; it is a directory, since the declaration file went in
  obtain ⟨R, resolved⟩ := resolve_of_collectFiles collected
  have isDir := FileTree.nodeAt_root_of_writeTypes wf.noLinks resolved written
  obtain ⟨files', collected', members⟩ := @mem_collectFiles_iff t s.root R s.ignoredDirs wf resolved isDir
  rw [collected, Except.ok.injEq] at collected'
  subst collected'
  have scanned : ({ s with keywords := (aggregate files batchSize (scanKeywords t s.config)).1.keywords } :
      Session).Covers t R := by
    refine ⟨wf, resolved, isDir, fun rel keeps _ ks scan k found => ?_⟩
    exact (mem_aggregate_keywords _ _ _ k).mpr ⟨_, (members _).mpr ⟨rel, rfl, keeps⟩, ks, scan, found⟩
  refine ⟨R, ?_⟩
  rw [session, tree]
  exact scanned.writeTypes _

end Session

/-! ## Keeping up with the files taken in -/

/-- After a build that succeeds and any run of edits of source files that leave the ignore files
alone, each taken in, every keyword the full scan finds in a collected file that the session does
not pass over is among the session's keywords. -/
theorem keywords_cover_taken_files {t : FileTree} {root : String} {config : Config}
    {ignoredDirs : List String} {dev : Bool} (wf : t.WellFormed)
    (built : ((Session.start t root config ignoredDirs dev).build t).2.result = .ok ())
    (edits : List (Location × SourceEdit))
    (valid : ∀ x ∈ edits, x.1.Proper ∧ x.1.isRuleFile = false) :
    let session := (Session.start t root config ignoredDirs dev).build t
    let after := session.1.afterEdits session.2.tree edits
    ∃ files, collectFiles after.2 root ignoredDirs = .ok files ∧
      ∀ f ∈ files, after.1.isExcluded after.2 f = false →
        ∀ ks, scanKeywords after.2 config f = .ok ks → ∀ k ∈ ks, k ∈ after.1.keywords := by
  intro session after
  obtain ⟨R, covers⟩ := Session.covers_build wf built
  obtain ⟨files, collected, covered⟩ := (covers.afterEdits edits valid).collected
  -- the session still has the root, ignored directories and configuration it started with
  have fields : after.1.root = root ∧ after.1.ignoredDirs = ignoredDirs ∧ after.1.config = config := by
    obtain ⟨ks, settings⟩ := Session.afterEdits_settings session.1 session.2.tree edits
    obtain ⟨_, _, _, _, _, _, started, _⟩ := Session.build_eq_ok built
    simp only [after, session] at settings ⊢
    rw [settings, started]
    exact ⟨rfl, rfl, rfl⟩
  refine ⟨files, ?_, ?_⟩
  · rw [← fields.1, ← fields.2.1]
    exact collected
  · rw [← fields.2.2]
    exact covered

/-- A project whose root `.gitignore` ignores every `.ts` file, while the `.gitignore` in `sub`
allows `b.ts` again. -/
def nestedAllowTree : FileTree :=
  ⟨[("r", .dir [("sub", .dir [("b.ts", .file "".toUTF8), (".gitignore", .file "!b.ts\n".toUTF8)]),
    (".gitignore", .file "*.ts\n".toUTF8)])], []⟩

/-- `sub/b.ts` comes to import keyword `k`. -/
def nestedAllowEdits : List (Location × SourceEdit) :=
  [(["r", "sub", "b.ts"], .write "import { k } from 'virtual:keywords';\n".toUTF8)]

theorem keywords_cover_taken_files_nested_allow :
    nestedAllowTree.WellFormed ∧
      ((Session.start nestedAllowTree "/r" {} [] false).build nestedAllowTree).2.result = .ok () ∧
      (∀ x ∈ nestedAllowEdits, x.1.Proper ∧ x.1.isRuleFile = false) ∧
      let session := (Session.start nestedAllowTree "/r" {} [] false).build nestedAllowTree
      let after := session.1.afterEdits session.2.tree nestedAllowEdits
      ∃ files, collectFiles after.2 "/r" [] = .ok files ∧
        ∀ f ∈ files, after.1.isExcluded after.2 f = false →
          ∀ ks, scanKeywords after.2 {} f = .ok ks → ∀ k ∈ ks, k ∈ after.1.keywords := by
  have wf : nestedAllowTree.WellFormed := FileTree.WellFormed.of_isWellFormed (by decide)
  have built : ((Session.start nestedAllowTree "/r" {} [] false).build nestedAllowTree).2.result =
      .ok () := by
    have succeeded :
        ((Session.start nestedAllowTree "/r" {} [] false).build nestedAllowTree).2.result.toOption =
          some () := by
      decide +kernel
    generalize ((Session.start nestedAllowTree "/r" {} [] false).build nestedAllowTree).2.result =
      result at succeeded
    cases result with
    | error e => cases succeeded
    | ok u => rfl
  have valid : ∀ x ∈ nestedAllowEdits, x.1.Proper ∧ x.1.isRuleFile = false := by decide
  exact ⟨wf, built, valid, keywords_cover_taken_files wf built nestedAllowEdits valid⟩

/-- A project whose `src/link.ts` is a link to a file of a package in `node_modules`. -/
def linkedPackageTree : FileTree :=
  ⟨[("r", .dir [("src", .dir [("link.ts", .link "../node_modules/dep/x.ts")]),
    ("node_modules", .dir [("dep", .dir [("x.ts", .file "export \x7b\x7d;\n".toUTF8)])])])], []⟩

/-- The package file comes to import keyword `k`. -/
def linkedPackageEdits : List (Location × SourceEdit) :=
  [(["r", "node_modules", "dep", "x.ts"], .write "import \x7b k \x7d from 'virtual:keywords';\n".toUTF8)]

/-- The full scan can find a keyword that the session lacks, in two ways. The root's `.gitignore`
ignores `sub/b.ts`, so the session passes over its change, while the walk collects it, allowed
again by the `.gitignore` beside it. And the walk collects the link `src/link.ts` and reads the
package file through it, while the session passes over the change of the package file, which lies
in `node_modules`. -/
theorem scan_finds_keyword_session_lacks :
    (let session := (Session.start nestedAllowTree "/r" {} [] false).build nestedAllowTree
     let after := session.1.afterEdits session.2.tree nestedAllowEdits
     session.2.result.toOption = some () ∧
      (scanProject after.2 "/r" [] {}).toOption.map (·.1.keywords.toList) = some ["k"] ∧
      "k" ∉ after.1.keywords.toList ∧ after.1.isExcluded after.2 "/r/sub/b.ts" = true) ∧
    (let session := (Session.start linkedPackageTree "/r" {} [] false).build linkedPackageTree
     let after := session.1.afterEdits session.2.tree linkedPackageEdits
     session.2.result.toOption = some () ∧
      (collectFiles after.2 "/r" []).toOption = some ["/r/src/link.ts"] ∧
      (scanProject after.2 "/r" [] {}).toOption.map (·.1.keywords.toList) = some ["k"] ∧
      "k" ∉ after.1.keywords.toList ∧
      after.1.isExcluded after.2 "/r/node_modules/dep/x.ts" = true ∧
      after.1.isExcluded after.2 "/r/src/link.ts" = false) := by
  decide +kernel

end KeyIntern
