import KeyIntern.Proofs.Regeneration
import KeyIntern.Proofs.WriteThrough

/-! # The declaration file beside a session

A session writes the declaration file of its keywords when a full build succeeds and again each
time a change adds keywords. The file then holds the declarations of the session's keywords
(`Session.Synced`), and taking in a change keeps it so: a change that adds nothing leaves the
session and the tree as they were, and one that adds keywords writes them. Edits of source files
away from the declaration file leave it alone, and the directory it lies in stays, so no write
fails: after a build, along every run of such edits, each taken in, every change is answered
without an error and the file follows the session (`artifact_follows_session`).

A write that fails is another matter. The keywords the change brought are kept, though the file
was not written. A later change that brings nothing new answers without an error and writes
nothing, so the file stays behind the session until a change brings a keyword again or a full
build runs: `failed_write_leaves_stale_artifact` is such a run.
-/

namespace KeyIntern

open Files

theorem fromUTF8?_toUTF8 (s : String) : String.fromUTF8? s.toUTF8 = some s := by
  simp only [String.fromUTF8?, String.toUTF8_eq_toByteArray, dif_pos s.isValidUTF8]
  rfl

namespace Files.FileTree

variable {t t' : FileTree} {p : String} {L : Location}

/-! ## Reading back what was written -/

theorem readBytes_eq_ok_iff {b : ByteArray} :
    t.readBytes p = .ok b ↔ ∃ A, t.resolve p = .ok A ∧ t.get? A = some (.file b) := by
  unfold readBytes entry?
  cases t.resolve p with
  | error e => simp
  | ok A =>
    cases found : t.get? A with
    | none => simp [found]
    | some e => cases e <;> simp [found]

/-- A text that reads a file somewhere other than the changed place reads the same after the
change. -/
theorem readText_of_changesOnlyAt (noLinks : t.NoLinks) (noLinks' : t'.NoLinks)
    (changes : t.ChangesOnlyAt t' L) {text : String}
    (read : t.readText p = .ok text) (away : ∀ A, t.resolve p = .ok A → A ≠ L) :
    t'.readText p = .ok text := by
  unfold readText at read ⊢
  cases bytes : t.readBytes p with
  | error e => simp [bytes] at read
  | ok b =>
    rw [bytes] at read
    -- the file read lies away from the change, so it is still there with the same bytes
    obtain ⟨A, resolved, atA⟩ := readBytes_eq_ok_iff.mp bytes
    have same := (changes.elsewhere A (away A resolved)).eq_of_isSome (by simp [nodeAt, atA])
    have atA' : t'.get? A = some (.file b) :=
      nodeAt_eq_some_file.mp (same.trans (nodeAt_eq_some_file.mpr atA))
    rw [readBytes_eq_ok_iff.mpr
      ⟨A, resolve_of_changesOnlyAt noLinks noLinks' changes resolved (away A resolved), atA'⟩]
    exact read

/-! ## Where the declaration file is -/

variable {root : String} {R A : Location}

/-- The declaration file's text leads from the root down `.keywords` to `index.d.ts`. -/
theorem typesPath_route (resolved : t.resolve root = .ok R) :
    t.follow (t.start (Route.ofText (Artifact.typesPath root))) (Route.ofText root).steps = .ok R ∧
      (Route.ofText (Artifact.typesPath root)).steps =
        (Route.ofText root).steps ++ [.down Artifact.directoryName, .down "index.d.ts"] ∧
      (Route.ofText (Artifact.typesPath root)).dirOnly = false := by
  obtain ⟨rootNotEmpty, walkRoot, -⟩ := follow_of_resolve resolved
  have rootText : root ≠ "" := by simpa [String.isEmpty_iff] using rootNotEmpty
  have dirRoute := Route.ofText_join rootText properName_directoryName
  have fileRoute := Route.ofText_join (Path.join_ne_empty root properName_directoryName)
    properName_typesFile
  rw [dirRoute] at fileRoute
  have sameStart : t.start (Route.ofText (Artifact.typesPath root)) = t.start (Route.ofText root) := by
    rw [Artifact.typesPath, fileRoute]
    rfl
  refine ⟨by rw [sameStart]; exact walkRoot, ?_, ?_⟩ <;> rw [Artifact.typesPath, fileRoute]
  simp

theorem resolve_typesPath (noLinks : t.NoLinks) (resolved : t.resolve root = .ok R)
    (found : t.resolve (Artifact.typesPath root) = .ok A) :
    A = R ++ [Artifact.directoryName, "index.d.ts"] := by
  obtain ⟨toRoot, steps, -⟩ := typesPath_route resolved
  obtain ⟨-, walk, -⟩ := follow_of_resolve found
  -- the walk to the file reaches the root first, then goes down by two names
  rw [steps, follow_append_eq_ok noLinks] at walk
  obtain ⟨m, toRoot', down⟩ := walk
  rw [toRoot, Except.ok.injEq] at toRoot'
  subst toRoot'
  exact follow_downs_eq_ok noLinks
    (show t.follow R ([Artifact.directoryName, "index.d.ts"].map Step.down) = .ok A from down)

/-- Where the declaration file can be read and its directory made again, it can be written. -/
theorem writeFile_typesPath {text : String} (noLinks : t.NoLinks) (resolved : t.resolve root = .ok R)
    (read : t.readText (Artifact.typesPath root) = .ok text) (bytes : ByteArray) :
    ∃ t', t.writeFile (Artifact.typesPath root) bytes = .ok t' := by
  unfold readText at read
  cases readBytes : t.readBytes (Artifact.typesPath root) with
  | error e => simp [readBytes] at read
  | ok b =>
    obtain ⟨A, found, atA⟩ := readBytes_eq_ok_iff.mp readBytes
    obtain ⟨toRoot, steps, fileOnly⟩ := typesPath_route resolved
    obtain ⟨notEmpty, walk, -⟩ := follow_of_resolve found
    -- the route reaches `.keywords`, a directory, then the file in it
    rw [steps, ← List.singleton_append, ← List.append_assoc, follow_append_eq_ok noLinks] at walk
    obtain ⟨D, toD, down⟩ := walk
    obtain ⟨cs, atD, -, atFile⟩ := (follow_cons_eq_ok noLinks).mp down
    rw [follow_nil, Except.ok.injEq] at atFile
    subst atFile
    have named : t.parentAndName (Artifact.typesPath root) = .ok (D, some "index.d.ts") :=
      parentAndName_of_follow notEmpty (by rw [steps, List.append_assoc]; rfl) toD
    exact ⟨_, writeFile_of_parentAndName noLinks named (nodeAt_eq_some_dir.mpr ⟨cs, atD⟩)
      (by simp [nodeAt, atA]) fileOnly⟩

end Files.FileTree

theorem readText_writeTypes {t : FileTree} {root path : String} {ks : KeywordSet}
    (written : (writeTypes t root ks).2 = .ok path) :
    (writeTypes t root ks).1.readText (Artifact.typesPath root) = .ok (Artifact.renderTypes ks) := by
  unfold writeTypes at written ⊢
  cases made : t.createDirAll (Path.join root Artifact.directoryName) with
  | error e => simp [made] at written
  | ok t₁ =>
    cases wrote : t₁.writeFile (Artifact.typesPath root) (Artifact.renderTypes ks).toUTF8 with
    | error e => simp only [made, wrote, reduceCtorEq] at written
    | ok t₂ =>
      simp only [made, wrote]
      rw [FileTree.readText, FileTree.readBytes_writeFile wrote]
      simp only [fromUTF8?_toUTF8]

namespace Session

/-! ## The declaration file in step with the session -/

/-- The declaration file holds the declarations of the session's keywords. -/
def Synced (s : Session) (t : FileTree) : Prop :=
  t.readText (Artifact.typesPath s.root) = .ok (Artifact.renderTypes s.keywords)

instance (s : Session) (t : FileTree) : Decidable (s.Synced t) :=
  inferInstanceAs (Decidable (_ = _))

variable {s : Session} {t t' : FileTree} {p : String} {R : Location}

/-- What taking in a change can do: pass over it or find nothing new, changing nothing and
answering false; or add keywords and write their declaration file, answering true when the
write succeeds. -/
theorem handleChange_cases (s : Session) (t : FileTree) (p : String) :
    ((s.handleChange t p).1 = s ∧ (s.handleChange t p).2.tree = t ∧
        (s.handleChange t p).2.result = .ok false) ∨
      ∃ ks : KeywordSet, ks.size ≠ s.keywords.size ∧ (∀ k ∈ s.keywords, k ∈ ks) ∧
        (s.handleChange t p).1 = { s with keywords := ks } ∧
        (s.handleChange t p).2.tree = (writeTypes t s.root ks).1 ∧
        (s.handleChange t p).2.result = (writeTypes t s.root ks).2.map fun _ => true := by
  unfold handleChange
  -- passed over, unreadable, or bringing nothing new; otherwise the keywords grow
  split
  · exact .inl ⟨rfl, rfl, rfl⟩
  · split
    · exact .inl ⟨rfl, rfl, rfl⟩
    · dsimp only
      split
      · exact .inl ⟨rfl, rfl, rfl⟩
      · rename_i grew
        refine .inr ⟨_, grew, fun k known => KeywordSet.mem_union.mpr (.inl known), ?_⟩
        rcases written : writeTypes t s.root (s.keywords.union (discover s.targets p _).keywords)
          with ⟨t', _ | _⟩ <;> simp [Except.map]

theorem handleChange_of_ok_false (answered : (s.handleChange t p).2.result = .ok false) :
    (s.handleChange t p).1 = s ∧ (s.handleChange t p).2.tree = t := by
  rcases handleChange_cases s t p with ⟨same, unchanged, -⟩ | ⟨ks, -, -, -, -, result⟩
  · exact ⟨same, unchanged⟩
  · -- a write answers true or fails
    rw [result] at answered
    cases written : (writeTypes t s.root ks).2 <;> simp [written, Except.map] at answered

/-- A change whose write failed has already added its keywords. -/
theorem handleChange_of_error {f : Failure} (failed : (s.handleChange t p).2.result = .error f) :
    (s.handleChange t p).1.keywords.size ≠ s.keywords.size ∧
      ∀ k ∈ s.keywords, k ∈ (s.handleChange t p).1.keywords := by
  rcases handleChange_cases s t p with ⟨-, -, result⟩ | ⟨ks, grew, more, session, -, -⟩
  · rw [result] at failed
    cases failed
  · rw [session]
    exact ⟨grew, more⟩

/-- A change answered without an error keeps the declaration file in step with the session. -/
theorem Synced.handleChange {b : Bool} (synced : s.Synced t)
    (answered : (s.handleChange t p).2.result = .ok b) :
    (s.handleChange t p).1.Synced (s.handleChange t p).2.tree := by
  rcases handleChange_cases s t p with ⟨same, unchanged, -⟩ | ⟨ks, -, -, session, tree, result⟩
  · rw [same, unchanged]
    exact synced
  · -- the keywords grew, so the change wrote them, and the write succeeded
    rw [result] at answered
    cases written : (writeTypes t s.root ks).2 with
    | error f => simp [written, Except.map] at answered
    | ok path =>
      rw [session, tree]
      exact readText_writeTypes written

/-! ## A run of edits -/

/-- The declaration file is in step with the session, in `.keywords` inside the root's directory
at `R`, and making that directory again changes nothing; the tree has no links. -/
structure ArtifactReady (s : Session) (t : FileTree) (R : Location) : Prop where
  resolved : t.resolve s.root = .ok R
  synced : s.Synced t
  remade : t.createDirAll (Path.join s.root Artifact.directoryName) = .ok t
  noLinks : t.NoLinks

/-- Every change of a run of edits is answered without an error. -/
def RunsWithoutError (s : Session) (t : FileTree) : List (Location × SourceEdit) → Prop
  | [] => True
  | (l, e) :: rest => (s.handleChange (e.apply t l) l.text).2.result.isOk = true ∧
      (s.afterEdit t l e).1.RunsWithoutError (s.afterEdit t l e).2 rest

namespace ArtifactReady

theorem isDir (ready : s.ArtifactReady t R) : t.nodeAt R = some .dir := by
  -- the declaration file lies below the root, and only a directory has anything below it
  have read := ready.synced
  unfold Synced FileTree.readText at read
  cases bytes : t.readBytes (Artifact.typesPath s.root) with
  | error e => simp [bytes] at read
  | ok b =>
    obtain ⟨A, found, atA⟩ := FileTree.readBytes_eq_ok_iff.mp bytes
    rw [FileTree.resolve_typesPath ready.noLinks ready.resolved found] at atA
    have below : (t.nodeAt (R ++ Artifact.directoryName :: ["index.d.ts"])).isSome := by
      simp [FileTree.nodeAt, atA]
    exact FileTree.nodeAt_dir_of_below below

/-- A change that keeps every directory keeps the declaration file ready for a session of the
same root that it is in step with. -/
theorem of_dirs_kept {s' : Session} (ready : s.ArtifactReady t R) (root : s'.root = s.root)
    (noLinks' : t'.NoLinks) (kept : ∀ x, t.nodeAt x = some .dir → t'.nodeAt x = some .dir)
    (cwd : t'.cwd = t.cwd) (synced : s'.Synced t') : s'.ArtifactReady t' R := by
  have isDir := ready.isDir
  obtain ⟨resolved, -, remade, noLinks⟩ := ready
  -- the root and `.keywords` are found again where they were, as directories
  rw [← root] at resolved remade
  exact ⟨FileTree.resolve_of_dirs_kept noLinks noLinks' kept cwd resolved isDir, synced,
    FileTree.createDirAll_of_dirs_kept noLinks noLinks' remade kept cwd, noLinks'⟩

theorem sourceEdit (ready : s.ArtifactReady t R) {l : Location} (proper : l.Proper)
    (away : l ≠ R ++ [Artifact.directoryName, "index.d.ts"]) (e : SourceEdit) :
    s.ArtifactReady (e.apply t l) R := by
  -- the edit changes one place, and the declaration file is not there
  have edited := e.changesOnlyAt ready.noLinks proper
  have noLinks' := e.noLinks (l := l) ready.noLinks
  refine ready.of_dirs_kept rfl noLinks' edited.keepsDirs edited.cwd ?_
  exact FileTree.readText_of_changesOnlyAt ready.noLinks noLinks' edited ready.synced
    fun A found atEdit => away (atEdit ▸ FileTree.resolve_typesPath ready.noLinks ready.resolved found)

/-- Where the declaration file is ready, every write of it succeeds. -/
theorem writeTypes (ready : s.ArtifactReady t R) (ks : KeywordSet) :
    ∃ path, (KeyIntern.writeTypes t s.root ks).2 = .ok path := by
  obtain ⟨t', wrote⟩ := FileTree.writeFile_typesPath ready.noLinks ready.resolved ready.synced
    (Artifact.renderTypes ks).toUTF8
  -- `.keywords` is there already, so making it again changes nothing before the write
  exact ⟨Artifact.typesPath s.root, by simp only [KeyIntern.writeTypes, ready.remade, wrote]⟩

/-- Taking in a change where the declaration file is ready answers without an error and leaves
it ready. -/
theorem handleChange (ready : s.ArtifactReady t R) :
    (s.handleChange t p).2.result.isOk = true ∧
      (s.handleChange t p).1.ArtifactReady (s.handleChange t p).2.tree R := by
  rcases handleChange_cases s t p with ⟨same, unchanged, result⟩ | ⟨ks, -, -, session, tree, result⟩
  · rw [same, unchanged, result]
    exact ⟨rfl, ready⟩
  · -- the write succeeds, and leaves every directory where it was
    obtain ⟨path, written⟩ := ready.writeTypes ks
    have changes : t.ChangesOnlyAt (KeyIntern.writeTypes t s.root ks).1
        (R ++ [Artifact.directoryName, "index.d.ts"]) :=
      FileTree.writeTypes_changesOnlyAt ready.noLinks ready.resolved
    rw [result, written, session, tree]
    exact ⟨rfl, ready.of_dirs_kept rfl (FileTree.writeTypes_noLinks ready.noLinks) changes.keepsDirs
      changes.cwd (readText_writeTypes written)⟩

theorem afterEdit (ready : s.ArtifactReady t R) {l : Location} (proper : l.Proper)
    (away : l ≠ R ++ [Artifact.directoryName, "index.d.ts"]) (e : SourceEdit) :
    (s.handleChange (e.apply t l) l.text).2.result.isOk = true ∧
      (s.afterEdit t l e).1.ArtifactReady (s.afterEdit t l e).2 R :=
  (ready.sourceEdit proper away e).handleChange

/-- A run of such edits, each taken in, is answered without an error throughout and keeps the
declaration file ready. -/
theorem afterEdits (ready : s.ArtifactReady t R) (edits : List (Location × SourceEdit))
    (away : ∀ x ∈ edits, x.1.Proper ∧ x.1 ≠ R ++ [Artifact.directoryName, "index.d.ts"]) :
    s.RunsWithoutError t edits ∧ (s.afterEdits t edits).1.ArtifactReady (s.afterEdits t edits).2 R := by
  -- `ArtifactReady` carries from each edit to the next
  induction edits generalizing s t with
  | nil => exact ⟨trivial, ready⟩
  | cons edit rest ih =>
    obtain ⟨l, e⟩ := edit
    obtain ⟨proper, notTypes⟩ := away (l, e) List.mem_cons_self
    obtain ⟨answered, ready'⟩ := ready.afterEdit proper notTypes e
    obtain ⟨runs, readyAfter⟩ := ih ready' fun x inRest => away x (List.mem_cons_of_mem _ inRest)
    rw [afterEdits_cons]
    exact ⟨⟨answered, runs⟩, readyAfter⟩

theorem of_writeTypes {path : String} (noLinks : t.NoLinks) (resolved : t.resolve s.root = .ok R)
    (written : (KeyIntern.writeTypes t s.root s.keywords).2 = .ok path) :
    s.ArtifactReady (KeyIntern.writeTypes t s.root s.keywords).1 R := by
  have changes : t.ChangesOnlyAt (KeyIntern.writeTypes t s.root s.keywords).1
      (R ++ [Artifact.directoryName, "index.d.ts"]) :=
    FileTree.writeTypes_changesOnlyAt noLinks resolved
  have noLinks' : (KeyIntern.writeTypes t s.root s.keywords).1.NoLinks :=
    FileTree.writeTypes_noLinks noLinks
  have isDir := FileTree.nodeAt_root_of_writeTypes noLinks resolved written
  refine ⟨FileTree.resolve_of_dirs_kept noLinks noLinks' changes.keepsDirs changes.cwd resolved isDir,
    readText_writeTypes written, ?_, noLinks'⟩
  -- the directory was made before the file went in, and writing the file keeps it
  unfold KeyIntern.writeTypes at written ⊢
  cases made : t.createDirAll (Path.join s.root Artifact.directoryName) with
  | error e => simp [made] at written
  | ok t₁ =>
    cases wrote : t₁.writeFile (Artifact.typesPath s.root) (Artifact.renderTypes s.keywords).toUTF8 with
    | error e => simp only [made, wrote, reduceCtorEq] at written
    | ok t₂ =>
      simp only [made, wrote]
      exact FileTree.createDirAll_after_writeFile noLinks made wrote

end ArtifactReady

/-- A build that succeeds in a tree without links leaves the declaration file ready. -/
theorem artifactReady_build (noLinks : t.NoLinks) (resolved : t.resolve s.root = .ok R)
    (built : (s.build t).2.result = .ok ()) : (s.build t).1.ArtifactReady (s.build t).2.tree R := by
  obtain ⟨files, found, path, -, -, written, session, tree⟩ := build_eq_ok built
  rw [session, tree]
  exact ArtifactReady.of_writeTypes (s := { s with keywords := found }) noLinks resolved written

end Session

/-! ## The declaration file follows the session -/

/-- After a build that succeeds in a tree without links, along any run of edits of source files
other than the declaration file, each taken in, every change is answered without an error and the
declaration file holds the declarations of the session's keywords. Each answer without an error
keeps it so. A failed write breaks it for good: an answer of false leaves the session and the tree
as they were, while a change whose write failed has already added its keywords. -/
theorem artifact_follows_session {t : FileTree} {root : String} {config : Config}
    {ignoredDirs : List String} {dev : Bool} {R : Location} (noLinks : t.NoLinks)
    (resolved : t.resolve root = .ok R)
    (built : ((Session.start t root config ignoredDirs dev).build t).2.result = .ok ())
    (edits : List (Location × SourceEdit))
    (away : ∀ x ∈ edits, x.1.Proper ∧ x.1 ≠ R ++ [Artifact.directoryName, "index.d.ts"]) :
    let session := (Session.start t root config ignoredDirs dev).build t
    let after := session.1.afterEdits session.2.tree edits
    (session.1.RunsWithoutError session.2.tree edits ∧ after.1.Synced after.2) ∧
      (∀ (s : Session) (t' : FileTree) (p : String) (b : Bool), s.Synced t' →
        (s.handleChange t' p).2.result = .ok b →
          (s.handleChange t' p).1.Synced (s.handleChange t' p).2.tree) ∧
      ∀ (s : Session) (t' : FileTree) (p : String),
        ((s.handleChange t' p).2.result = .ok false →
          (s.handleChange t' p).1 = s ∧ (s.handleChange t' p).2.tree = t') ∧
        ∀ f, (s.handleChange t' p).2.result = .error f →
          (s.handleChange t' p).1.keywords.size ≠ s.keywords.size ∧
            ∀ k ∈ s.keywords, k ∈ (s.handleChange t' p).1.keywords := by
  intro session after
  -- the build leaves the file ready, and the run keeps it so
  have ready := Session.artifactReady_build noLinks resolved built
  obtain ⟨runs, readyAfter⟩ := ready.afterEdits edits away
  exact ⟨⟨runs, readyAfter.synced⟩,
    fun _ _ _ _ synced answered => synced.handleChange answered,
    fun _ _ _ => ⟨Session.handleChange_of_ok_false, fun _ failed => Session.handleChange_of_error failed⟩⟩

/-- A project of one source file that imports nothing. -/
def quietProject : FileTree :=
  ⟨[("r", .dir [("src", .dir [("a.ts", .file "export \x7b\x7d;\n".toUTF8)])])], []⟩

/-- The source file comes to import keyword "k". -/
def importKeywordEdit : List (Location × SourceEdit) :=
  [(["r", "src", "a.ts"], .write "import \x7b k \x7d from 'virtual:keywords';\n".toUTF8)]

theorem artifact_follows_session_import_keyword :
    quietProject.NoLinks ∧ quietProject.resolve "/r" = .ok ["r"] ∧
      ((Session.start quietProject "/r" {} [] false).build quietProject).2.result = .ok () ∧
      (∀ x ∈ importKeywordEdit, x.1.Proper ∧ x.1 ≠ ["r"] ++ [Artifact.directoryName, "index.d.ts"]) ∧
      let session := (Session.start quietProject "/r" {} [] false).build quietProject
      let after := session.1.afterEdits session.2.tree importKeywordEdit
      (session.1.RunsWithoutError session.2.tree importKeywordEdit ∧ after.1.Synced after.2) ∧
        (∀ (s : Session) (t' : FileTree) (p : String) (b : Bool), s.Synced t' →
          (s.handleChange t' p).2.result = .ok b →
            (s.handleChange t' p).1.Synced (s.handleChange t' p).2.tree) ∧
        ∀ (s : Session) (t' : FileTree) (p : String),
          ((s.handleChange t' p).2.result = .ok false →
            (s.handleChange t' p).1 = s ∧ (s.handleChange t' p).2.tree = t') ∧
          ∀ f, (s.handleChange t' p).2.result = .error f →
            (s.handleChange t' p).1.keywords.size ≠ s.keywords.size ∧
              ∀ k ∈ s.keywords, k ∈ (s.handleChange t' p).1.keywords := by
  have noLinks : quietProject.NoLinks := (FileTree.WellFormed.of_isWellFormed (by decide)).noLinks
  have resolved : quietProject.resolve "/r" = .ok ["r"] := by decide
  have built : ((Session.start quietProject "/r" {} [] false).build quietProject).2.result = .ok () := by
    have succeeded :
        ((Session.start quietProject "/r" {} [] false).build quietProject).2.result.toOption = some () := by
      decide +kernel
    generalize ((Session.start quietProject "/r" {} [] false).build quietProject).2.result = result
      at succeeded
    cases result with
    | error e => cases succeeded
    | ok u => rfl
  have away : ∀ x ∈ importKeywordEdit, x.1.Proper ∧ x.1 ≠ ["r"] ++ [Artifact.directoryName, "index.d.ts"] := by
    decide
  exact ⟨noLinks, resolved, built, away,
    artifact_follows_session noLinks resolved built importKeywordEdit away⟩

/-- A write of the declaration file fails while a directory stands in its place; the keyword the
change brought stays. Once the file is back as it was, the next change brings nothing new and is
answered with false, and the file lacks the keyword for good. -/
theorem failed_write_leaves_stale_artifact :
    let built := (Session.start quietProject "/r" {} [] false).build quietProject
    let edited := importKeywordEdit.foldl (fun t x => x.2.apply t x.1) built.2.tree
    let failed := built.1.handleChange
      (edited.modifyDir ["r", Artifact.directoryName] (setChild "index.d.ts" (.dir []))) "/r/src/a.ts"
    let restored := failed.2.tree.modifyDir ["r", Artifact.directoryName]
      (setChild "index.d.ts" (.file (Artifact.renderTypes KeywordSet.empty).toUTF8))
    let retried := failed.1.handleChange restored "/r/src/a.ts"
    built.1.Synced built.2.tree ∧ failed.2.result.isOk = false ∧ retried.2.result.toOption = some false ∧
      retried.1.keywords.toList = ["k"] ∧ ¬ retried.1.Synced retried.2.tree := by
  decide +kernel

end KeyIntern
