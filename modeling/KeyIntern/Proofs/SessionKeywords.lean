import KeyIntern.Proofs.ArtifactSync

/-! # The keywords of a session between full builds

A host build tool makes two kinds of call on a session: full builds, and changes of single files.
A build that succeeds replaces the keywords by what the full scan found, and one that fails keeps
them. A change of a file that the session takes in (a candidate, not excluded, and readable)
unions the keywords of its text into the set, and any other change leaves the set alone. So
after the last build that succeeded (or from the start, when none did) the keywords are the
scan's keywords together with those of every change taken in since, each read from the project
as it was at that call: whatever the calls answered, in whatever order they came
(`keywords_since_last_build`). A change the session takes in is answered false exactly when it
added nothing, and true only when it added keywords and the declaration file now holds them.

The run lemma is `mem_afterCalls_keywords`, by induction on the calls over the step lemma
`mem_afterCall_keywords`; calls change nothing but the keywords (`afterCall_settings`), so what a
change brings is judged by the settings the session started with.
-/

namespace KeyIntern

open Files

/-! ## Growing keyword sets -/

namespace KeywordSet

/-- A set that holds another and is of another size holds a keyword the other lacks. -/
theorem exists_mem_not_mem_of_size_ne {a b : KeywordSet} (sub : ∀ k ∈ a, k ∈ b)
    (grew : b.size ≠ a.size) : ∃ k ∈ b, k ∉ a := by
  by_contra none
  have same : a = b := ext fun k => ⟨sub k, fun inB => by_contra fun notInA => none ⟨k, inB, notInA⟩⟩
  exact grew (same ▸ rfl)

end KeywordSet

namespace Session

/-! ## Calls on a session -/

/-- A call a host build tool makes on a session. -/
inductive Call where
  | build
  | change (path : String)

/-- The session after a call, made while the project is the tree `t`. -/
def afterCall (s : Session) (t : FileTree) : Call → Session
  | .build => (s.build t).1
  | .change p => (s.handleChange t p).1

/-- The session after a run of calls, each made on the tree the project is at that moment. -/
def afterCalls (s : Session) (calls : List (FileTree × Call)) : Session :=
  calls.foldl (fun now call => now.afterCall call.1 call.2) s

/-- A change of the file at `p` that the session takes in brings keyword `k`: the file has a
candidate extension, is not excluded, can be read, and its text references `k`. -/
def Brings (s : Session) (t : FileTree) (p k : String) : Prop :=
  Script.isCandidate p = true ∧ s.isExcluded t p = false ∧
    ∃ text, t.readText p = .ok text ∧ k ∈ (discover s.targets p text).keywords

/-- The answer to a change tells the truth: false exactly when the keywords stayed as they were,
and true only when they grew and the declaration file holds the grown set. -/
def AnswersTruly (s : Session) (t : FileTree) (p : String) : Prop :=
  ((s.handleChange t p).2.result = .ok false ↔ (s.handleChange t p).1.keywords = s.keywords) ∧
    ((s.handleChange t p).2.result = .ok true →
      (∀ k ∈ s.keywords, k ∈ (s.handleChange t p).1.keywords) ∧
      (∃ k ∈ (s.handleChange t p).1.keywords, k ∉ s.keywords) ∧
      (s.handleChange t p).1.Synced (s.handleChange t p).2.tree)

variable {s : Session} {t : FileTree} {p k : String}

theorem afterCalls_nil (s : Session) : s.afterCalls [] = s := rfl

theorem afterCalls_cons (s : Session) (t : FileTree) (c : Call) (rest : List (FileTree × Call)) :
    s.afterCalls ((t, c) :: rest) = (s.afterCall t c).afterCalls rest := rfl

theorem afterCalls_append (s : Session) (first rest : List (FileTree × Call)) :
    s.afterCalls (first ++ rest) = (s.afterCalls first).afterCalls rest := by
  simp only [afterCalls, List.foldl_append]

/-- What a change brings depends on the session's settings, not on its keywords. -/
@[simp] theorem brings_withKeywords (ks : KeywordSet) :
    ({ s with keywords := ks } : Session).Brings t p k ↔ s.Brings t p k := Iff.rfl

/-! ## Builds -/

theorem build_keywords_of_ok {found : KeywordSet}
    (built : (generateTypes t s.root s.ignoredDirs s.config).result = .ok found) :
    (s.build t).1 = { s with keywords := found } := by
  simp [build, built]

theorem build_of_not_ok (failed : (generateTypes t s.root s.ignoredDirs s.config).result.isOk = false) :
    (s.build t).1 = s := by
  cases result : (generateTypes t s.root s.ignoredDirs s.config).result with
  | ok found => simp [result, Except.isOk, Except.toBool] at failed
  | error f => simp [build, result]

/-- A call sets the keywords and nothing else. -/
theorem afterCall_settings (s : Session) (t : FileTree) (c : Call) :
    ∃ ks, s.afterCall t c = { s with keywords := ks } := by
  cases c with
  | build =>
    cases result : (generateTypes t s.root s.ignoredDirs s.config).result with
    | ok found => exact ⟨found, build_keywords_of_ok result⟩
    | error f => exact ⟨s.keywords, build_of_not_ok (by simp [result, Except.isOk, Except.toBool])⟩
  | change p =>
    obtain ⟨ks, settings, -⟩ := handleChange_shape s t p
    exact ⟨ks, settings⟩

theorem afterCalls_settings (s : Session) (calls : List (FileTree × Call)) :
    ∃ ks, s.afterCalls calls = { s with keywords := ks } := by
  induction calls generalizing s with
  | nil => exact ⟨s.keywords, rfl⟩
  | cons call rest ih =>
    obtain ⟨t, c⟩ := call
    obtain ⟨ks, step⟩ := afterCall_settings s t c
    obtain ⟨ks', run⟩ := ih (s.afterCall t c)
    exact ⟨ks', by rw [afterCalls_cons, run, step]⟩

/-! ## Changes -/

/-- A change the session passes over or cannot read leaves it as it was. -/
theorem handleChange_of_passed_over (passed : ¬ (Script.isCandidate p = true ∧ s.isExcluded t p = false) ∨
      ∃ e, t.readText p = .error e) :
    (s.handleChange t p).1 = s := by
  by_cases taken : Script.isCandidate p = true ∧ s.isExcluded t p = false
  · obtain ⟨e, unreadable⟩ := passed.resolve_left (not_not.mpr taken)
    simp [handleChange, taken.1, taken.2, unreadable]
  · have skipped : (!Script.isCandidate p || s.isExcluded t p) = true := by
      cases hc : Script.isCandidate p <;> cases he : s.isExcluded t p <;> simp_all
    simp [handleChange, skipped]

/-- Taking in a change unions in exactly the keywords it brings. -/
theorem mem_handleChange_keywords (s : Session) (t : FileTree) (p k : String) :
    k ∈ (s.handleChange t p).1.keywords ↔ k ∈ s.keywords ∨ s.Brings t p k := by
  by_cases taken : Script.isCandidate p = true ∧ s.isExcluded t p = false
  · obtain ⟨candidate, notExcluded⟩ := taken
    cases read : t.readText p with
    | error e =>
      rw [handleChange_of_passed_over (.inr ⟨e, read⟩)]
      simp [Brings, read]
    | ok text =>
      have brings : s.Brings t p k ↔ k ∈ (discover s.targets p text).keywords := by
        simp [Brings, candidate, notExcluded, read]
      rw [handleChange_keywords_of_read candidate notExcluded read, brings]
      split
      · -- the union is no larger: what the text references was there already
        rename_i same
        exact ⟨.inl, fun known => known.elim id (KeywordSet.mem_of_size_union same)⟩
      · exact KeywordSet.mem_union
  · rw [handleChange_of_passed_over (.inl taken)]
    simp only [Brings, iff_self_or]
    exact fun ⟨candidate, notExcluded, _⟩ => absurd ⟨candidate, notExcluded⟩ taken

theorem handleChange_ok_false_iff (s : Session) (t : FileTree) (p : String) :
    (s.handleChange t p).2.result = .ok false ↔ (s.handleChange t p).1.keywords = s.keywords := by
  rcases handleChange_cases s t p with ⟨same, -, answered⟩ | ⟨ks, grew, -, session, -, answered⟩
  · rw [same, answered]
    simp
  · -- the keywords grew, so they differ, and a write answers true or fails
    rw [session, answered]
    have differ : ks ≠ s.keywords := fun same => grew (same ▸ rfl)
    cases (writeTypes t s.root ks).2 <;> simp [Except.map, differ]

theorem handleChange_ok_true (answered : (s.handleChange t p).2.result = .ok true) :
    (∀ k ∈ s.keywords, k ∈ (s.handleChange t p).1.keywords) ∧
      (∃ k ∈ (s.handleChange t p).1.keywords, k ∉ s.keywords) ∧
      (s.handleChange t p).1.Synced (s.handleChange t p).2.tree := by
  rcases handleChange_cases s t p with ⟨-, -, result⟩ | ⟨ks, grew, more, session, tree, result⟩
  · rw [result] at answered
    cases answered
  · rw [result] at answered
    cases written : (writeTypes t s.root ks).2 with
    | error f => simp [written, Except.map] at answered
    | ok path =>
      -- the keywords grew and the write went through, so the file holds them
      rw [session, tree]
      exact ⟨more, KeywordSet.exists_mem_not_mem_of_size_ne more grew, readText_writeTypes written⟩

theorem answersTruly (s : Session) (t : FileTree) (p : String) : s.AnswersTruly t p :=
  ⟨handleChange_ok_false_iff s t p, handleChange_ok_true⟩

/-! ## Runs of calls -/

/-- A call that is no build that succeeds adds the keywords a change brings, and no others. -/
theorem mem_afterCall_keywords {c : Call}
    (quiet : c = .build → (generateTypes t s.root s.ignoredDirs s.config).result.isOk = false) :
    k ∈ (s.afterCall t c).keywords ↔ k ∈ s.keywords ∨ ∃ p, c = .change p ∧ s.Brings t p k := by
  cases c with
  | build => simp [afterCall, build_of_not_ok (quiet rfl)]
  | change p =>
    rw [afterCall, mem_handleChange_keywords]
    simp

/-- Along calls among which no build succeeds, the keywords are those the session had and those
each change taken in brought. -/
theorem mem_afterCalls_keywords (s : Session) (calls : List (FileTree × Call))
    (noneBuilt : ∀ t, (t, Call.build) ∈ calls →
      (generateTypes t s.root s.ignoredDirs s.config).result.isOk = false) (k : String) :
    k ∈ (s.afterCalls calls).keywords ↔
      k ∈ s.keywords ∨ ∃ t p, (t, Call.change p) ∈ calls ∧ s.Brings t p k := by
  induction calls generalizing s with
  | nil => simp [afterCalls_nil]
  | cons call rest ih =>
    obtain ⟨t, c⟩ := call
    obtain ⟨ks, step⟩ := afterCall_settings s t c
    have stepped := mem_afterCall_keywords (s := s) (t := t) (c := c) (k := k)
      fun isBuild => noneBuilt t (by simp [isBuild])
    rw [step] at stepped
    -- the rest runs from the stepped session, whose settings are the session's own
    have rested := ih { s with keywords := ks } fun t' inRest => noneBuilt t' (by simp [inRest])
    rw [afterCalls_cons, step, rested, stepped]
    simp only [brings_withKeywords, List.mem_cons, Prod.mk.injEq]
    constructor
    · rintro ((known | ⟨p, rfl, brings⟩) | ⟨t', p', inRest, brings⟩)
      · exact .inl known
      · exact .inr ⟨t, p, .inl ⟨rfl, rfl⟩, brings⟩
      · exact .inr ⟨t', p', .inr inRest, brings⟩
    · rintro (known | ⟨t', p', (⟨rfl, rfl⟩ | inRest), brings⟩)
      · exact .inl (.inl known)
      · exact .inl (.inr ⟨p', rfl, brings⟩)
      · exact .inr ⟨t', p', inRest, brings⟩

/-- Keywords are only added until a build succeeds. -/
theorem keywords_subset_afterCalls_append (s : Session) (calls more : List (FileTree × Call))
    (noneBuilt : ∀ t, (t, Call.build) ∈ calls ++ more →
      (generateTypes t s.root s.ignoredDirs s.config).result.isOk = false) :
    ∀ k ∈ (s.afterCalls calls).keywords, k ∈ (s.afterCalls (calls ++ more)).keywords := by
  intro k known
  have earlier := (mem_afterCalls_keywords s calls
    (fun t inCalls => noneBuilt t (List.mem_append_left more inCalls)) k).mp known
  rw [mem_afterCalls_keywords s (calls ++ more) noneBuilt]
  rcases earlier with old | ⟨t, p, inCalls, brings⟩
  · exact .inl old
  · exact .inr ⟨t, p, List.mem_append_left more inCalls, brings⟩

/-- Until a build succeeds, the keywords do not depend on the order of the calls. -/
theorem keywords_afterCalls_perm (s : Session) {calls reordered : List (FileTree × Call)}
    (perm : reordered.Perm calls)
    (noneBuilt : ∀ t, (t, Call.build) ∈ calls →
      (generateTypes t s.root s.ignoredDirs s.config).result.isOk = false) :
    (s.afterCalls reordered).keywords = (s.afterCalls calls).keywords := by
  apply KeywordSet.ext
  intro k
  rw [mem_afterCalls_keywords s reordered fun t inReordered => noneBuilt t (perm.mem_iff.mp inReordered),
    mem_afterCalls_keywords s calls noneBuilt]
  simp only [perm.mem_iff]

/-- From the start, the calls up to a last build that succeeded leave the settings as they were
and the keywords that build found; no calls leave the start's empty set. -/
theorem afterCalls_lastBuilt {t₀ : FileTree} {root : String} {config : Config}
    {ignoredDirs : List String} {dev : Bool} {before : List (FileTree × Call)} {K₀ : KeywordSet}
    (lastBuilt : (before = [] ∧ K₀ = KeywordSet.empty) ∨
      ∃ earlier t, before = earlier ++ [(t, .build)] ∧
        (generateTypes t root ignoredDirs config).result = .ok K₀) :
    (Session.start t₀ root config ignoredDirs dev).afterCalls before =
      { Session.start t₀ root config ignoredDirs dev with keywords := K₀ } := by
  rcases lastBuilt with ⟨rfl, rfl⟩ | ⟨earlier, t, rfl, built⟩
  · rfl
  · obtain ⟨ks, settled⟩ := afterCalls_settings (Session.start t₀ root config ignoredDirs dev) earlier
    -- the earlier calls only set the keywords, so the build runs with the settings of the start
    have rebuilt : (generateTypes t
        ({ Session.start t₀ root config ignoredDirs dev with keywords := ks } : Session).root
        ({ Session.start t₀ root config ignoredDirs dev with keywords := ks } : Session).ignoredDirs
        ({ Session.start t₀ root config ignoredDirs dev with keywords := ks } : Session).config).result =
          .ok K₀ := built
    rw [afterCalls_append, settled, afterCalls_cons, afterCalls_nil, afterCall,
      build_keywords_of_ok rebuilt]

end Session

/-! ## Between full builds -/

open Session in
/-- After the last build that succeeded, with `K₀` the keywords it found (or from the start, with
none, when no build succeeded), the session's keywords are `K₀` and the keywords of every change
taken in since, each read from the project as it was at that call. So they never shrink until a
build succeeds, and they do not depend on the order of the calls; and each change is answered
truly. -/
theorem keywords_since_last_build {t₀ : FileTree} {root : String} {config : Config}
    {ignoredDirs : List String} {dev : Bool} {before after : List (FileTree × Call)}
    {K₀ : KeywordSet}
    (lastBuilt : (before = [] ∧ K₀ = KeywordSet.empty) ∨
      ∃ earlier t, before = earlier ++ [(t, .build)] ∧
        (generateTypes t root ignoredDirs config).result = .ok K₀)
    (noneSince : ∀ t, (t, Call.build) ∈ after →
      (generateTypes t root ignoredDirs config).result.isOk = false) :
    let s₀ := Session.start t₀ root config ignoredDirs dev
    (∀ k, k ∈ (s₀.afterCalls (before ++ after)).keywords ↔
        k ∈ K₀ ∨ ∃ t p, (t, Call.change p) ∈ after ∧ s₀.Brings t p k) ∧
      (∀ more : List (FileTree × Call), (∀ t, (t, Call.build) ∈ more →
          (generateTypes t root ignoredDirs config).result.isOk = false) →
        ∀ k ∈ (s₀.afterCalls (before ++ after)).keywords,
          k ∈ (s₀.afterCalls (before ++ after ++ more)).keywords) ∧
      (∀ reordered : List (FileTree × Call), reordered.Perm after →
        (s₀.afterCalls (before ++ reordered)).keywords = (s₀.afterCalls (before ++ after)).keywords) ∧
      ∀ (s : Session) t p, s.AnswersTruly t p := by
  intro s₀
  -- the calls up to the last build leave the settings as they were and the keywords `K₀`
  have settled : s₀.afterCalls before = { s₀ with keywords := K₀ } := afterCalls_lastBuilt lastBuilt
  refine ⟨fun k => ?_, fun more quiet => ?_, fun reordered perm => ?_, answersTruly⟩
  · rw [afterCalls_append, settled, mem_afterCalls_keywords { s₀ with keywords := K₀ } after noneSince]
    simp only [brings_withKeywords]
  · rw [List.append_assoc]
    simp only [afterCalls_append s₀ before, settled]
    exact keywords_subset_afterCalls_append { s₀ with keywords := K₀ } after more
      fun t inCalls => (List.mem_append.mp inCalls).elim (noneSince t) (quiet t)
  · simp only [afterCalls_append s₀ before, settled]
    exact keywords_afterCalls_perm { s₀ with keywords := K₀ } perm noneSince

/-- A project whose one source file imports keyword `k`. -/
def keywordProject : FileTree :=
  ⟨[("r", .dir [("src", .dir [("a.ts", .file "import \x7b k \x7d from 'virtual:keywords';\n".toUTF8)])])], []⟩

/-- The same project once the source file imports `j` instead. -/
def switchedProject : FileTree :=
  ⟨[("r", .dir [("src", .dir [("a.ts", .file "import \x7b j \x7d from 'virtual:keywords';\n".toUTF8)])])], []⟩

/-- A build finds `k`; the file then comes to import `j` instead and is taken in; a later build
fails, the project having gone. -/
theorem keywords_since_last_build_switched_import :
    let before : List (FileTree × Session.Call) := [(keywordProject, .build)]
    let after : List (FileTree × Session.Call) :=
      [(switchedProject, .change "/r/src/a.ts"), (⟨[], []⟩, .build)]
    ((before = [] ∧ KeywordSet.ofList ["k"] = KeywordSet.empty) ∨
      ∃ earlier t, before = earlier ++ [(t, .build)] ∧
        (generateTypes t "/r" [] {}).result = .ok (KeywordSet.ofList ["k"])) ∧
    (∀ t, (t, Session.Call.build) ∈ after → (generateTypes t "/r" [] {}).result.isOk = false) ∧
    let s₀ := Session.start keywordProject "/r" {} [] false
    (∀ k, k ∈ (s₀.afterCalls (before ++ after)).keywords ↔
        k ∈ KeywordSet.ofList ["k"] ∨ ∃ t p, (t, Session.Call.change p) ∈ after ∧ s₀.Brings t p k) ∧
      (∀ more : List (FileTree × Session.Call), (∀ t, (t, Session.Call.build) ∈ more →
          (generateTypes t "/r" [] {}).result.isOk = false) →
        ∀ k ∈ (s₀.afterCalls (before ++ after)).keywords,
          k ∈ (s₀.afterCalls (before ++ after ++ more)).keywords) ∧
      (∀ reordered : List (FileTree × Session.Call), reordered.Perm after →
        (s₀.afterCalls (before ++ reordered)).keywords = (s₀.afterCalls (before ++ after)).keywords) ∧
      ∀ (s : Session) t p, s.AnswersTruly t p := by
  intro before after
  have built : (generateTypes keywordProject "/r" [] {}).result = .ok (KeywordSet.ofList ["k"]) := by
    have found : (generateTypes keywordProject "/r" [] {}).result.toOption.map KeywordSet.toList =
        some ["k"] := by
      decide +kernel
    generalize (generateTypes keywordProject "/r" [] {}).result = result at found
    cases result with
    | error f => cases found
    | ok ks =>
      obtain ⟨names, sorted⟩ := ks
      simp only [Except.toOption, Option.map_some, Option.some.injEq] at found
      subst found
      rfl
  have lastBuilt : (before = [] ∧ KeywordSet.ofList ["k"] = KeywordSet.empty) ∨
      ∃ earlier t, before = earlier ++ [(t, .build)] ∧
        (generateTypes t "/r" [] {}).result = .ok (KeywordSet.ofList ["k"]) :=
    .inr ⟨[], keywordProject, rfl, built⟩
  have noneSince : ∀ t, (t, Session.Call.build) ∈ after →
      (generateTypes t "/r" [] {}).result.isOk = false := by
    intro t inAfter
    simp only [after, List.mem_cons, Prod.mk.injEq, reduceCtorEq, and_false, List.not_mem_nil,
      or_false, false_or] at inAfter
    rw [inAfter.1]
    decide +kernel
  exact ⟨lastBuilt, noneSince, keywords_since_last_build lastBuilt noneSince⟩

end KeyIntern
