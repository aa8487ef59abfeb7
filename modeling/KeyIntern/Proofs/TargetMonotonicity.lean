import KeyIntern.Proofs.Discovery
import KeyIntern.Proofs.SessionCoverage

/-! # More target modules never lose a keyword

Adding modules to the targets can only add keywords. Every stage of discovery grows with the
targets: the mention check accepts every text it accepted before, a target import stays one, so a
namespace alias stays an alias, and a tree that reaches a keyword through an alias still does.
The script a text is read into does not depend on the targets at all. A scan unions what its
files give, and which files it collects does not depend on the targets either.

Each relation of `Discovery` gets its `mono` lemma, constructor by constructor. Main statement:
`more_targets_keep_keywords`, for one file and for a whole scan.
-/

namespace KeyIntern

open Script Files

section Growth

variable {targets targets' : Targets} {program : Program} {k : String}

theorem Targets.mayReference_mono (more : ∀ n ∈ targets.names, n ∈ targets'.names) {text : String}
    (mentions : targets.mayReference text = true) : targets'.mayReference text = true := by
  simp only [Targets.mayReference, List.any_eq_true] at mentions ⊢
  obtain ⟨n, named, occurs⟩ := mentions
  exact ⟨n, more n named, occurs⟩

theorem Targets.contains_mono (more : ∀ n ∈ targets.names, n ∈ targets'.names) {source : String}
    (target : targets.contains source = true) : targets'.contains source = true := by
  simp only [Targets.contains, List.contains_iff_mem] at target ⊢
  exact more source target

theorem TargetImport.mono (more : ∀ n ∈ targets.names, n ∈ targets'.names) {decl : ImportDecl}
    (target : TargetImport targets program decl) : TargetImport targets' program decl :=
  ⟨target.1, Targets.contains_mono more target.2⟩

theorem IsNamespaceAlias.mono (more : ∀ n ∈ targets.names, n ∈ targets'.names) {name : String}
    (named : IsNamespaceAlias targets program name) : IsNamespaceAlias targets' program name := by
  obtain ⟨decl, target, binding⟩ := named
  exact ⟨decl, target.mono more, binding⟩

theorem AliasUse.mono {isAlias isAlias' : String → Prop} (implies : ∀ a, isAlias a → isAlias' a)
    {u : Term} (use : AliasUse isAlias u k) : AliasUse isAlias' u k := by
  cases use with
  | member named => exact .member (implies _ named)
  | qualified named => exact .qualified (implies _ named)

theorem Referenced.mono (more : ∀ n ∈ targets.names, n ∈ targets'.names)
    (referenced : Referenced targets program k) : Referenced targets' program k := by
  cases referenced with
  | byImport target binds => exact .byImport (target.mono more) binds
  | throughAlias statement inside use =>
    exact .throughAlias statement inside (use.mono fun _ named => named.mono more)

/-- Reading a text with more targets finds every keyword it found before. -/
theorem readKeywords_mono (more : ∀ n ∈ targets.names, n ∈ targets'.names) (path text : String) :
    ∀ k ∈ readKeywords targets path text, k ∈ readKeywords targets' path text := by
  intro k found
  unfold readKeywords at found ⊢
  -- the script read from the text is the same for both target lists
  cases parsed : parse (Dialect.ofPath path) (scriptSource path text) with
  | none =>
    rw [parsed] at found
    exact absurd found (KeywordSet.not_mem_empty k)
  | some program =>
    rw [parsed] at found
    exact mem_programKeywords.mpr ((mem_programKeywords.mp found).mono more)

/-- Discovery with more targets finds every keyword it found before. -/
theorem discover_keywords_mono (more : ∀ n ∈ targets.names, n ∈ targets'.names) (path text : String) :
    ∀ k ∈ (discover targets path text).keywords, k ∈ (discover targets' path text).keywords := by
  intro k found
  cases mentions : targets.mayReference text
  case false =>
    rw [discover_keywords_of_not_mayReference mentions] at found
    exact absurd found (KeywordSet.not_mem_empty k)
  case true =>
    rw [discover_keywords_of_mayReference mentions] at found
    rw [discover_keywords_of_mayReference (Targets.mayReference_mono more mentions)]
    exact readKeywords_mono more path text k found

end Growth

/-- The targets of a module list grow with it. -/
theorem Targets.ofList_names_mono {modules modules' : List String} (more : ∀ m ∈ modules, m ∈ modules') :
    ∀ n ∈ (Targets.ofList modules).names, n ∈ (Targets.ofList modules').names := by
  intro n named
  rcases Targets.mem_names.mp named with virtual | listed
  · exact Targets.mem_names.mpr (.inl virtual)
  · exact Targets.mem_names.mpr (.inr (more n listed))

/-- A scan with more modules succeeds whenever one with fewer does, and finds all it found. -/
theorem scanProject_keywords_mono {t : FileTree} {root : String} {ignoredDirs : List String}
    {config config' : Config} (more : ∀ m ∈ config.additionalModules, m ∈ config'.additionalModules)
    (r : ScanResult × List Report) (scanned : scanProject t root ignoredDirs config = .ok r) :
    ∃ r', scanProject t root ignoredDirs config' = .ok r' ∧ ∀ k ∈ r.1.keywords, k ∈ r'.1.keywords := by
  rw [scanProject_eq] at scanned ⊢
  -- the walk does not read the configuration, so both scans see the same files
  cases collected : collectFiles t root ignoredDirs with
  | error f =>
    rw [collected] at scanned
    cases scanned
  | ok files =>
    rw [collected, Except.map, Except.ok.injEq] at scanned
    subst scanned
    refine ⟨_, rfl, fun k found => ?_⟩
    obtain ⟨f, member, ks, scan, inKs⟩ := (mem_aggregate_keywords _ _ _ k).mp found
    obtain ⟨text, read, rfl⟩ := scanKeywords_eq_ok_iff.mp scan
    refine (mem_aggregate_keywords _ _ _ k).mpr ⟨f, member, _, scanKeywords_eq_ok_iff.mpr ⟨text, read, rfl⟩, ?_⟩
    exact discover_keywords_mono (Targets.ofList_names_mono more) f text k inKs

/-- Adding modules to the targets never loses a keyword: discovery in any file finds all it found
with fewer modules, and so does a scan of any project, which still succeeds. -/
theorem more_targets_keep_keywords {modules modules' : List String} (more : ∀ m ∈ modules, m ∈ modules') :
    (∀ path text, ∀ k ∈ (discover (Targets.ofList modules) path text).keywords,
        k ∈ (discover (Targets.ofList modules') path text).keywords) ∧
      ∀ (t : FileTree) (root : String) (ignoredDirs : List String) (r : ScanResult × List Report),
        scanProject t root ignoredDirs ⟨modules⟩ = .ok r →
          ∃ r', scanProject t root ignoredDirs ⟨modules'⟩ = .ok r' ∧ ∀ k ∈ r.1.keywords, k ∈ r'.1.keywords :=
  ⟨discover_keywords_mono (Targets.ofList_names_mono more),
    fun _ _ _ r scanned => scanProject_keywords_mono more r scanned⟩

theorem more_targets_keep_keywords_added_module :
    (∀ m ∈ ["@app/keys"], m ∈ ["@app/keys", "@app/more"]) ∧
      (∀ path text, ∀ k ∈ (discover (Targets.ofList ["@app/keys"]) path text).keywords,
          k ∈ (discover (Targets.ofList ["@app/keys", "@app/more"]) path text).keywords) ∧
        ∀ (t : FileTree) (root : String) (ignoredDirs : List String) (r : ScanResult × List Report),
          scanProject t root ignoredDirs ⟨["@app/keys"]⟩ = .ok r →
            ∃ r', scanProject t root ignoredDirs ⟨["@app/keys", "@app/more"]⟩ = .ok r' ∧
              ∀ k ∈ r.1.keywords, k ∈ r'.1.keywords :=
  ⟨by decide, more_targets_keep_keywords (by decide)⟩

end KeyIntern
