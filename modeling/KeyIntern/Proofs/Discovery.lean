import KeyIntern.Extract
import KeyIntern.Proofs.KeywordSetLaws

/-! # The keywords of a script, stated declaratively

Discovery finds the keywords of a script in two passes: one over the top-level imports of the
target modules, one over every tree of the script for member accesses and qualified type names
through a namespace alias. This module states the same set without the passes. A keyword is
referenced when a target import binds it (by default or by name), or when some tree anywhere in
the script is `K.name` with `K` the local name of a namespace import of a target.

The key lemma is `mem_aliasUses`: the alias pass finds a name exactly when some subtree is an
alias use of it, by induction over the reference tree. Main statement:
`mem_discover_iff_referenced`.

The last section is about the mention check that discovery runs before reading a text. The check
compares the raw text with the target names, while imports are matched on the decoded value of
their source string. `discover_eq_readKeywords_or_unspelled` says the check loses keywords only
where the script imports a target whose name the text does not spell, and
`escaped_source_skipped` that a source written with an escape is such an import.
-/

namespace KeyIntern

open Script

/-! ## Trees inside trees -/

/-- `Occurs u t`: the tree `u` is `t` itself or lies anywhere inside it. -/
inductive Occurs (u : Term) : Term → Prop where
  | here : Occurs u u
  | object {object : Term} {property : String} (inside : Occurs u object) :
      Occurs u (.member object property)
  | left {left : Term} {right : String} (inside : Occurs u left) :
      Occurs u (.qualified left right)
  | part {form : Form} {parts : List Term} {part : Term} (member : part ∈ parts)
      (inside : Occurs u part) : Occurs u (.node form parts)

theorem occurs_name_iff {u : Term} {id : String} : Occurs u (.name id) ↔ u = .name id := by
  constructor
  · intro occurs
    cases occurs
    rfl
  · rintro rfl
    exact .here

theorem occurs_importDecl_iff {u : Term} {decl : ImportDecl} :
    Occurs u (.importDecl decl) ↔ u = .importDecl decl := by
  constructor
  · intro occurs
    cases occurs
    rfl
  · rintro rfl
    exact .here

theorem occurs_member_iff {u object : Term} {property : String} :
    Occurs u (.member object property) ↔ u = .member object property ∨ Occurs u object := by
  constructor
  · intro occurs
    cases occurs with
    | here => exact .inl rfl
    | object inside => exact .inr inside
  · rintro (rfl | inside)
    · exact .here
    · exact .object inside

theorem occurs_qualified_iff {u left : Term} {right : String} :
    Occurs u (.qualified left right) ↔ u = .qualified left right ∨ Occurs u left := by
  constructor
  · intro occurs
    cases occurs with
    | here => exact .inl rfl
    | left inside => exact .inr inside
  · rintro (rfl | inside)
    · exact .here
    · exact .left inside

theorem occurs_node_iff {u : Term} {form : Form} {parts : List Term} :
    Occurs u (.node form parts) ↔ u = .node form parts ∨ ∃ part ∈ parts, Occurs u part := by
  constructor
  · intro occurs
    cases occurs with
    | here => exact .inl rfl
    | part member inside => exact .inr ⟨_, member, inside⟩
  · rintro (rfl | ⟨part, member, inside⟩)
    · exact .here
    · exact .part member inside

/-! ## Alias uses -/

/-- `AliasUse isAlias u name`: the tree `u` reaches `name` through an alias, as a member access
`K.name` or as a qualified type name `K.name` whose left side is an identifier `K` with
`isAlias K`. -/
inductive AliasUse (isAlias : String → Prop) : Term → String → Prop where
  | member {aliasName name : String} (named : isAlias aliasName) :
      AliasUse isAlias (.member (.name aliasName) name) name
  | qualified {aliasName name : String} (named : isAlias aliasName) :
      AliasUse isAlias (.qualified (.name aliasName) name) name

theorem aliasUse_member_iff {isAlias : String → Prop} {object : Term} {property name : String} :
    AliasUse isAlias (.member object property) name ↔
      ∃ aliasName, object = .name aliasName ∧ isAlias aliasName ∧ name = property := by
  constructor
  · intro use
    cases use with
    | member named => exact ⟨_, rfl, named, rfl⟩
  · rintro ⟨aliasName, rfl, named, rfl⟩
    exact .member named

theorem aliasUse_qualified_iff {isAlias : String → Prop} {left : Term} {right name : String} :
    AliasUse isAlias (.qualified left right) name ↔
      ∃ aliasName, left = .name aliasName ∧ isAlias aliasName ∧ name = right := by
  constructor
  · intro use
    cases use with
    | qualified named => exact ⟨_, rfl, named, rfl⟩
  · rintro ⟨aliasName, rfl, named, rfl⟩
    exact .qualified named

/-- Renaming the alias predicate to an equivalent one keeps the alias uses. -/
theorem aliasUse_congr {isAlias isAlias' : String → Prop} (same : ∀ a, isAlias a ↔ isAlias' a)
    {u : Term} {name : String} : AliasUse isAlias u name ↔ AliasUse isAlias' u name := by
  constructor
  · intro use
    cases use with
    | member named => exact .member ((same _).1 named)
    | qualified named => exact .qualified ((same _).1 named)
  · intro use
    cases use with
    | member named => exact .member ((same _).2 named)
    | qualified named => exact .qualified ((same _).2 named)

/-! ## The alias pass -/

theorem mem_aliasUses_member {aliases : List String} {object : Term} {property name : String} :
    name ∈ aliasUses aliases (.member object property) ↔
      (∃ aliasName, object = .name aliasName ∧ aliasName ∈ aliases ∧ name = property) ∨
        name ∈ aliasUses aliases object := by
  cases object <;> simp [aliasUses]

theorem mem_aliasUses_qualified {aliases : List String} {left : Term} {right name : String} :
    name ∈ aliasUses aliases (.qualified left right) ↔
      (∃ aliasName, left = .name aliasName ∧ aliasName ∈ aliases ∧ name = right) ∨
        name ∈ aliasUses aliases left := by
  cases left <;> simp [aliasUses]

mutual

/-- The alias pass over a tree finds a name exactly when some subtree is an alias use of it. -/
theorem mem_aliasUses {aliases : List String} {name : String} : ∀ t : Term,
    name ∈ aliasUses aliases t ↔ ∃ u, Occurs u t ∧ AliasUse (· ∈ aliases) u name
  | .name id => by
    simp only [aliasUses, List.not_mem_nil, false_iff, occurs_name_iff]
    rintro ⟨u, rfl, use⟩
    cases use
  | .importDecl decl => by
    simp only [aliasUses, List.not_mem_nil, false_iff, occurs_importDecl_iff]
    rintro ⟨u, rfl, use⟩
    cases use
  | .member object property => by
    rw [mem_aliasUses_member, mem_aliasUses object]
    constructor
    · rintro (⟨aliasName, rfl, named, rfl⟩ | ⟨u, inside, use⟩)
      · exact ⟨_, .here, .member named⟩
      · exact ⟨u, .object inside, use⟩
    · rintro ⟨u, occurs, use⟩
      rcases occurs_member_iff.1 occurs with rfl | inside
      · exact .inl (aliasUse_member_iff.1 use)
      · exact .inr ⟨u, inside, use⟩
  | .qualified left right => by
    rw [mem_aliasUses_qualified, mem_aliasUses left]
    constructor
    · rintro (⟨aliasName, rfl, named, rfl⟩ | ⟨u, inside, use⟩)
      · exact ⟨_, .here, .qualified named⟩
      · exact ⟨u, .left inside, use⟩
    · rintro ⟨u, occurs, use⟩
      rcases occurs_qualified_iff.1 occurs with rfl | inside
      · exact .inl (aliasUse_qualified_iff.1 use)
      · exact .inr ⟨u, inside, use⟩
  | .node form parts => by
    rw [aliasUses, mem_aliasUsesAll parts]
    constructor
    · rintro ⟨part, member, u, inside, use⟩
      exact ⟨u, .part member inside, use⟩
    · rintro ⟨u, occurs, use⟩
      rcases occurs_node_iff.1 occurs with rfl | ⟨part, member, inside⟩
      · cases use
      · exact ⟨part, member, u, inside, use⟩

/-- The alias pass over a list of trees finds the names the pass over some tree of it finds. -/
theorem mem_aliasUsesAll {aliases : List String} {name : String} : ∀ ts : List Term,
    name ∈ aliasUsesAll aliases ts ↔
      ∃ t ∈ ts, ∃ u, Occurs u t ∧ AliasUse (· ∈ aliases) u name
  | [] => by simp [aliasUsesAll]
  | t :: ts => by
    rw [aliasUsesAll, List.mem_append, mem_aliasUses t, mem_aliasUsesAll ts]
    simp only [List.mem_cons, exists_eq_or_imp]

end

/-! ## The import pass -/

/-- One top-level statement read by the import pass. -/
def importStep (targets : Targets) (acc : Imports) : Term → Imports
  | .importDecl decl => if targets.contains decl.source then decl.bindings.foldl Imports.add acc else acc
  | _ => acc

theorem resolveImports_eq_foldl (targets : Targets) (program : Program) :
    resolveImports targets program = program.foldl (importStep targets) default := by
  rfl

/-- A top-level import declaration of the script whose source is a target module. -/
def TargetImport (targets : Targets) (program : Program) (decl : ImportDecl) : Prop :=
  Term.importDecl decl ∈ program ∧ targets.contains decl.source = true

/-- A local name bound to a target's namespace by a top-level `import * as K`. -/
def IsNamespaceAlias (targets : Targets) (program : Program) (name : String) : Prop :=
  ∃ decl, TargetImport targets program decl ∧ ImportBinding.namespace name ∈ decl.bindings

/-- What a list of bindings adds to the aliases: its namespace bindings. -/
theorem aliases_foldl_add {acc : Imports} {bindings : List ImportBinding} {name : String} :
    name ∈ (bindings.foldl Imports.add acc).aliases ↔
      name ∈ acc.aliases ∨ ImportBinding.namespace name ∈ bindings := by
  induction bindings generalizing acc with
  | nil => simp
  | cons binding bindings ih =>
    rw [List.foldl_cons, ih]
    match binding with
    | .namespace localName => simp [Imports.add, or_assoc]
    | .default localName => simp [Imports.add]
    | .named imported localName => cases imported <;> simp [Imports.add]

/-- What a list of bindings adds to the keywords: `default` for a default binding, and the
imported word of a named binding. -/
theorem keywords_foldl_add {acc : Imports} {bindings : List ImportBinding} {k : String} :
    k ∈ (bindings.foldl Imports.add acc).keywords ↔
      k ∈ acc.keywords ∨ (k = "default" ∧ ∃ localName, .default localName ∈ bindings) ∨
        ∃ localName, .named (.word k) localName ∈ bindings := by
  induction bindings generalizing acc with
  | nil => simp
  | cons binding bindings ih =>
    rw [List.foldl_cons, ih]
    match binding with
    | .namespace localName => simp [Imports.add]
    | .default localName =>
      simp only [Imports.add, List.mem_append, List.mem_cons, List.not_mem_nil, or_false,
        reduceCtorEq, false_or, ImportBinding.default.injEq]
      constructor
      · rintro ((inAcc | rfl) | ⟨rfl, other, member⟩ | named)
        · exact .inl inAcc
        · exact .inr (.inl ⟨rfl, localName, .inl rfl⟩)
        · exact .inr (.inl ⟨rfl, other, .inr member⟩)
        · exact .inr (.inr named)
      · rintro (inAcc | ⟨rfl, other, rfl | member⟩ | named)
        · exact .inl (.inl inAcc)
        · exact .inl (.inr rfl)
        · exact .inr (.inl ⟨rfl, other, member⟩)
        · exact .inr (.inr named)
    | .named imported localName =>
      cases imported with
      | string value => simp [Imports.add]
      | word w =>
        simp only [Imports.add, List.mem_append, List.mem_cons, List.not_mem_nil, or_false,
          reduceCtorEq, false_or, ImportBinding.named.injEq, ExportName.word.injEq]
        constructor
        · rintro ((inAcc | rfl) | byDefault | ⟨other, member⟩)
          · exact .inl inAcc
          · exact .inr (.inr ⟨localName, .inl ⟨rfl, rfl⟩⟩)
          · exact .inr (.inl byDefault)
          · exact .inr (.inr ⟨other, .inr member⟩)
        · rintro (inAcc | byDefault | ⟨other, ⟨rfl, rfl⟩ | member⟩)
          · exact .inl (.inl inAcc)
          · exact .inr (.inl byDefault)
          · exact .inl (.inr rfl)
          · exact .inr (.inr ⟨other, member⟩)

/-- The keywords a list of import bindings names itself: `default` for a default binding, and
the imported word of a named binding; an imported string names none. -/
inductive BindsKeyword (bindings : List ImportBinding) : String → Prop where
  | byDefault {localName : String} (binding : .default localName ∈ bindings) :
      BindsKeyword bindings "default"
  | byName {imported localName : String} (binding : .named (.word imported) localName ∈ bindings) :
      BindsKeyword bindings imported

theorem bindsKeyword_iff {bindings : List ImportBinding} {k : String} :
    BindsKeyword bindings k ↔
      (k = "default" ∧ ∃ localName, .default localName ∈ bindings) ∨
        ∃ localName, .named (.word k) localName ∈ bindings := by
  constructor
  · intro binds
    cases binds with
    | byDefault binding => exact .inl ⟨rfl, _, binding⟩
    | byName binding => exact .inr ⟨_, binding⟩
  · rintro (⟨rfl, _, binding⟩ | ⟨_, binding⟩)
    · exact .byDefault binding
    · exact .byName binding

theorem targetImport_cons {targets : Targets} {stmt : Term} {stmts : List Term} {decl : ImportDecl} :
    TargetImport targets (stmt :: stmts) decl ↔
      (stmt = .importDecl decl ∧ targets.contains decl.source = true) ∨
        TargetImport targets stmts decl := by
  simp only [TargetImport, List.mem_cons]
  constructor
  · rintro ⟨rfl | member, target⟩
    · exact .inl ⟨rfl, target⟩
    · exact .inr ⟨member, target⟩
  · rintro (⟨rfl, target⟩ | ⟨member, target⟩)
    · exact ⟨.inl rfl, target⟩
    · exact ⟨.inr member, target⟩

/-- The import pass over statements adds what their target imports bind. Both halves of the
accumulator are read the same way, so the statement is made over any property `adds` of a
binding list that the fold of `Imports.add` collects. -/
theorem foldl_importStep {targets : Targets} (view : Imports → String → Prop)
    (adds : List ImportBinding → String → Prop)
    (step : ∀ acc bindings k, view (bindings.foldl Imports.add acc) k ↔ view acc k ∨ adds bindings k)
    {stmts : List Term} {acc : Imports} {k : String} :
    view (stmts.foldl (importStep targets) acc) k ↔
      view acc k ∨ ∃ decl, TargetImport targets stmts decl ∧ adds decl.bindings k := by
  induction stmts generalizing acc with
  | nil => simp [TargetImport]
  | cons stmt stmts ih =>
    rw [List.foldl_cons, ih]
    simp only [targetImport_cons]
    -- only a target import changes the accumulator; every other statement passes it on
    cases stmt
    case importDecl decl =>
      by_cases target : targets.contains decl.source = true
      · simp only [importStep, target, if_true, step, Term.importDecl.injEq]
        constructor
        · rintro ((inAcc | added) | ⟨other, found, adding⟩)
          · exact .inl inAcc
          · exact .inr ⟨decl, .inl ⟨rfl, target⟩, added⟩
          · exact .inr ⟨other, .inr found, adding⟩
        · rintro (inAcc | ⟨other, ⟨rfl, _⟩ | found, adding⟩)
          · exact .inl (.inl inAcc)
          · exact .inl (.inr adding)
          · exact .inr ⟨other, found, adding⟩
      · simp only [importStep, target, Bool.false_eq_true, if_false, Term.importDecl.injEq]
        constructor
        · rintro (inAcc | ⟨other, found, adding⟩)
          · exact .inl inAcc
          · exact .inr ⟨other, .inr found, adding⟩
        · rintro (inAcc | ⟨other, ⟨rfl, isTarget⟩ | found, adding⟩)
          · exact .inl inAcc
          · exact absurd isTarget target
          · exact .inr ⟨other, found, adding⟩
    all_goals simp [importStep]

theorem mem_resolveImports_aliases {targets : Targets} {program : Program} {name : String} :
    name ∈ (resolveImports targets program).aliases ↔ IsNamespaceAlias targets program name := by
  rw [resolveImports_eq_foldl,
    foldl_importStep (fun acc a => a ∈ acc.aliases) (fun bindings a => .namespace a ∈ bindings)
      (fun _ _ _ => aliases_foldl_add)]
  simp [IsNamespaceAlias, show (default : Imports).aliases = [] from rfl]

theorem mem_resolveImports_keywords {targets : Targets} {program : Program} {k : String} :
    k ∈ (resolveImports targets program).keywords ↔
      ∃ decl, TargetImport targets program decl ∧ BindsKeyword decl.bindings k := by
  rw [resolveImports_eq_foldl,
    foldl_importStep (fun acc k => k ∈ acc.keywords) BindsKeyword
      (fun _ _ _ => by rw [keywords_foldl_add, bindsKeyword_iff])]
  simp [show (default : Imports).keywords = [] from rfl]

/-! ## Referenced keywords -/

/-- The keywords a script references: those a top-level import of a target binds itself, and
those some tree anywhere in the script reaches through a namespace alias of a target. -/
inductive Referenced (targets : Targets) (program : Program) : String → Prop where
  | byImport {decl : ImportDecl} {k : String} (target : TargetImport targets program decl)
      (binds : BindsKeyword decl.bindings k) : Referenced targets program k
  | throughAlias {t u : Term} {k : String} (statement : t ∈ program) (inside : Occurs u t)
      (use : AliasUse (IsNamespaceAlias targets program) u k) : Referenced targets program k

/-- Nothing is an alias use when no name is an alias. -/
theorem not_mem_aliasUsesAll_nil {ts : List Term} {name : String} :
    name ∉ aliasUsesAll [] ts := by
  rw [mem_aliasUsesAll]
  rintro ⟨_, _, u, _, use⟩
  cases use with
  | member named => cases named
  | qualified named => cases named

/-- The two passes together: the import pass's keywords, and what the alias pass finds with the
aliases the import pass collected. -/
theorem mem_programKeywords_iff_passes {targets : Targets} {program : Program} {k : String} :
    k ∈ programKeywords targets program ↔
      k ∈ (resolveImports targets program).keywords ∨
        k ∈ aliasUsesAll (resolveImports targets program).aliases program := by
  by_cases noAliases : (resolveImports targets program).aliases.isEmpty = true
  · have empty : (resolveImports targets program).aliases = [] := List.isEmpty_iff.1 noAliases
    simp only [programKeywords, empty, List.isEmpty_nil, if_true, KeywordSet.mem_ofList]
    have nothing := @not_mem_aliasUsesAll_nil program k
    tauto
  · simp only [programKeywords, noAliases, Bool.false_eq_true, if_false, KeywordSet.mem_union,
      KeywordSet.mem_ofList]

theorem mem_programKeywords {targets : Targets} {program : Program} {k : String} :
    k ∈ programKeywords targets program ↔ Referenced targets program k := by
  have aliases : ∀ a, a ∈ (resolveImports targets program).aliases ↔
      IsNamespaceAlias targets program a := fun _ => mem_resolveImports_aliases
  rw [mem_programKeywords_iff_passes, mem_resolveImports_keywords, mem_aliasUsesAll]
  simp only [aliasUse_congr aliases]
  constructor
  · rintro (⟨decl, target, binds⟩ | ⟨t, statement, u, inside, use⟩)
    · exact .byImport target binds
    · exact .throughAlias statement inside use
  · intro referenced
    cases referenced with
    | byImport target binds => exact .inl ⟨_, target, binds⟩
    | throughAlias statement inside use => exact .inr ⟨_, statement, _, inside, use⟩

/-- Discovery finds exactly the referenced keywords of every script it reads: those its target
imports bind by default or by name, and every `K.name` or qualified type name `K.name`
anywhere in it whose `K` is a namespace alias of a target. -/
theorem mem_discover_iff_referenced {targets : Targets} {path text : String} {program : Program}
    (mentions : targets.mayReference text = true)
    (parsed : parse (Dialect.ofPath path) (scriptSource path text) = some program) (k : String) :
    k ∈ (discover targets path text).keywords ↔ Referenced targets program k := by
  have read : (discover targets path text).keywords = programKeywords targets program := by
    simp [discover, mentions, parsed]
  rw [read, mem_programKeywords]

theorem discover_referenced_namespace_member :
    (Targets.ofList []).mayReference "import * as K from 'virtual:keywords'; K.foo;" = true ∧
      ∃ program, parse (Dialect.ofPath "test.ts")
          (scriptSource "test.ts" "import * as K from 'virtual:keywords'; K.foo;") = some program ∧
        ("foo" ∈ (discover (Targets.ofList []) "test.ts"
            "import * as K from 'virtual:keywords'; K.foo;").keywords ↔
          Referenced (Targets.ofList []) program "foo") := by
  have mentions : (Targets.ofList []).mayReference
      "import * as K from 'virtual:keywords'; K.foo;" = true := by decide +kernel
  have reads : (parse (Dialect.ofPath "test.ts")
      (scriptSource "test.ts" "import * as K from 'virtual:keywords'; K.foo;")).isSome = true := by
    decide +kernel
  obtain ⟨program, parsed⟩ := Option.isSome_iff_exists.1 reads
  exact ⟨mentions, program, parsed, mem_discover_iff_referenced mentions parsed "foo"⟩

/-! ## The mention check -/

/-- The keywords of a file read without the mention check: the keywords of its script, or none
when the script cannot be read. -/
def readKeywords (targets : Targets) (path text : String) : KeywordSet :=
  match parse (Dialect.ofPath path) (scriptSource path text) with
  | some program => programKeywords targets program
  | none => KeywordSet.empty

theorem discover_keywords_of_mayReference {targets : Targets} {path text : String}
    (mentions : targets.mayReference text = true) :
    (discover targets path text).keywords = readKeywords targets path text := by
  unfold discover readKeywords
  simp only [mentions, Bool.not_true, Bool.false_eq_true, if_false]
  split <;> simp_all

theorem discover_keywords_of_not_mayReference {targets : Targets} {path text : String}
    (silent : targets.mayReference text = false) :
    (discover targets path text).keywords = KeywordSet.empty := by
  simp [discover, silent]

/-- A text that spells no target name spells no import source that names a target. -/
theorem occursIn_source_eq_false {targets : Targets} {text source : String}
    (silent : targets.mayReference text = false) (target : targets.contains source = true) :
    Text.occursIn source.toList text.toList = false := by
  have named : source ∈ targets.names := by
    simpa [Targets.contains] using target
  simp only [Targets.mayReference, List.any_eq_false] at silent
  simpa using silent source named

/-- Every referenced keyword comes through some target import. -/
theorem targetImport_of_referenced {targets : Targets} {program : Program} {k : String}
    (referenced : Referenced targets program k) : ∃ decl, TargetImport targets program decl := by
  cases referenced with
  | byImport target _ => exact ⟨_, target⟩
  | throughAlias _ _ use =>
    cases use with
    | member named => obtain ⟨decl, target, _⟩ := named; exact ⟨decl, target⟩
    | qualified named => obtain ⟨decl, target, _⟩ := named; exact ⟨decl, target⟩

/-- The mention check loses keywords only where the script imports a target module through a
source that the text does not spell: everywhere else discovery finds what reading the text
without the check finds. -/
theorem discover_eq_readKeywords_or_unspelled (targets : Targets) (path text : String) :
    (discover targets path text).keywords = readKeywords targets path text ∨
      ∃ program decl, parse (Dialect.ofPath path) (scriptSource path text) = some program ∧
        TargetImport targets program decl ∧ Text.occursIn decl.source.toList text.toList = false := by
  cases mentions : targets.mayReference text
  case true => exact .inl (discover_keywords_of_mayReference mentions)
  case false =>
    rw [discover_keywords_of_not_mayReference mentions]
    by_cases found : ∃ k, k ∈ readKeywords targets path text
    · -- a keyword found by reading comes from a script, and through one of its target imports
      right
      obtain ⟨k, member⟩ := found
      unfold readKeywords at member
      split at member
      · rename_i program parsed
        obtain ⟨decl, target⟩ := targetImport_of_referenced (mem_programKeywords.1 member)
        exact ⟨program, decl, parsed, target, occursIn_source_eq_false mentions target.2⟩
      · exact absurd member (KeywordSet.not_mem_empty k)
    · left
      exact (KeywordSet.eq_empty_of_forall_not_mem fun k member => found ⟨k, member⟩).symm

/-- A target import whose source is written with an escape: the text spells no target, so the
mention check skips it, while reading the text finds `foo`. -/
theorem escaped_source_skipped :
    (discover (Targets.ofList []) "test.ts"
        "import * as K from 'virtual:keyword\\x73'; K.foo;").keywords = KeywordSet.empty ∧
      "foo" ∈ readKeywords (Targets.ofList []) "test.ts"
        "import * as K from 'virtual:keyword\\x73'; K.foo;" := by
  constructor
  · apply discover_keywords_of_not_mayReference
    decide +kernel
  · have found : (readKeywords (Targets.ofList []) "test.ts"
        "import * as K from 'virtual:keyword\\x73'; K.foo;").toList = ["foo"] := by
      decide +kernel
    simp [found]

end KeyIntern
