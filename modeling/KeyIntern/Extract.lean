import KeyIntern.Targets
import KeyIntern.KeywordSet
import KeyIntern.Script.Parser
import KeyIntern.Script.Markup

/-! # Keyword discovery in one file

A file references keywords in two ways. Its top-level `import` declarations from a target
module bind them directly: a default import stands for `default`, a named import for the name
it imports (a string name cannot be one), and a namespace import `* as K` makes `K` an alias.
Then every member access `K.name` and every qualified type name `K.name` through an alias
references `name`. Scope is not considered: a local that shadows an alias still counts.

A text that mentions no target module is not read at all; a text that cannot be read
references nothing.
-/

namespace KeyIntern

open Script

/-- What the imports of a program bind from the target modules: namespace aliases and the
keywords they name directly. -/
structure Imports where
  aliases : List String
  keywords : List String
  deriving Inhabited

/-- The contribution of one import binding. -/
def Imports.add (acc : Imports) : ImportBinding → Imports
  | .namespace n => { acc with aliases := acc.aliases ++ [n] }
  | .default _ => { acc with keywords := acc.keywords ++ ["default"] }
  | .named (.word w) _ => { acc with keywords := acc.keywords ++ [w] }
  | .named (.string _) _ => acc

/-- The bindings of the top-level imports of target modules. -/
def resolveImports (targets : Targets) (program : Program) : Imports :=
  program.foldl (fun acc stmt =>
    match stmt with
    | .importDecl d =>
      if targets.contains d.source then d.bindings.foldl Imports.add acc else acc
    | _ => acc) default

mutual

/-- The names referenced through an alias in a tree, in order of appearance. -/
def aliasUses (aliases : List String) : Term → List String
  | .name _ => []
  | .member (.name a) p => if aliases.contains a then [p] else []
  | .member obj _ => aliasUses aliases obj
  | .qualified (.name a) r => if aliases.contains a then [r] else []
  | .qualified left _ => aliasUses aliases left
  | .importDecl _ => []
  | .node _ parts => aliasUsesAll aliases parts

/-- The names referenced through an alias in a list of trees. -/
def aliasUsesAll (aliases : List String) : List Term → List String
  | [] => []
  | t :: ts => aliasUses aliases t ++ aliasUsesAll aliases ts

end

/-- The keywords a program references. -/
def programKeywords (targets : Targets) (program : Program) : KeywordSet :=
  let imports := resolveImports targets program
  let direct := KeywordSet.ofList imports.keywords
  if imports.aliases.isEmpty then direct
  else direct.union (KeywordSet.ofList (aliasUsesAll imports.aliases program))

/-- The outcome of discovery in one file: its keywords, and whether its text was read. -/
structure Discovery where
  keywords : KeywordSet
  parsed : Bool

/-- Discovers the keywords of the file at `path` with the given text. -/
def discover (targets : Targets) (path text : String) : Discovery :=
  if !targets.mayReference text then ⟨KeywordSet.empty, false⟩
  else
    match parse (Dialect.ofPath path) (scriptSource path text) with
    | some program => ⟨programKeywords targets program, true⟩
    | none => ⟨KeywordSet.empty, true⟩

end KeyIntern
