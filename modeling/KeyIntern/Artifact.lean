import KeyIntern.KeywordSet
import KeyIntern.Json.Quote
import KeyIntern.Path

/-! # Generated artifacts

The two texts rendered from a keyword set: the declaration file, with one opaque unique
symbol per keyword, and the runtime module, with one fresh symbol per keyword. Each keyword
is bound to its internal name, the keyword behind an underscore, and both texts end with
the same export block that maps every internal name back to its keyword, in the set's order.
Main statement: `renderTypes_export` and `renderModule_export` say both end with that block.
-/

namespace KeyIntern.Artifact

/-- The internal name bound to a keyword. -/
def internalName (k : String) : String :=
  "_" ++ k

/-- The local name of the symbol factory in the runtime module; it never starts with `_`. -/
def factory : String := "sym"

/-- The line of the export block for one keyword. -/
def exportLine (k : String) : String :=
  "  " ++ internalName k ++ " as " ++ k ++ ",\n"

/-- The export block: every internal name exported under its keyword, or an empty export. -/
def exportBlock (ks : KeywordSet) : String :=
  if ks.isEmpty then "export \x7b\x7d;\n"
  else "export \x7b\n" ++ String.join (ks.toList.map exportLine) ++ "\x7d;\n"

/-- The declaration line of one keyword. -/
def declarationLine (k : String) : String :=
  "declare const " ++ internalName k ++ ": unique symbol;\n"

/-- The declaration file: one unique symbol per keyword, a blank line if there is any, then the
export block. -/
def renderTypes (ks : KeywordSet) : String :=
  String.join (ks.toList.map declarationLine) ++ (if ks.isEmpty then "" else "\n") ++ exportBlock ks

/-- The label of a keyword's symbol: the keyword as a string literal in development, else none. -/
def label (dev : Bool) (k : String) : String :=
  if dev then Json.quote k else ""

/-- The binding line of one keyword in the runtime module. -/
def bindingLine (dev : Bool) (k : String) : String :=
  "const " ++ internalName k ++ " = " ++ factory ++ "(" ++ label dev k ++ ");\n"

/-- The runtime module: the factory, one fresh symbol per keyword, a blank line, then the
export block. -/
def renderModule (ks : KeywordSet) (dev : Bool) : String :=
  "const " ++ factory ++ " = Symbol;\n" ++ String.join (ks.toList.map (bindingLine dev)) ++ "\n" ++
    exportBlock ks

/-- The directory of the generated declarations, relative to the project root. -/
def directoryName : String := ".keywords"

/-- Where the declaration file of a project lives. -/
def typesPath (root : String) : String :=
  Path.join (Path.join root directoryName) "index.d.ts"

theorem renderTypes_export (ks : KeywordSet) :
    ∃ head, renderTypes ks = head ++ exportBlock ks :=
  ⟨_, rfl⟩

theorem renderModule_export (ks : KeywordSet) (dev : Bool) :
    ∃ head, renderModule ks dev = head ++ exportBlock ks :=
  ⟨_, rfl⟩

end KeyIntern.Artifact
