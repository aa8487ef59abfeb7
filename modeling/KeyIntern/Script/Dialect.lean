import KeyIntern.Path

/-! # Dialects of script files

A file is read by its extension alone: `ts`, `mts` and `cts` as TypeScript without JSX,
`tsx` as TypeScript with JSX, the markup files `vue`, `svelte` and `astro` as TypeScript
without JSX applied to their embedded scripts, and every other file as JavaScript with JSX.
The candidate files of a project are those with a script or markup extension.
-/

namespace KeyIntern.Script

/-- How a text is read: with TypeScript's type syntax or without, with JSX or without. -/
structure Dialect where
  typescript : Bool
  jsx : Bool
  deriving DecidableEq, Repr

/-- The extensions of files read as scripts. -/
def scriptExtensions : List String :=
  ["ts", "tsx", "mts", "cts", "js", "jsx", "mjs", "cjs"]

/-- The extensions of markup files whose embedded scripts are read. -/
def markupExtensions : List String :=
  ["vue", "svelte", "astro"]

/-- Whether a path names a markup file. -/
def isMarkup (path : String) : Bool :=
  match Path.extension? path with
  | some e => markupExtensions.contains e
  | none => false

/-- Whether a path names a file whose keywords can be read. -/
def isCandidate (path : String) : Bool :=
  match Path.extension? path with
  | some e => scriptExtensions.contains e || markupExtensions.contains e
  | none => false

/-- The dialect a file is read in. -/
def Dialect.ofPath (path : String) : Dialect :=
  if isMarkup path then ⟨true, false⟩
  else
    let ext := Path.extension? path
    let ts := ext == some "ts" || ext == some "mts" || ext == some "cts"
    ⟨ts || ext == some "tsx", !ts⟩

end KeyIntern.Script
