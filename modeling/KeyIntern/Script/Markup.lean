import KeyIntern.Text.CharClass
import KeyIntern.Text.Search
import KeyIntern.Script.Dialect

/-! # Scripts embedded in markup

A `.vue`, `.svelte` or `.astro` file holds its scripts in `<script>` elements; an `.astro`
file may also open with a frontmatter block between `---` fences. The script text of such a
file is its blocks joined by line breaks; any other file is script text as it stands.

A tag counts as a script tag only when `<script` is followed by ASCII whitespace, `>` or `/`,
so that custom elements such as `<scripts-list>` are passed over, and a self-closing
`<script ... />` has no body.
-/

namespace KeyIntern.Script

open KeyIntern.Text

/-- The frontmatter of an `.astro` text: after leading whitespace, a `---` line opens a block
that runs to the next line starting with `---`. Answers the block and the text after its
closing fence. -/
def frontmatter (text : List Char) : Option (List Char × List Char) :=
  match text.dropWhile isWhiteSpace with
  | '-' :: '-' :: '-' :: body =>
    (splitAtFirst ['\n', '-', '-', '-'] body).map fun (block, rest) => (block, rest)
  | _ => none

/-- Whether a character may follow `<script` in a script tag. -/
def endsTagName (c : Char) : Bool :=
  isAsciiSpace c || c == '>' || c == '/'

/-- The bodies of the script elements of `rest`, in order, appended to `blocks` (kept in
reverse). Each round consumes at least the seven characters of `<script`, so the text's
length bounds the rounds. -/
def scriptBlocks : Nat → List Char → List (List Char) → List (List Char)
  | 0, _, blocks => blocks
  | n + 1, rest, blocks =>
    match splitAtFirst "<script".toList rest with
    | none => blocks
    | some (_, after) =>
      match after with
      | c :: _ =>
        if endsTagName c then
          match splitAtFirst ['>'] after with
          | none => blocks
          | some (attrs, body) =>
            if attrs.getLast? == some '/' then scriptBlocks n body blocks
            else
              match splitAtFirst "</script>".toList body with
              | none => blocks
              | some (content, rest') => scriptBlocks n rest' (content :: blocks)
        else scriptBlocks n after blocks
      | [] => scriptBlocks n after blocks

/-- The script text of a markup file; `astro` also reads a frontmatter block. -/
def markupScripts (text : String) (astro : Bool) : String :=
  let chars := text.toList
  let (first, rest) :=
    if astro then
      match frontmatter chars with
      | some (block, rest) => ([block], rest)
      | none => ([], chars)
    else ([], chars)
  let blocks := first ++ (scriptBlocks (rest.length + 1) rest []).reverse
  "\n".intercalate (blocks.map String.ofList)

/-- The script text of a file: the embedded scripts of a markup file, else the text itself. -/
def scriptSource (path : String) (text : String) : String :=
  if isMarkup path then markupScripts text (Path.extension? path == some "astro") else text

end KeyIntern.Script
