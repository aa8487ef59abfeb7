import KeyIntern.Json.Scalar
import KeyIntern.Files.Tree
import KeyIntern.Failure

/-! # Project configuration

A project may hold `keywords.config.json` in its root. Its one setting,
`additionalModulesToScan`, lists more module names whose imports bring keywords; it defaults to
none, and other keys are ignored. Where the file is missing, or is no regular file, the defaults
apply.

The file is JSON with line comments: on each line, everything from the first `//` outside a
double-quoted string is dropped, where a backslash inside a string escapes the next character and
every line starts outside a string. Lines end at line feeds, a carriage return before a line
feed goes with it, and the lines are joined again by line feeds.

The settings object may also be written as an array holding the list, and a setting given twice
is an error. Errors name the file: `Failed to read` when it is no UTF-8 text, `Failed to parse`
with the reader's message otherwise.

Main statements: `stripComment_prefix` (a stripped line is a prefix of the line) and
`stripComment_of_no_slash` (a line without `/` is kept whole).
-/

namespace KeyIntern

open Json Json.Reader

/-- The settings of a project. -/
structure Config where
  /-- Module names treated like the virtual module. -/
  additionalModules : List String := []
  deriving DecidableEq, Repr

namespace Config

/-- The name of the configuration file in a project root. -/
def fileName : String := "keywords.config.json"

/-- The key of the one setting. -/
def modulesKey : String := "additionalModulesToScan"

/-! ## Line comments -/

/-- A line without its comment: the text before the first `//` outside a string. `inString` and
`escaped` say where the scan stands. -/
def stripComment : List Char → Bool → Bool → List Char
  | [], _, _ => []
  | c :: rest, inString, escaped =>
    if escaped then c :: stripComment rest inString false
    else if c = '\\' ∧ inString then c :: stripComment rest inString true
    else if c = '"' then c :: stripComment rest (!inString) false
    else if c = '/' ∧ !inString ∧ rest.head? = some '/' then []
    else c :: stripComment rest inString false

/-- Drops one carriage return at the end of a line. -/
def dropCarriageReturn (line : List Char) : List Char :=
  if line.getLast? = some '\r' then line.dropLast else line

/-- The lines of a text: the pieces between line feeds, each without a carriage return before its
line feed; a text ending in a line feed has no empty last line. -/
def textLines (s : List Char) : List (List Char) :=
  match (s.splitOn '\n').reverse with
  | [] => []
  | last :: earlier =>
    let ended := earlier.reverse.map dropCarriageReturn
    if last.isEmpty then ended else ended ++ [last]

/-- The text without its line comments. -/
def stripComments (s : String) : String :=
  "\n".intercalate ((textLines s.toList).map fun l => String.ofList (stripComment l false false))

/-! ## Reading the settings -/

/-- Fails at a value of another kind than `expected`, after reading enough of it to name it. -/
def invalidType (expected : String) : Reader α := do
  let found ← do
    match ← peek with
    | some 0x6E => eat; word [0x75, 0x6C, 0x6C]; pure Unexpected.null
    | some 0x74 => eat; word [0x72, 0x75, 0x65]; pure (Unexpected.bool true)
    | some 0x66 => eat; word [0x61, 0x6C, 0x73, 0x65]; pure (Unexpected.bool false)
    | some 0x2D => eat; pure (← number false).unexpected
    | some 0x22 => eat; pure (Unexpected.string (← stringBody))
    | some 0x5B => pure Unexpected.sequence
    | some 0x7B => pure Unexpected.map
    | some c => if isDigit c then pure (← number true).unexpected else failAhead .expectedSomeValue
    | none => failAhead .expectedSomeValue
  placing (failUnplaced (.invalidType found expected))

/-- Reads a string value. -/
def readString : Reader String := placing do
  match ← skipBlanks with
  | none => failAhead .eofWhileParsingValue
  | some 0x22 => eat; stringBody
  | some _ => invalidType "a string"

/-- Reads the next element of an array, `none` at its end; `first` says no element came yet. -/
def nextElement (first : Bool) (item : Reader α) : Reader (Option α) := do
  let c ← skipBlanks
  let c ← do
    match c with
    | some 0x5D => return none
    | some 0x2C => if first then pure (some 0x2C) else eat; skipBlanks
    | some b => if first then pure (some b) else failAhead .expectedListCommaOrEnd
    | none => failAhead .eofWhileParsingList
  match c with
  | some 0x5D => failAhead .trailingComma
  | some _ => return some (← item)
  | none => failAhead .eofWhileParsingValue

/-- Closes an array. -/
def closeArray : Reader Unit := do
  match ← skipBlanks with
  | some 0x5D => eat
  | some 0x2C =>
    eat
    match ← skipBlanks with
    | some 0x5D => failAhead .trailingComma
    | _ => failAhead .trailingCharacters
  | some _ => failAhead .trailingCharacters
  | none => failAhead .eofWhileParsingList

/-- Closes an object. -/
def closeObject : Reader Unit := do
  match ← skipBlanks with
  | some 0x7D => eat
  | some 0x2C => failAhead .trailingComma
  | some _ => failAhead .trailingCharacters
  | none => failAhead .eofWhileParsingObject

/-- Reads an array of strings. -/
def readStrings : Reader (List String) := placing do
  match ← skipBlanks with
  | none => failAhead .eofWhileParsingValue
  | some 0x5B =>
    eat
    thenRegardless (do
      let xs ← loop (· + 1) (fun ((first, acc) : Bool × List String) => do
        match ← nextElement first readString with
        | some s => return .inl (false, s :: acc)
        | none => return .inr acc.reverse) (true, [])
      return xs) closeArray
  | some _ => invalidType "a sequence"

/-- Reads the next key of an object, `none` at its end; `first` says no member came yet. -/
def nextKey (first : Bool) : Reader (Option String) := do
  let c ← skipBlanks
  let c ← do
    match c with
    | some 0x7D => return none
    | some 0x2C => if first then pure (some 0x2C) else eat; skipBlanks
    | some b => if first then pure (some b) else failAhead .expectedObjectCommaOrEnd
    | none => failAhead .eofWhileParsingObject
  match c with
  | some 0x22 => eat; return some (← stringBody)
  | some 0x7D => failAhead .trailingComma
  | some _ => failAhead .keyMustBeAString
  | none => failAhead .eofWhileParsingValue

/-- Reads the colon before a member's value. -/
def colon : Reader Unit := do
  match ← skipBlanks with
  | some 0x3A => eat
  | some _ => failAhead .expectedColon
  | none => failAhead .eofWhileParsingObject

/-- Reads the members of the settings object after its brace. -/
def members : Reader Config :=
  loop (· + 1) (fun ((first, seen) : Bool × Option (List String)) => do
    match ← nextKey first with
    | none => return .inr { additionalModules := seen.getD [] }
    | some key =>
      if key = modulesKey then
        if seen.isSome then failUnplaced (.duplicateField modulesKey)
        else
          colon
          return .inl (false, some (← readStrings))
      else
        colon
        skipValue
        return .inl (false, seen)) (true, none)

/-- Reads the settings: an object, or an array whose one element is the list. -/
def readConfig : Reader Config := placing do
  match ← skipBlanks with
  | none => failAhead .eofWhileParsingValue
  | some 0x5B =>
    eat
    thenRegardless (do
      let list ← nextElement true readStrings
      return { additionalModules := list.getD [] }) closeArray
  | some 0x7B => eat; thenRegardless members closeObject
  | some _ => invalidType "struct KeywordsConfig"

/-- Reads the settings, and nothing but blanks after them. -/
def readDocument : Reader Config := do
  let c ← readConfig
  match ← skipBlanks with
  | some _ => failAhead .trailingCharacters
  | none => return c

/-- The settings written in a JSON text. -/
def ofJson (text : String) : Except JsonError Config :=
  readDocument.run text.toUTF8

/-- The settings written in a configuration text with line comments. -/
def ofText (text : String) : Except JsonError Config :=
  ofJson (stripComments text)

/-- Loads the settings of the project at `root`; a missing file gives the defaults. -/
def load (fs : Files.FileTree) (root : String) : Except Failure Config :=
  let path := Path.join root fileName
  if !fs.isFile path then .ok {}
  else
    match fs.readText path with
    | .error e => .error ⟨"Failed to read " ++ path, [e.message]⟩
    | .ok text =>
      match ofText text with
      | .error e => .error ⟨"Failed to parse " ++ path, [e.message]⟩
      | .ok c => .ok c

/-! ## Laws of comment stripping -/

theorem stripComment_prefix (l : List Char) (inString escaped : Bool) :
    stripComment l inString escaped <+: l := by
  induction l generalizing inString escaped with
  | nil => simp [stripComment]
  | cons c rest ih =>
    unfold stripComment
    split
    · exact List.cons_prefix_cons.mpr ⟨rfl, ih _ _⟩
    · split
      · exact List.cons_prefix_cons.mpr ⟨rfl, ih _ _⟩
      · split
        · exact List.cons_prefix_cons.mpr ⟨rfl, ih _ _⟩
        · split
          · exact List.nil_prefix
          · exact List.cons_prefix_cons.mpr ⟨rfl, ih _ _⟩

theorem stripComment_of_no_slash (l : List Char) (inString escaped : Bool) (h : '/' ∉ l) :
    stripComment l inString escaped = l := by
  induction l generalizing inString escaped with
  | nil => simp [stripComment]
  | cons c rest ih =>
    have hc : c ≠ '/' := fun e => h (e ▸ List.mem_cons_self)
    have hr : '/' ∉ rest := fun m => h (List.mem_cons_of_mem _ m)
    unfold stripComment
    simp only [hc, false_and, if_false, ih _ _ hr]
    split <;> (try split) <;> (try split) <;> simp_all

end Config

end KeyIntern
