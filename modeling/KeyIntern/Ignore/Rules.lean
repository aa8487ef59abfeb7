import KeyIntern.Ignore.Glob
import KeyIntern.Text.CharClass
import KeyIntern.Path

/-! # Ignore files

An ignore file (`.gitignore`, `.ignore`, `.git/info/exclude`) holds one rule per line, relative to
the directory it applies to. Blank lines and lines starting with `#` hold none, and trailing
whitespace is dropped unless escaped as `\ `. A rule starting with `!` allows what earlier rules
ignored; `\!` and `\#` start a rule with a literal `!` or `#`. A leading `/` anchors the rule at
the directory, as does any other `/` in it; a rule without one matches at any depth. A trailing
`/` restricts the rule to directories. A rule ending in `/**` matches what is inside a directory
but not the directory. A line whose glob is invalid holds no rule, and reading stops at the
first line that is not UTF-8.

The last rule that matches a path decides: it is ignored, or allowed by a `!` rule. Paths are
matched relative to the file's directory, found by cutting that directory off the front of the
path's text.

Main statement: `Verdict.orElse_unmatched` says an unmatched verdict defers to the next one.
-/

namespace KeyIntern.Ignore

/-- What a set of rules says about a path. -/
inductive Verdict where
  | unmatched
  | ignored
  | allowed
  deriving DecidableEq, Repr

/-- The first verdict unless it is unmatched. -/
def Verdict.orElse : Verdict → Verdict → Verdict
  | .unmatched, v => v
  | v, _ => v

theorem Verdict.orElse_unmatched (v : Verdict) : Verdict.unmatched.orElse v = v := rfl

/-- The first verdict of a list that is not unmatched. -/
def Verdict.first : List Verdict → Verdict
  | [] => .unmatched
  | v :: vs => v.orElse (Verdict.first vs)

/-- One rule of an ignore file. -/
structure Rule where
  glob : Glob
  /-- A `!` rule allows what it matches. -/
  allows : Bool
  /-- A rule ending in `/` matches directories only. -/
  dirOnly : Bool

/-- The rule of one line, if the line holds a valid one. -/
def Rule.ofLine (line : String) : Option Rule :=
  if line.startsWith "#" then none
  else
    let line := if line.endsWith "\\ " then line.toList
      else (line.toList.reverse.dropWhile Text.isWhiteSpace).reverse
    if line.isEmpty then none
    else
      let (allows, absolute, body) :=
        match line with
        | '\\' :: '!' :: rest => (false, false, '!' :: rest)
        | '\\' :: '#' :: rest => (false, false, '#' :: rest)
        | '!' :: rest =>
          match rest with
          | '/' :: r => (true, true, r)
          | r => (true, false, r)
        | '/' :: r => (false, true, r)
        | r => (false, false, r)
      let (dirOnly, body) :=
        if body.getLast? = some '/' then
          let b := body.dropLast
          (true, if b.getLast? = some '\\' then b.dropLast else b)
        else (false, body)
      let actual := String.ofList body
      let actual :=
        if !absolute && !body.contains '/' && !(actual.startsWith "**/" || actual == "**") then
          "**/" ++ actual
        else actual
      let actual := if actual.endsWith "/**" then actual ++ "/*" else actual
      (Glob.compile actual).map fun glob => { glob, allows, dirOnly }

/-- The lines of an ignore file's bytes: split at line feeds, a carriage return before a line feed
dropped, no empty last line after a final line feed, a byte order mark dropped from the front,
and cut at the first line that is not UTF-8. -/
def linesOfBytes (bytes : ByteArray) : List String :=
  let pieces := bytes.toList.splitOn 0x0A
  let ended := pieces.dropLast.map fun l => if l.getLast? = some 0x0D then l.dropLast else l
  let last := pieces.getLast?.getD []
  let raw := if last.isEmpty then ended else ended ++ [last]
  let decoded := raw.map fun l => String.fromUTF8? ⟨l.toArray⟩
  let valid := (decoded.takeWhile Option.isSome).filterMap id
  match valid with
  | first :: rest => String.ofList (first.toList.dropWhile (· == '\uFEFF')) :: rest
  | [] => []

/-- The rules of one ignore file, with the directory they are relative to. -/
structure RuleFile where
  root : String
  rules : List Rule

namespace RuleFile

/-- A file without rules. -/
def empty (root : String) : RuleFile := ⟨root, []⟩

/-- The rules of an ignore file's bytes. -/
def ofBytes (root : String) (bytes : ByteArray) : RuleFile :=
  ⟨root, (linesOfBytes bytes).filterMap Rule.ofLine⟩

/-- A path relative to the file's directory: the directory's text cut off its front, then one
`/`; a bare file name is left as it is. -/
def relative (f : RuleFile) (path : String) : String :=
  let path := if path.startsWith "./" then (path.drop 2).toString else path
  let root := if f.root.startsWith "./" then (f.root.drop 2).toString else f.root
  if root != "." && path.toList.contains '/' && path.startsWith root then
    let rest := (path.drop root.length).toString
    if rest.startsWith "/" then (rest.drop 1).toString else rest
  else path

/-- The verdict on a path already relative to the file's directory: the last rule that matches
and applies decides. -/
def verdictRelative (f : RuleFile) (path : String) (isDir : Bool) : Verdict :=
  match f.rules.reverse.find? fun r => (!r.dirOnly || isDir) && r.glob.matchesPath path with
  | some r => if r.allows then .allowed else .ignored
  | none => .unmatched

/-- The verdict on a path. -/
def verdict (f : RuleFile) (path : String) (isDir : Bool) : Verdict :=
  if f.rules.isEmpty then .unmatched else f.verdictRelative (f.relative path) isDir

/-- The verdict on a path, or else on the nearest of its directories that has one. -/
def verdictWithParents (f : RuleFile) (path : String) (isDir : Bool) : Verdict :=
  if f.rules.isEmpty then .unmatched
  else
    let rel := f.relative path
    let cs := Path.components rel
    -- the directories above the path, nearest first: `a/b/c` has `a/b`, `a` and the empty path
    let parents := (List.range cs.length).reverse.map fun n => Path.ofComponents (cs.take n)
    (f.verdictRelative rel isDir).orElse
      (Verdict.first (parents.map fun p => f.verdictRelative p true))

end RuleFile

end KeyIntern.Ignore
