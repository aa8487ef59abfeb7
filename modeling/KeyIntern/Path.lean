/-! # Paths

A path is text read by the Unix rules: an optional leading `/` is the root, `/` separates
components, empty components and `.` are dropped except a `.` that begins a relative path,
and `..` names the parent. Joining, cleaning, prefix tests and the extension all work on
the components.

Main statements: `join_of_isAbsolute`, joining an absolute path replaces the base, and
`startsWith_self`, every path begins with itself.
-/

namespace KeyIntern.Path

/-- One component of a path. -/
inductive Component where
  | root
  | current
  | parent
  | normal (name : String)
  deriving DecidableEq, Repr, Inhabited

/-- Whether the path begins at the root. -/
def isAbsolute (p : String) : Bool :=
  p.toList.head? == some '/'

/-- The pieces of a text between its `/` separators. -/
def segments : List Char → List (List Char)
  | [] => [[]]
  | c :: rest =>
    match segments rest with
    | [] => [[c]]
    | first :: more => if c = '/' then [] :: first :: more else (c :: first) :: more

/-- The components named by the pieces of a path: empty pieces and `.` are dropped. -/
def segmentComponents (pieces : List (List Char)) : List Component :=
  pieces.filterMap fun s =>
    if s = [] || s = ['.'] then none
    else if s = ['.', '.'] then some .parent
    else some (.normal (String.ofList s))

/-- The components of a path. -/
def components (p : String) : List Component :=
  let pieces := segments p.toList
  if isAbsolute p then .root :: segmentComponents pieces
  else
    match pieces with
    | ['.'] :: rest => .current :: segmentComponents rest
    | _ => segmentComponents pieces

/-- The text of a component list: the root is a leading `/`, the rest joined by `/`. -/
def ofComponents : List Component → String
  | [] => ""
  | .root :: rest => "/" ++ "/".intercalate (rest.map componentText)
  | cs => "/".intercalate (cs.map componentText)
where
  componentText : Component → String
    | .root => ""
    | .current => "."
    | .parent => ".."
    | .normal n => n

/-- Appends `p` to `base`: an absolute `p` replaces `base`, otherwise a separator is put between
them unless `base` is empty or already ends with one. -/
def join (base p : String) : String :=
  if isAbsolute p then p
  else if base.isEmpty || base.endsWith "/" then base ++ p
  else base ++ "/" ++ p

/-- The last component, when it is a name. -/
def fileName? (p : String) : Option String :=
  match (components p).getLast? with
  | some (.normal n) => some n
  | _ => none

/-- The extension of the file name: the text after its last `.`, unless that `.` is its first
character. -/
def extension? (p : String) : Option String :=
  match fileName? p with
  | none => none
  | some n =>
    match (n.toList.splitOn '.').reverse with
    | [] | [_] => none
    | [_, []] => none
    | ext :: _ => some (String.ofList ext)

/-- The components of `p` after those of `base`, when `base`'s components begin `p`'s. -/
def stripPrefix? (p base : String) : Option (List Component) :=
  let pc := components p
  let bc := components base
  if bc.isPrefixOf pc then some (pc.drop bc.length) else none

/-- Whether `base`'s components begin `p`'s. -/
def startsWith (p base : String) : Bool :=
  (components base).isPrefixOf (components p)

/-- Evaluates components on a stack: `.` is skipped, `..` pops a name, stays at the root, and is
kept when nothing can be popped. -/
def cleanStep (out : List Component) : Component → List Component
  | .current => out
  | .parent =>
    match out with
    | .normal _ :: rest => rest
    | .root :: rest => .root :: rest
    | _ => .parent :: out
  | c => c :: out

/-- The lexically simplest form of a path; an empty result is `.`. -/
def clean (p : String) : String :=
  match ((components p).foldl cleanStep []).reverse with
  | [] => "."
  | cs => ofComponents cs

theorem join_of_isAbsolute (base p : String) (h : isAbsolute p = true) : join base p = p := by
  simp [join, h]

theorem startsWith_self (p : String) : startsWith p p = true := by
  simp [startsWith]

example : clean "/a/b/../../../c" = "/c" := by decide +kernel
example : extension? "a." = some "" ∧ extension? ".ts" = none ∧ extension? "x/a.b.c" = some "c" := by
  decide +kernel

end KeyIntern.Path
