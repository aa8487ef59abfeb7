/-! # Glob patterns

A glob pattern of an ignore file matches a whole path, byte by byte:

* `?` is one byte other than `/`, and `*` any run of such bytes;
* `**` as a whole component spans directories: `**/` in front is nothing, `/`, or anything
  ending in `/`; `/**` at the end of the pattern or of a branch is `/` and anything; `/**/`
  inside is `/` or `/`, anything, `/`; a `**` elsewhere is two `*`;
* `[…]` is one byte of a set of ranges, `[!…]` or `[^…]` one byte outside it; a `]` or `-`
  first in the set stands for itself, as does a `-` last; a backwards range is an error, and a
  `[` that no `]` closes is itself;
* `{a,b}` is any of its comma-separated branches, which may nest; an empty branch is dropped,
  and an alternation of empty branches only is nothing;
* `\` makes the next character literal, and a `\` at the end is an error; and every other
  character is itself, as its UTF-8 bytes.

A pattern is parsed into pieces, and matched by following every way the pieces can consume the
path, as the set of positions reached; the path matches when its end is reached.

Main statements: `matchesPath` on the examples at the end of the module.
-/

namespace KeyIntern.Ignore

/-- One element of a parsed glob. -/
inductive Token where
  | literal (c : Char)
  | any
  | zeroOrMore
  | recursivePrefix
  | recursiveSuffix
  | recursiveZeroOrMore
  | charClass (negated : Bool) (ranges : List (Char × Char))
  | alternates (branches : List (List Token))
  deriving Inhabited

/-- Where parsing a glob stands: the branches being built (each newest token first; the last
branch is the current one), the branch indices where open alternations began, and the character
before the one being read. -/
structure ParseState where
  branches : Array (List Token)
  openAlternates : List Nat
  prev : Option Char

namespace ParseState

/-- Adds a token to the current branch. -/
def push (s : ParseState) (t : Token) : ParseState :=
  { s with branches := s.branches.modify (s.branches.size - 1) (t :: ·) }

/-- Removes the newest token of the current branch. -/
def pop (s : ParseState) : Option Token × ParseState :=
  match s.branches.back? with
  | some (t :: rest) => (some t, { s with branches := s.branches.modify (s.branches.size - 1) fun _ => rest })
  | _ => (none, s)

/-- Whether the current branch has a token. -/
def hasTokens (s : ParseState) : Bool :=
  match s.branches.back? with
  | some (_ :: _) => true
  | _ => false

/-- Closes the innermost alternation into one token. -/
def closeAlternates (s : ParseState) : Option ParseState :=
  match s.openAlternates with
  | [] => none
  | start :: rest =>
    let alts := (s.branches.extract start s.branches.size).toList.map List.reverse
    some ({ s with branches := s.branches.extract 0 start, openAlternates := rest }.push
      (.alternates alts))

end ParseState

/-- Adds one character to the last range of a class; a backwards range is an error. -/
def extendRange (ranges : List (Char × Char)) (c : Char) : Option (List (Char × Char)) :=
  match ranges with
  | (lo, _) :: rest => if c < lo then none else some ((lo, c) :: rest)
  | [] => some [(c, c)]

/-- How the reading of a class after `[` ends. -/
inductive ClassEnd where
  /-- closed by `]`, with the characters after it -/
  | closed (ranges : List (Char × Char)) (rest : List Char)
  /-- the pattern ends first -/
  | unclosed
  /-- a range runs backwards -/
  | backwards

/-- Reads the rest of a class after `[`. `first` says no character of the set was read yet, and
`inRange` that a `-` is pending. -/
def classBody : List Char → List (Char × Char) → Bool → Bool → ClassEnd
  | [], _, _, _ => .unclosed
  | c :: rest, ranges, first, inRange =>
    if c = ']' ∧ !first then
      .closed (if inRange then ('-', '-') :: ranges else ranges).reverse rest
    else if c = ']' then classBody rest ((']', ']') :: ranges) false inRange
    else if c = '-' then
      if first then classBody rest (('-', '-') :: ranges) false inRange
      else if inRange then
        match extendRange ranges '-' with
        | some r => classBody rest r false false
        | none => .backwards
      else classBody rest ranges false true
    else if inRange then
      match extendRange ranges c with
      | some r => classBody rest r false false
      | none => .backwards
    else classBody rest ((c, c) :: ranges) false false

/-- Reads `**` and what follows it, after the two stars; `prev` is the character before them. -/
def doubleStar (s : ParseState) (prev : Option Char) (rest : List Char) : ParseState × List Char :=
  if !s.hasTokens then
    match rest with
    | [] => (s.push .recursivePrefix, [])
    | '/' :: after => ({ s.push .recursivePrefix with prev := some '/' }, after)
    | _ => ((s.push .zeroOrMore).push .zeroOrMore, rest)
  else if prev != some '/' then ((s.push .zeroOrMore).push .zeroOrMore, rest)
  else
    let (isSuffix, after, s) :=
      match rest with
      | [] => (some true, [], s)
      | '/' :: after => (some false, after, { s with prev := some '/' })
      | ',' :: _ | '}' :: _ =>
        if s.openAlternates.isEmpty then (none, rest, s) else (some true, rest, s)
      | _ => (none, rest, s)
    match isSuffix with
    | none => ((s.push .zeroOrMore).push .zeroOrMore, after)
    | some suffix =>
      let (old, s) := s.pop
      let t := match old with
        | some .recursivePrefix => Token.recursivePrefix
        | some .recursiveSuffix => Token.recursiveSuffix
        | _ => if suffix then Token.recursiveSuffix else Token.recursiveZeroOrMore
      (s.push t, after)

/-- Parses the characters of a glob; `none` when it is no valid glob. Each round reads at least
one character, so the length bounds the rounds. -/
def parseChars : Nat → List Char → ParseState → Option ParseState
  | 0, _, s => some s
  | _, [], s => some s
  | fuel + 1, c :: rest, s =>
    let prev := s.prev
    let s := { s with prev := some c }
    if c = '?' then parseChars fuel rest (s.push .any)
    else if c = '*' then
      match rest with
      | '*' :: after =>
        let (s, after) := doubleStar { s with prev := some '*' } prev after
        parseChars fuel after s
      | _ => parseChars fuel rest (s.push .zeroOrMore)
    else if c = '[' then
      let (negated, body) :=
        match rest with
        | '!' :: b => (true, b)
        | '^' :: b => (true, b)
        | b => (false, b)
      match classBody body [] true false with
      | .closed ranges after =>
        parseChars fuel after { s.push (.charClass negated ranges) with prev := some ']' }
      | .unclosed => parseChars fuel rest (s.push (.literal '['))
      | .backwards => none
    else if c = '{' then
      parseChars fuel rest
        { s with branches := s.branches.push [], openAlternates := s.branches.size :: s.openAlternates }
    else if c = '}' then
      match s.closeAlternates with
      | some s => parseChars fuel rest s
      | none => none
    else if c = ',' then
      if s.openAlternates.isEmpty then parseChars fuel rest (s.push (.literal ','))
      else parseChars fuel rest { s with branches := s.branches.push [] }
    else if c = '\\' then
      match rest with
      | e :: after => parseChars fuel after { s.push (.literal e) with prev := some e }
      | [] => none
    else parseChars fuel rest (s.push (.literal c))

/-- The tokens of a glob, or `none` when it is no valid glob. -/
def parseGlob (pattern : String) : Option (List Token) :=
  let cs := pattern.toList
  match parseChars (cs.length + 1) cs ⟨#[[]], [], none⟩ with
  | some s => if s.branches.size = 1 then s.branches[0]?.map List.reverse else none
  | none => none

/-! ## Matching -/

/-- One element of a glob over bytes. -/
inductive Piece where
  | byte (b : UInt8)
  | anyButSlash
  | runButSlash
  | anything
  | byteSet (negated : Bool) (ranges : List (UInt8 × UInt8))
  | choice (branches : List (List Piece))

/-- The byte of `/`. -/
def slash : UInt8 := 0x2F

/-- The byte ranges a class range stands for: the bytes of its ends, with the last byte of the
low end ranging up to the first byte of the high end. -/
def byteRanges (lo hi : Char) : List (UInt8 × UInt8) :=
  let l := (String.singleton lo).toUTF8.toList
  let h := (String.singleton hi).toUTF8.toList
  if lo = hi then l.map fun b => (b, b)
  else
    match l.reverse, h with
    | lLast :: lInit, hFirst :: hRest =>
      lInit.reverse.map (fun b => (b, b)) ++ [(lLast, hFirst)] ++ hRest.map fun b => (b, b)
    | _, _ => []

mutual

/-- The pieces of a token. -/
def Token.pieces : Token → List Piece
  | .literal c => (String.singleton c).toUTF8.toList.map .byte
  | .any => [.anyButSlash]
  | .zeroOrMore => [.runButSlash]
  | .recursivePrefix => [.choice [[], [.byte slash], [.anything, .byte slash]]]
  | .recursiveSuffix => [.byte slash, .anything]
  | .recursiveZeroOrMore => [.choice [[.byte slash], [.byte slash, .anything, .byte slash]]]
  | .charClass negated ranges => [.byteSet negated (ranges.flatMap fun (lo, hi) => byteRanges lo hi)]
  | .alternates branches =>
    match Token.branchPieces branches with
    | [] => []
    | bs => [.choice bs]

/-- The pieces of a sequence of tokens. -/
def Token.seqPieces : List Token → List Piece
  | [] => []
  | t :: ts => t.pieces ++ Token.seqPieces ts

/-- The pieces of the non-empty branches of an alternation; an alternation without one is
nothing at all. -/
def Token.branchPieces : List (List Token) → List (List Piece)
  | [] => []
  | b :: bs =>
    let p := Token.seqPieces b
    if p.isEmpty then Token.branchPieces bs else p :: Token.branchPieces bs

end

/-- The pieces of a whole glob; a glob of `**` alone matches anything. -/
def globPieces : List Token → List Piece
  | [.recursivePrefix] => [.anything]
  | ts => Token.seqPieces ts

/-- The positions from `i` up to the first `/` of the input, or its end. -/
def runEnds (input : ByteArray) (i : Nat) : List Nat :=
  let rest := (input.toList.drop i).takeWhile (· != slash)
  List.range' i (rest.length + 1)

/-- Whether a byte lies in a set of ranges. -/
def inByteRanges (ranges : List (UInt8 × UInt8)) (b : UInt8) : Bool :=
  ranges.any fun (lo, hi) => lo ≤ b && b ≤ hi

mutual

/-- The positions reached from `i` by one piece. -/
def Piece.reach (input : ByteArray) : Piece → Nat → List Nat
  | .byte b, i => if input[i]? = some b then [i + 1] else []
  | .anyButSlash, i =>
    match input[i]? with
    | some c => if c != slash then [i + 1] else []
    | none => []
  | .runButSlash, i => runEnds input i
  | .anything, i => List.range' i (input.size - i + 1)
  | .byteSet negated ranges, i =>
    match input[i]? with
    | some c => if inByteRanges ranges c != negated then [i + 1] else []
    | none => []
  | .choice branches, i => Piece.reachBranches input branches i

/-- The positions reached from `i` by a sequence of pieces. -/
def Piece.reachSeq (input : ByteArray) : List Piece → Nat → List Nat
  | [], i => [i]
  | p :: ps, i => ((p.reach input i).flatMap fun j => Piece.reachSeq input ps j).eraseDups

/-- The positions reached from `i` by any of several branches. -/
def Piece.reachBranches (input : ByteArray) : List (List Piece) → Nat → List Nat
  | [], _ => []
  | b :: bs, i => Piece.reachSeq input b i ++ Piece.reachBranches input bs i

end

/-- A parsed glob, ready to match. -/
structure Glob where
  pieces : List Piece

/-- Compiles a glob pattern, or answers `none` when it is no valid glob. -/
def Glob.compile (pattern : String) : Option Glob :=
  (parseGlob pattern).map fun ts => ⟨globPieces ts⟩

/-- Whether the glob matches the whole of a path. -/
def Glob.matchesPath (g : Glob) (path : String) : Bool :=
  let input := path.toUTF8
  (Piece.reachSeq input g.pieces 0).contains input.size

/-- Whether a pattern is a valid glob that matches the path. -/
def globMatches (pattern path : String) : Bool :=
  match Glob.compile pattern with
  | some g => g.matchesPath path
  | none => false

example : globMatches "**/*.ts" "a/b.ts" = true := by decide +kernel
example : globMatches "**/*.ts" "b.ts" = true := by decide +kernel
example : globMatches "*.ts" "a/b.ts" = false := by decide +kernel
example : globMatches "dist/**/*" "dist/a/b" = true := by decide +kernel
example : globMatches "**/[z-a]" "z" = false := by decide +kernel
example : globMatches "a\x7bb,c\x7dd" "acd" = true := by decide +kernel
example : globMatches "x\x7b,\x7d.ts" "x.ts" = true := by decide +kernel
example : globMatches "k[.ts" "k[.ts" = true := by decide +kernel
example : globMatches "\x7bdist/**,zzz\x7d" "dist/a/b.ts" = true := by decide +kernel

end KeyIntern.Ignore
