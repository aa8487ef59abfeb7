import KeyIntern.Text.CharClass
import KeyIntern.Script.Token

/-! # Reading tokens

The lexer reads one token at a time from a position of the text, skipping blanks, line
breaks and comments before it. Which token a character begins can depend on where the
reader stands (a `/` may begin a regular expression, a `}` may continue a template, a `>`
may join the characters after it, JSX has its own text and names), so the reader asks for
those readings explicitly: `next` reads ordinary tokens, and `regexAt`, `templateAt`,
`greaterAt`, `lessAt`, `jsxNameAt`, `jsxStringAt` and `jsxChildAt` read a token again in
one of the other modes.

A lexeme that cannot be completed ends the text: the reader answers the end there, and
nothing after it is ever read. Such are a character that begins no token, an unterminated
string, template or regular expression, flags that no regular expression has, a radix
prefix without digits, a numeric literal run into the letters after it, and a word run into
a character outside ASCII that belongs to no token. Whether the script is still whole then
depends on where the end falls: between statements it is, inside one it is not. Lesser
faults leave a token with a value: an escape that denotes nothing in a word or a string
adds nothing to it, and an exponent without digits leaves a number that no production
accepts.

Every reading loop advances through the text, and terminates by the length of what is left.
-/

namespace KeyIntern.Script.Lexer

open KeyIntern.Text

/-- The text being read, as an array of characters. -/
abbrev Source := Array Char

/-- The reading of a lexeme that cannot be completed: the end of the text, reached at once. -/
def failed (src : Source) : TokenKind × Nat := (.eof, src.size)

/-! ## Escapes -/

/-- The value of the hexadecimal digit at `i`, if there is one. -/
def hexDigitAt (src : Source) (i : Nat) : Option Nat :=
  match src[i]? with
  | some c => if isHexDigit c then some (hexValue c) else none
  | none => none

/-- Reads four hexadecimal digits from `i`. The digits are consumed one by one, so a short
run is consumed as far as it goes; the value is there only when all four are. -/
def hexFour (src : Source) (i : Nat) : Option Nat × Nat :=
  go i 4 0
where
  go (j : Nat) : Nat → Nat → Option Nat × Nat
    | 0, acc => (some acc, j)
    | k + 1, acc =>
      match hexDigitAt src j with
      | some d => go (j + 1) k (acc * 16 + d)
      | none => (none, j)

/-- Reads the hexadecimal digits of a braced code point from `i`, with `any` telling whether
one was read already. Reading stops after the digit that takes the value past U+10FFFF,
and then there is no value. -/
def codePointRun (src : Source) (i acc : Nat) (any : Bool) : Option Nat × Nat :=
  if h : i < src.size then
    if isHexDigit src[i] then
      let v := acc * 16 + hexValue src[i]
      if v > 0x10FFFF then (none, i + 1) else codePointRun src (i + 1) v true
    else (if any then some acc else none, i)
  else (if any then some acc else none, i)
termination_by src.size - i

/-- The code point of the UTF-16 pair of a high surrogate `hi` and a low surrogate `lo`. -/
def combineSurrogates (hi lo : Nat) : Nat :=
  0x10000 + (hi - 0xD800) * 0x400 + (lo - 0xDC00)

/-- The code point of a surrogate pair is a character beyond the basic plane. -/
theorem combineSurrogates_bounds {hi lo : Nat} (h1 : 0xD800 ≤ hi) (h2 : hi ≤ 0xDBFF)
    (h3 : 0xDC00 ≤ lo) (h4 : lo ≤ 0xDFFF) :
    0x10000 ≤ combineSurrogates hi lo ∧ combineSurrogates hi lo < 0x110000 := by
  unfold combineSurrogates
  omega

/-- What a `\u` escape denotes: one code point, which may be a surrogate, or the code point
of a surrogate pair written as two escapes. -/
inductive Escaped where
  | point (n : Nat)
  | pair (n : Nat)
  deriving DecidableEq, Repr

/-- Reads the body of a `\u` escape from `i`, just after the `u`: a braced code point, or four
hexadecimal digits. Four digits that make a high surrogate take a following `\u` escape of a
low surrogate with them; when none follows they stand alone. Answers what the escape denotes,
none when it is malformed, and the index after what was consumed. -/
def unicodeEscape (src : Source) (i : Nat) : Option Escaped × Nat :=
  if src[i]? == some '{' then
    match codePointRun src (i + 1) 0 false with
    | (some v, j) => if src[j]? == some '}' then (some (.point v), j + 1) else (none, j)
    | (none, j) => (none, j)
  else
    match hexFour src i with
    | (some hi, j) =>
      if 0xD800 ≤ hi && hi ≤ 0xDBFF && src[j]? == some '\\' && src[j + 1]? == some 'u' then
        match hexFour src (j + 2) with
        | (some lo, k) =>
          if 0xDC00 ≤ lo && lo ≤ 0xDFFF then (some (.pair (combineSurrogates hi lo)), k)
          else (some (.point hi), j)
        | (none, _) => (some (.point hi), j)
      else (some (.point hi), j)
    | (none, j) => (none, j)

/-- The character of a code point, unless it is a surrogate or out of range. -/
def scalar? (n : Nat) : Option Char :=
  if n < 0xD800 || (0xDFFF < n && n < 0x110000) then some (Char.ofNat n) else none

/-! ## Trivia -/

/-- The index of the first line break at or after `i`, or the end of the text. -/
def lineEnd (src : Source) (i : Nat) : Nat :=
  if h : i < src.size then
    if isLineBreak src[i] then i else lineEnd src (i + 1)
  else src.size
termination_by src.size - i

/-- The index after the `*/` that closes a block comment whose body starts at `i`, or the end
of the text, and whether the comment holds a line break. -/
def blockCommentEnd (src : Source) (i : Nat) (sawBreak : Bool) : Nat × Bool :=
  if h : i < src.size then
    let c := src[i]
    if c == '*' && src[i + 1]? == some '/' then (i + 2, sawBreak)
    else blockCommentEnd src (i + 1) (sawBreak || isLineBreak c)
  else (src.size, sawBreak)
termination_by src.size - i

/-- Skips blanks, line breaks and comments from `i`; answers where the next token starts and
whether a line break was passed. -/
def skipTrivia (src : Source) (i : Nat) (sawBreak : Bool) : Nat × Bool :=
  if h : i < src.size then
    let c := src[i]
    if isBlank c then skipTrivia src (i + 1) sawBreak
    else if isLineBreak c then skipTrivia src (i + 1) true
    else if c == '/' && src[i + 1]? == some '/' then
      skipTrivia src (max (lineEnd src (i + 2)) (i + 1)) sawBreak
    else if c == '/' && src[i + 1]? == some '*' then
      let (j, b) := blockCommentEnd src (i + 2) false
      skipTrivia src (max j (i + 1)) (sawBreak || b)
    else (i, sawBreak)
  else (i, sawBreak)
termination_by src.size - i

/-! ## Words -/

/-- Reads an escape inside a word from `i`, just after its backslash. The character after the
backslash is consumed whatever it is, and only a `\u` escape of one code point that is a
character denotes something. Answers that character and the index after the escape. -/
def wordEscape (src : Source) (i : Nat) : Option Char × Nat :=
  match src[i]? with
  | none => (none, i)
  | some 'u' =>
    match unicodeEscape src (i + 1) with
    | (some (.point n), j) => (scalar? n, j)
    | (_, j) => (none, j)
  | some _ => (none, i + 1)

/-- Whether a character outside ASCII that cannot continue a word ends it cleanly: a blank or
a line break does; any other such character spoils the word. -/
def endsWordCleanly (c : Char) : Bool :=
  c.toNat < 0x80 || isBlank c || isLineBreak c

/-- Reads the rest of a word from `i`: identifier characters and escapes. `atStart` holds
while nothing of the word has been read; an escape there adds its character only when it
may begin an identifier, a later one only when it may continue one, and an escape that
denotes no such character adds nothing. Answers the characters read, whether an escape
occurred and where the word stops, or none when the word runs into a character that spoils
it. -/
def wordRest (src : Source) (i : Nat) (acc : List Char) (escaped atStart : Bool) :
    Option (List Char × Bool × Nat) :=
  if h : i < src.size then
    let c := src[i]
    if isIdPart c then wordRest src (i + 1) (c :: acc) escaped false
    else if c == '\\' then
      let (d, j) := wordEscape src (i + 1)
      let acc' :=
        match d with
        | some d => if (if atStart then isIdStart d else isIdPart d) then d :: acc else acc
        | none => acc
      wordRest src (max j (i + 1)) acc' true false
    else if endsWordCleanly c then some (acc.reverse, escaped, i)
    else none
  else some (acc.reverse, escaped, i)
termination_by src.size - i

/-- Reads a word that starts at `i`, with an identifier start or a backslash. -/
def readWord (src : Source) (i : Nat) : TokenKind × Nat :=
  match wordRest src i [] false true with
  | some (cs, escaped, j) => (.word (String.ofList cs) escaped, max j (i + 1))
  | none => failed src

/-! ## Numbers

A numeric literal is read as far as its grammar allows. A literal followed at once by an
identifier start or a digit (`3in`, `1n2`, `5.toString`) cannot be completed, nor can a radix
literal without digits (`0x`) or one whose separator `_` no digit follows (`0x1_`). A
decimal separator that no digit follows ends the digits after it and spoils nothing, and an
exponent without digits (`1e`) leaves a literal whose value cannot be computed.
-/

/-- Skips the digits of `ok` from `i`, with separators `_` between them; a separator that no
digit follows ends the run after it. -/
def digitRun (src : Source) (ok : Char → Bool) (i : Nat) : Nat :=
  if h : i < src.size then
    if ok src[i] then digitRun src ok (i + 1)
    else if src[i] == '_' then
      if (src[i + 1]?.map ok).getD false then digitRun src ok (i + 1) else i + 1
    else i
  else i
termination_by src.size - i

/-- Ends a numeric literal at `j`: a literal followed at once by an identifier start or a digit
cannot be completed. -/
def numberEnd (src : Source) (kind : TokenKind) (j : Nat) : TokenKind × Nat :=
  match src[j]? with
  | some c => if isIdStart c || isDigit c then failed src else (kind, j)
  | none => (kind, j)

/-- Reads the digits of an exponent whose sign, if any, ends at `k`, then ends the literal;
without digits the literal has no value. -/
def exponentDigits (src : Source) (k : Nat) : TokenKind × Nat :=
  if (src[k]?.map isDigit).getD false then numberEnd src .number (digitRun src isDigit k)
  else numberEnd src .malformed k

/-- The index after an optional sign at `k`. -/
def signEnd (src : Source) (k : Nat) : Nat :=
  if src[k]? == some '+' || src[k]? == some '-' then k + 1 else k

/-- Reads an optional exponent at `j`, then ends the literal. -/
def exponent (src : Source) (j : Nat) : TokenKind × Nat :=
  match src[j]? with
  | some 'e' | some 'E' => exponentDigits src (signEnd src (j + 1))
  | _ => numberEnd src .number j

/-- Reads the fraction after a decimal point that ends at `j`, then an optional exponent. -/
def fraction (src : Source) (j : Nat) : TokenKind × Nat :=
  exponent src (if (src[j]?.map isDigit).getD false then digitRun src isDigit j else j)

/-- Reads a decimal literal whose integer digits end at `j`: a fraction, an exponent or a
`BigInt` suffix may follow. -/
def decimalTail (src : Source) (j : Nat) : TokenKind × Nat :=
  match src[j]? with
  | some '.' => fraction src (j + 1)
  | some 'n' => numberEnd src .bigint (j + 1)
  | _ => exponent src j

/-- The index after the run of decimal digits from `i`, with no separators. -/
def plainDigits (src : Source) (i : Nat) : Nat :=
  if h : i < src.size then
    if isDigit src[i] then plainDigits src (i + 1) else i
  else i
termination_by src.size - i

/-- Reads a numeric literal that starts at `i` with a digit, or with `.` and a digit. -/
def readNumber (src : Source) (i : Nat) : TokenKind × Nat :=
  match src[i]?, src[i + 1]? with
  | some '.', _ => fraction src (i + 1)
  | some '0', some c =>
    if c == 'x' || c == 'X' then radix isHexDigit
    else if c == 'o' || c == 'O' then radix (fun d => '0' ≤ d && d ≤ '7')
    else if c == 'b' || c == 'B' then radix (fun d => d == '0' || d == '1')
    else if c == 'e' || c == 'E' || c == '.' || c == 'n' then decimalTail src (i + 1)
    else if isDigit c then
      let j := plainDigits src (i + 1)
      if (src.extract (i + 1) j).all (· ≤ '7') then numberEnd src .number j
      else if src[j]? == some '.' then fraction src (j + 1)
      else if src[j]? == some 'e' then legacyExponent (signEnd src (j + 1))
      else numberEnd src .number j
    else numberEnd src .number (i + 1)
  | _, _ => decimalTail src (digitRun src isDigit i)
where
  /-- A literal with a radix prefix: it needs a digit after the prefix, and a digit after each
  separator. -/
  radix (ok : Char → Bool) : TokenKind × Nat :=
    if (src[i + 2]?.map ok).getD false then
      let j := digitRun src ok (i + 2)
      if src[j - 1]? == some '_' then failed src
      else if src[j]? == some 'n' then numberEnd src .bigint (j + 1)
      else numberEnd src .number j
    else failed src
  /-- The exponent of a decimal literal written with a leading zero (`08e1`), whose sign ends
  at `k`; nothing after it is looked at. -/
  legacyExponent (k : Nat) : TokenKind × Nat :=
    if (src[k]?.map isDigit).getD false then (.number, digitRun src isDigit k) else (.malformed, k)

/-- A numeric literal followed at once by an identifier start ends the text (`3in`, `1n2`). -/
theorem numberEnd_of_idStart (src : Source) (kind : TokenKind) (j : Nat) (c : Char)
    (h : src[j]? = some c) (hc : isIdStart c = true) :
    numberEnd src kind j = failed src := by
  simp [numberEnd, h, hc]

/-- A numeric literal never ends before where its reading stopped. -/
theorem le_numberEnd (src : Source) (kind : TokenKind) (j : Nat) :
    j ≤ (numberEnd src kind j).2 := by
  unfold numberEnd
  split
  · next c h =>
    have hj : j < src.size := by
      rw [Array.getElem?_eq_some_iff] at h
      exact h.1
    split
    · simp only [failed]
      omega
    · exact Nat.le_refl j
  · exact Nat.le_refl j

/-! ## Strings

The value of a string literal is a text, and a lone surrogate escape (`"\ud800"`) denotes no
character of one. Such a surrogate is written in the value as U+FFFD followed by its four
lowercase hexadecimal digits; in a value that holds one, a U+FFFD of the literal itself is
written as U+FFFD followed by `fffd`, so that the two never meet.
-/

/-- A piece of the value of a string literal: a character, or a lone surrogate code unit. -/
inductive Piece where
  | char (c : Char)
  | lone (unit : Nat)
  deriving DecidableEq, Repr

/-- The four lowercase hexadecimal digits of a code unit. -/
def hexDigits4 (n : Nat) : List Char :=
  [n / 4096 % 16, n / 256 % 16, n / 16 % 16, n % 16].map fun d =>
    if d < 10 then Char.ofNat (d + 48) else Char.ofNat (d + 87)

/-- The characters that stand for one piece; `marked` tells whether the value holds a lone
surrogate. -/
def Piece.spelled (marked : Bool) : Piece → List Char
  | .char c => if marked && c == '\uFFFD' then '\uFFFD' :: hexDigits4 0xFFFD else [c]
  | .lone u => '\uFFFD' :: hexDigits4 u

/-- Whether a piece is a lone surrogate. -/
def Piece.isLone : Piece → Bool
  | .lone _ => true
  | .char _ => false

/-- The value of a string literal made of `pieces`. -/
def stringValue (pieces : List Piece) : String :=
  let marked := pieces.any Piece.isLone
  String.ofList (pieces.flatMap (Piece.spelled marked))

/-- Unmarked characters are spelled as themselves. -/
theorem flatMap_spelled_chars (cs : List Char) :
    (cs.map Piece.char).flatMap (Piece.spelled false) = cs := by
  induction cs with
  | nil => rfl
  | cons c cs ih =>
    rw [List.map_cons, List.flatMap_cons, ih]
    simp [Piece.spelled]

/-- A value without lone surrogates is just its characters. -/
theorem stringValue_chars (cs : List Char) :
    stringValue (cs.map Piece.char) = String.ofList cs := by
  have hm : (cs.map Piece.char).any Piece.isLone = false := by
    simp [Piece.isLone]
  simp only [stringValue, hm, flatMap_spelled_chars]

/-- Reads up to `n` more octal digits after a first one of value `acc`, keeping the value at most
255. -/
def octalRun (src : Source) (j : Nat) : Nat → Nat → Nat × Nat
  | 0, acc => (acc, j)
  | k + 1, acc =>
    match src[j]? with
    | some d =>
      if '0' ≤ d && d ≤ '7' && acc * 8 + (d.toNat - '0'.toNat) ≤ 255 then
        octalRun src (j + 1) k (acc * 8 + (d.toNat - '0'.toNat))
      else (acc, j)
    | none => (acc, j)

/-- Reads one escape sequence of a string from `i`, just after its backslash: the pieces it
denotes (none for a line continuation or a malformed escape) and the index after it, or none
when the text ends there. -/
def stringEscape (src : Source) (i : Nat) : Option (List Piece × Nat) :=
  match src[i]? with
  | none => none
  | some c =>
    if c == '\n' || c.toNat == 0x2028 || c.toNat == 0x2029 then some ([], i + 1)
    else if c == '\r' then some ([], if src[i + 1]? == some '\n' then i + 2 else i + 1)
    else if c == 'n' then some ([.char '\n'], i + 1)
    else if c == 't' then some ([.char '\t'], i + 1)
    else if c == 'r' then some ([.char '\r'], i + 1)
    else if c == 'b' then some ([.char (Char.ofNat 8)], i + 1)
    else if c == 'f' then some ([.char (Char.ofNat 12)], i + 1)
    else if c == 'v' then some ([.char (Char.ofNat 11)], i + 1)
    else if c == 'x' then
      match hexDigitAt src (i + 1) with
      | some hi =>
        match hexDigitAt src (i + 2) with
        | some lo => some ([.char (Char.ofNat (hi * 16 + lo))], i + 3)
        | none => some ([], i + 2)
      | none => some ([], i + 1)
    else if c == 'u' then
      match unicodeEscape src (i + 1) with
      | (some (.point n), j) =>
        some ([match scalar? n with | some d => .char d | none => .lone n], j)
      | (some (.pair n), j) => some ([.char (Char.ofNat n)], j)
      | (none, j) => some ([], j)
    else if '0' ≤ c && c ≤ '7' then
      let (v, j) := octalRun src (i + 1) 2 (c.toNat - '0'.toNat)
      some ([.char (Char.ofNat v)], j)
    else some ([.char c], i + 1)

/-- Reads the body of a string literal from `i` up to the closing `quote`, gathering the pieces
of its value in reverse; none when the string is not closed before a line feed, a carriage
return or the end of the text. -/
def stringBody (src : Source) (quote : Char) (i : Nat) (acc : List Piece) :
    Option (String × Nat) :=
  if h : i < src.size then
    let c := src[i]
    if c == quote then some (stringValue acc.reverse, i + 1)
    else if c == '\n' || c == '\r' then none
    else if c == '\\' then
      match stringEscape src (i + 1) with
      | some (ps, j) => stringBody src quote (max j (i + 1)) (ps.reverse ++ acc)
      | none => none
    else stringBody src quote (i + 1) (.char c :: acc)
  else none
termination_by src.size - i

/-! ## Templates and regular expressions -/

/-- Reads a template piece from `i` (just after its opening `` ` `` or `}`); answers whether a
substitution follows it and where it stops, or none when the text ends first. -/
def templateBody (src : Source) (i : Nat) : Option (Bool × Nat) :=
  if h : i < src.size then
    let c := src[i]
    if c == '`' then some (false, i + 1)
    else if c == '$' && src[i + 1]? == some '{' then some (true, i + 2)
    else if c == '\\' then templateBody src (i + 2)
    else templateBody src (i + 1)
  else none
termination_by src.size - i

/-- Reads the body of a regular expression from `i` (after its first `/`), with a flag for
being inside a class; answers the index after the closing `/`, or none when a line break or
the end comes first. -/
def regexBody (src : Source) (i : Nat) (inClass : Bool) : Option Nat :=
  if h : i < src.size then
    let c := src[i]
    if isLineBreak c then none
    else if c == '\\' then
      match src[i + 1]? with
      | some d => if isLineBreak d then none else regexBody src (i + 2) inClass
      | none => none
    else if c == '[' then regexBody src (i + 1) true
    else if c == ']' then regexBody src (i + 1) false
    else if c == '/' && !inClass then some (i + 1)
    else regexBody src (i + 1) inClass
  else none
termination_by src.size - i

/-- The flags a regular expression may carry. -/
def regexFlags : List Char := ['d', 'g', 'i', 'm', 's', 'u', 'v', 'y']

/-- Whether a character is read as a flag after a regular expression: an ASCII letter or digit,
`$` or `_`. -/
def isFlagChar (c : Char) : Bool :=
  isAsciiLetter c || isDigit c || c == '$' || c == '_'

/-- Reads the flags after a regular expression from `i`, with the flags `seen` so far; answers
the index after them, or none when one is no flag or comes twice. -/
def flagRun (src : Source) (i : Nat) (seen : List Char) : Option Nat :=
  if h : i < src.size then
    let c := src[i]
    if isFlagChar c then
      if regexFlags.contains c && !seen.contains c then flagRun src (i + 1) (c :: seen)
      else none
    else some i
  else some i
termination_by src.size - i

/-! ## Punctuators -/

/-- The punctuator that starts at `i`, with its length, reading greedily except that `>` stands
alone and `?.` before a digit is a `?`. -/
def punctAt (src : Source) (i : Nat) : Option (Punct × Nat) :=
  let at1 := src[i + 1]?
  let at2 := src[i + 2]?
  match src[i]? with
  | some '{' => some (.lbrace, 1)
  | some '}' => some (.rbrace, 1)
  | some '(' => some (.lparen, 1)
  | some ')' => some (.rparen, 1)
  | some '[' => some (.lbracket, 1)
  | some ']' => some (.rbracket, 1)
  | some ';' => some (.semicolon, 1)
  | some ',' => some (.comma, 1)
  | some ':' => some (.colon, 1)
  | some '~' => some (.tilde, 1)
  | some '@' => some (.at, 1)
  | some '.' => if at1 == some '.' && at2 == some '.' then some (.ellipsis, 3) else some (.dot, 1)
  | some '>' => some (.greater, 1)
  | some '<' =>
    if at1 == some '<' then
      if at2 == some '=' then some (.shiftLeftEq, 3) else some (.shiftLeft, 2)
    else if at1 == some '=' then some (.lessEq, 2)
    else some (.less, 1)
  | some '=' =>
    if at1 == some '=' then
      if at2 == some '=' then some (.eqEqEq, 3) else some (.eqEq, 2)
    else if at1 == some '>' then some (.arrow, 2)
    else some (.assign, 1)
  | some '!' =>
    if at1 == some '=' then
      if at2 == some '=' then some (.bangEqEq, 3) else some (.bangEq, 2)
    else some (.bang, 1)
  | some '+' =>
    if at1 == some '+' then some (.plusPlus, 2)
    else if at1 == some '=' then some (.plusEq, 2)
    else some (.plus, 1)
  | some '-' =>
    if at1 == some '-' then some (.minusMinus, 2)
    else if at1 == some '=' then some (.minusEq, 2)
    else some (.minus, 1)
  | some '*' =>
    if at1 == some '*' then
      if at2 == some '=' then some (.starStarEq, 3) else some (.starStar, 2)
    else if at1 == some '=' then some (.starEq, 2)
    else some (.star, 1)
  | some '/' => if at1 == some '=' then some (.slashEq, 2) else some (.slash, 1)
  | some '%' => if at1 == some '=' then some (.percentEq, 2) else some (.percent, 1)
  | some '&' =>
    if at1 == some '&' then
      if at2 == some '=' then some (.ampAmpEq, 3) else some (.ampAmp, 2)
    else if at1 == some '=' then some (.ampEq, 2)
    else some (.amp, 1)
  | some '|' =>
    if at1 == some '|' then
      if at2 == some '=' then some (.barBarEq, 3) else some (.barBar, 2)
    else if at1 == some '=' then some (.barEq, 2)
    else some (.bar, 1)
  | some '^' => if at1 == some '=' then some (.caretEq, 2) else some (.caret, 1)
  | some '?' =>
    if at1 == some '?' then
      if at2 == some '=' then some (.questionQuestionEq, 3) else some (.questionQuestion, 2)
    else if at1 == some '.' && !(at2.map isDigit).getD false then some (.questionDot, 2)
    else some (.question, 1)
  | _ => none

/-! ## Tokens -/

/-- Reads the token that starts at `i`, which is no trivia. -/
def tokenAt (src : Source) (i : Nat) : TokenKind × Nat :=
  match src[i]? with
  | none => (.eof, i)
  | some c =>
    if isIdStart c || c == '\\' then readWord src i
    else if isDigit c || (c == '.' && (src[i + 1]?.map isDigit).getD false) then readNumber src i
    else if c == '"' || c == '\'' then
      match stringBody src c (i + 1) [] with
      | some (v, j) => (.string v, j)
      | none => failed src
    else if c == '`' then
      match templateBody src (i + 1) with
      | some (more, j) => (.template (if more then .head else .whole), j)
      | none => failed src
    else if c == '#' then
      match src[i + 1]? with
      | some d =>
        if isIdStart d || d == '\\' then
          match wordRest src (i + 1) [] false true with
          | some (cs, _, j) => (.privateName (String.ofList cs), max j (i + 1))
          | none => failed src
        else failed src
      | none => failed src
    else
      match punctAt src i with
      | some (p, n) => (.punct p, i + n)
      | none => failed src

/-- The ordinary token after position `i`, with the trivia before it skipped. -/
def next (src : Source) (i : Nat) : Token :=
  let (j, sawBreak) := skipTrivia src i false
  let (kind, k) := tokenAt src j
  ⟨kind, j, k, sawBreak⟩

/-- The first token of a text, after a leading `#!` line. -/
def first (src : Source) : Token :=
  if src[0]? == some '#' && src[1]? == some '!' then next src (lineEnd src 2) else next src 0

/-- The token `t` turned into the end of the text. -/
def toEnd (src : Source) (t : Token) : Token :=
  { t with kind := .eof, stop := src.size }

/-- Reads a `/` or `/=` token again as a regular expression literal with its flags. -/
def regexAt (src : Source) (t : Token) : Token :=
  match regexBody src (t.start + 1) false with
  | some j =>
    match flagRun src j [] with
    | some k => { t with kind := .regex, stop := k }
    | none => toEnd src t
  | none => toEnd src t

/-- Reads a `}` token again as the continuation of a template. -/
def templateAt (src : Source) (t : Token) : Token :=
  match templateBody src (t.start + 1) with
  | some (more, j) => { t with kind := .template (if more then .middle else .tail), stop := j }
  | none => toEnd src t

/-- Reads a `>` token again together with the characters that follow it: `>>>=`, `>>>`, `>>=`,
`>>`, `>=` or `>`. -/
def greaterAt (src : Source) (t : Token) : Token :=
  let s := t.start
  let c1 := src[s + 1]?
  let c2 := src[s + 2]?
  let c3 := src[s + 3]?
  let (p, n) :=
    if c1 == some '>' then
      if c2 == some '>' then (if c3 == some '=' then (Punct.shiftRightUnsignedEq, 4) else (.shiftRightUnsigned, 3))
      else if c2 == some '=' then (.shiftRightEq, 3)
      else (.shiftRight, 2)
    else if c1 == some '=' then (.greaterEq, 2)
    else (.greater, 1)
  { t with kind := .punct p, stop := s + n }

/-- Reads a `<<` or `<=` token again as a lone `<`. -/
def lessAt (t : Token) : Token :=
  { t with kind := .punct .less, stop := t.start + 1 }

/-- The index after the JSX name characters (identifier characters and `-`) from `j`. -/
def jsxNameEnd (src : Source) (j : Nat) : Nat :=
  if h : j < src.size then
    if src[j] == '-' || isIdPart src[j] then jsxNameEnd src (j + 1) else j
  else j
termination_by src.size - j

/-- Extends a word token into a JSX name, which may also hold `-`. -/
def jsxNameAt (src : Source) (t : Token) : Token :=
  let stop := jsxNameEnd src t.stop
  let name := String.ofList ((src.extract t.start stop).toList)
  { t with kind := .word name false, stop := stop }

/-- Reads a JSX attribute string that starts at the token `t`: everything up to the matching
quote, escapes not being special. An unclosed one ends the text. -/
def jsxStringAt (src : Source) (t : Token) : Token :=
  match src[t.start]? with
  | some q =>
    match close q (t.start + 1) with
    | some j =>
      { t with kind := .string (String.ofList ((src.extract (t.start + 1) (j - 1)).toList)),
               stop := j }
    | none => toEnd src t
  | none => t
where
  close (q : Char) (j : Nat) : Option Nat :=
    if h : j < src.size then
      if src[j] == q then some (j + 1) else close q (j + 1)
    else none
  termination_by src.size - j

/-- Reads the JSX child that starts at `i`: `{`, `<`, the end, or text up to one of them. Text
that runs into a `>` or a `}` ends the text. -/
def jsxChildAt (src : Source) (i : Nat) : Token :=
  match src[i]? with
  | none => ⟨.eof, i, i, false⟩
  | some '{' => ⟨.punct .lbrace, i, i + 1, false⟩
  | some '<' => ⟨.punct .less, i, i + 1, false⟩
  | some _ =>
    let j := textEnd i
    match src[j]? with
    | some '>' | some '}' => ⟨.eof, i, src.size, false⟩
    | _ => ⟨.jsxText, i, j, false⟩
where
  textEnd (j : Nat) : Nat :=
    if h : j < src.size then
      if src[j] == '{' || src[j] == '<' || src[j] == '>' || src[j] == '}' then j else textEnd (j + 1)
    else j
  termination_by src.size - j

end KeyIntern.Script.Lexer
