import KeyIntern.Decimal.Shortest
import KeyIntern.Text.Shown

/-! # Reading JSON text: positions and errors

A reader walks the UTF-8 bytes of a JSON text with an index. It either answers a value with the
index after it, or fails with an error and the index where it stopped; reading can go on after
a failure, because closing a bracket still consumes input after the contents failed.

An error is placed at a line and a column. The line counts the line feeds before the place, and
the column counts the bytes since the last of them. A syntax error is placed either at the index
itself or one byte after it, the byte the reader looked at; an error about the kind of a value
(such as a number where a string belongs) is created unplaced and placed where reading stands
once the enclosing value is done. The message is the error's wording, then
`at line L column C` when it is placed.
-/

namespace KeyIntern.Json

open Decimal

/-- What a reader found where it wanted a value of another kind. -/
inductive Unexpected where
  | null
  | bool (b : Bool)
  | unsigned (n : Nat)
  | signed (n : Int)
  | float (x : Binary64)
  | string (s : String)
  | sequence
  | map

/-- How a diagnostic names what was found. -/
def Unexpected.text : Unexpected → String
  | .null => "null"
  | .bool b => "boolean `" ++ toString b ++ "`"
  | .unsigned n => "integer `" ++ toString n ++ "`"
  | .signed n => "integer `" ++ toString n ++ "`"
  | .float x => "floating point `" ++ shortestText x ++ "`"
  | .string s => "string " ++ Text.shown s
  | .sequence => "sequence"
  | .map => "map"

/-- Why reading a JSON text failed. -/
inductive ErrorKind where
  | eofWhileParsingList
  | eofWhileParsingObject
  | eofWhileParsingString
  | eofWhileParsingValue
  | expectedColon
  | expectedListCommaOrEnd
  | expectedObjectCommaOrEnd
  | expectedSomeIdent
  | expectedSomeValue
  | invalidEscape
  | invalidNumber
  | numberOutOfRange
  | controlCharacterInString
  | keyMustBeAString
  | loneLeadingSurrogate
  | trailingComma
  | trailingCharacters
  | unexpectedEndOfHexEscape
  /-- A value of the wrong kind, and what was expected instead. -/
  | invalidType (found : Unexpected) (expected : String)
  /-- A field given twice. -/
  | duplicateField (name : String)

/-- The wording of an error. -/
def ErrorKind.text : ErrorKind → String
  | .eofWhileParsingList => "EOF while parsing a list"
  | .eofWhileParsingObject => "EOF while parsing an object"
  | .eofWhileParsingString => "EOF while parsing a string"
  | .eofWhileParsingValue => "EOF while parsing a value"
  | .expectedColon => "expected `:`"
  | .expectedListCommaOrEnd => "expected `,` or `]`"
  | .expectedObjectCommaOrEnd => "expected `,` or `\x7d`"
  | .expectedSomeIdent => "expected ident"
  | .expectedSomeValue => "expected value"
  | .invalidEscape => "invalid escape"
  | .invalidNumber => "invalid number"
  | .numberOutOfRange => "number out of range"
  | .controlCharacterInString => "control character (\\u0000-\\u001F) found while parsing a string"
  | .keyMustBeAString => "key must be a string"
  | .loneLeadingSurrogate => "lone leading surrogate in hex escape"
  | .trailingComma => "trailing comma"
  | .trailingCharacters => "trailing characters"
  | .unexpectedEndOfHexEscape => "unexpected end of hex escape"
  | .invalidType found expected => "invalid type: " ++ found.text ++ ", expected " ++ expected
  | .duplicateField name => "duplicate field `" ++ name ++ "`"

/-- A place in a text: the line, from one, and the byte column, from zero. -/
structure Position where
  line : Nat
  column : Nat

/-- An error, placed or not yet placed. -/
structure JsonError where
  kind : ErrorKind
  position : Option Position

/-- The message of an error. -/
def JsonError.message (e : JsonError) : String :=
  match e.position with
  | some p => e.kind.text ++ " at line " ++ toString p.line ++ " column " ++ toString p.column
  | none => e.kind.text

/-- The place of the byte index `i`: the line feeds before it and the bytes since the last. -/
def positionOf (bytes : ByteArray) (i : Nat) : Position :=
  let before := bytes.toList.take i
  let lineFeeds := before.countP (· == 10)
  let sinceLast := (before.reverse.takeWhile (· != 10)).length
  ⟨lineFeeds + 1, sinceLast⟩

/-- The outcome of reading from an index. -/
inductive Outcome (α : Type) where
  | ok (value : α) (next : Nat)
  | err (error : JsonError) (next : Nat)

/-- A reader of the bytes of a text from an index. -/
def Reader (α : Type) : Type :=
  ByteArray → Nat → Outcome α

namespace Reader

/-- Answers without reading. -/
protected def pure (a : α) : Reader α := fun _ i => .ok a i

/-- Reads on with what the first reader answered. -/
protected def bind (p : Reader α) (f : α → Reader β) : Reader β := fun b i =>
  match p b i with
  | .ok a j => f a b j
  | .err e j => .err e j

instance : Monad Reader where
  pure := Reader.pure
  bind := Reader.bind

/-- The byte at the index, if any. -/
def peek : Reader (Option UInt8) := fun b i => .ok b[i]? i

/-- Steps over one byte. -/
def eat : Reader Unit := fun _ i => .ok () (i + 1)

/-- The byte at the index, stepping over it; at the end nothing moves. -/
def next : Reader (Option UInt8) := fun b i =>
  match b[i]? with
  | some c => .ok (some c) (i + 1)
  | none => .ok none i

/-- Fails, placed at the index. -/
def fail (k : ErrorKind) : Reader α := fun b i =>
  .err ⟨k, some (positionOf b i)⟩ i

/-- Fails, placed at the byte looked at: one past the index, within the text. -/
def failAhead (k : ErrorKind) : Reader α := fun b i =>
  .err ⟨k, some (positionOf b (min b.size (i + 1)))⟩ i

/-- Fails without a place. -/
def failUnplaced (k : ErrorKind) : Reader α := fun _ i =>
  .err ⟨k, none⟩ i

/-- Places an unplaced error of `p` where `p` stopped. -/
def placing (p : Reader α) : Reader α := fun b i =>
  match p b i with
  | .ok a j => .ok a j
  | .err e j => .err (if e.position.isSome then e else { e with position := some (positionOf b j) }) j

/-- Reads `p`, then `q` whatever `p` answered; the first error wins. -/
def thenRegardless (p : Reader α) (q : Reader Unit) : Reader α := fun b i =>
  match p b i with
  | .ok a j =>
    match q b j with
    | .ok _ k => .ok a k
    | .err e k => .err e k
  | .err e j =>
    match q b j with
    | .ok _ k => .err e k
    | .err _ k => .err e k

/-- Runs `step` from `init` until it answers; `rounds` bounds the number of rounds by the bytes
left, which every reader here shrinks at least once in a fixed number of rounds. -/
def loop (rounds : Nat → Nat) (step : σ → Reader (σ ⊕ α)) (init : σ) : Reader α := fun b i =>
  go (rounds (b.size - i)) init b i
where
  go : Nat → σ → Reader α
    | 0, _ => fail .eofWhileParsingValue
    | n + 1, s => fun b i =>
      match step s b i with
      | .ok (.inl s') j => go n s' b j
      | .ok (.inr a) j => .ok a j
      | .err e j => .err e j

/-- Steps over blanks (space, tab, line feed, carriage return) and answers the byte after them. -/
def skipBlanks : Reader (Option UInt8) :=
  loop (· + 1) (fun (_ : Unit) => do
    match ← peek with
    | some 0x20 | some 0x0A | some 0x09 | some 0x0D => eat; return .inl ()
    | c => return .inr c) ()

/-- Runs a reader over the bytes of a text from its start. -/
def run (p : Reader α) (bytes : ByteArray) : Except JsonError α :=
  match p bytes 0 with
  | .ok a _ => .ok a
  | .err e _ => .error e

end Reader

end KeyIntern.Json
