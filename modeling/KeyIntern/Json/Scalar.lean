import KeyIntern.Json.Reader

/-! # Reading JSON strings, numbers and skipped values

Strings are read byte by byte up to the closing quote. A raw control character is an error, and
so is an unknown escape. A `\u` escape is four hex digits; a leading surrogate must be followed
at once by `\u` and a trailing surrogate, and a trailing surrogate alone is refused.

Numbers keep their exact value while it fits the unsigned 64-bit integers; a negative integer
that fits the signed ones stays an integer. Anything else becomes a binary64 number: the decimal
significand is cut at the first digit that would overflow 64 bits, made a binary64 number, and
scaled by one multiplication or division by the nearest binary64 power of ten (after division by
`10^308` while the exponent is further out). A scaling that overflows is out of range.

A skipped value is checked for syntax only, with an explicit stack of the open brackets.
-/

namespace KeyIntern.Json

open Decimal Reader

/-! ## Strings -/

/-- The value of a hex digit byte. -/
def hexValue (c : UInt8) : Option Nat :=
  if 0x30 ≤ c ∧ c ≤ 0x39 then some (c.toNat - 0x30)
  else if 0x61 ≤ c ∧ c ≤ 0x66 then some (c.toNat - 0x61 + 10)
  else if 0x41 ≤ c ∧ c ≤ 0x46 then some (c.toNat - 0x41 + 10)
  else none

/-- Reads the four hex digits of a `\u` escape. Fewer than four bytes left is the end of the text
inside a string. -/
def hexEscape : Reader Nat := fun b i =>
  if b.size < i + 4 then .err ⟨.eofWhileParsingString, some (positionOf b b.size)⟩ b.size
  else
    let digits := [b[i]?, b[i + 1]?, b[i + 2]?, b[i + 3]?].map fun c => hexValue (c.getD 0)
    match digits with
    | [some d0, some d1, some d2, some d3] => .ok (((d0 * 16 + d1) * 16 + d2) * 16 + d3) (i + 4)
    | _ => .err ⟨.invalidEscape, some (positionOf b (i + 4))⟩ (i + 4)

/-- The UTF-8 bytes of a code point. -/
def utf8Bytes (n : Nat) : ByteArray :=
  (String.singleton (Char.ofNat n)).toUTF8

/-- Reads the rest of a `\u` escape after the `u`. -/
def unicodeEscape : Reader ByteArray := do
  let n ← hexEscape
  if 0xDC00 ≤ n ∧ n ≤ 0xDFFF then fail .loneLeadingSurrogate
  else if n < 0xD800 ∨ 0xDBFF < n then return utf8Bytes n
  else
    match ← peek with
    | none => fail .eofWhileParsingString
    | some 0x5C =>
      eat
      match ← peek with
      | none => fail .eofWhileParsingString
      | some 0x75 =>
        eat
        let n2 ← hexEscape
        if n2 < 0xDC00 ∨ 0xDFFF < n2 then fail .loneLeadingSurrogate
        else return utf8Bytes ((((n - 0xD800) <<< 10) ||| (n2 - 0xDC00)) + 0x10000)
      | some _ => eat; fail .unexpectedEndOfHexEscape
    | some _ => eat; fail .unexpectedEndOfHexEscape

/-- Reads the rest of an escape after the backslash, answering the bytes it stands for. -/
def escape : Reader ByteArray := do
  match ← next with
  | none => fail .eofWhileParsingString
  | some 0x22 => return ⟨#[0x22]⟩
  | some 0x5C => return ⟨#[0x5C]⟩
  | some 0x2F => return ⟨#[0x2F]⟩
  | some 0x62 => return ⟨#[0x08]⟩
  | some 0x66 => return ⟨#[0x0C]⟩
  | some 0x6E => return ⟨#[0x0A]⟩
  | some 0x72 => return ⟨#[0x0D]⟩
  | some 0x74 => return ⟨#[0x09]⟩
  | some 0x75 => unicodeEscape
  | some _ => fail .invalidEscape

/-- Reads the rest of a string after its opening quote. -/
def stringBody : Reader String :=
  loop (· + 1) (fun (acc : ByteArray) => do
    match ← peek with
    | none => fail .eofWhileParsingString
    | some 0x22 => eat; return .inr ((String.fromUTF8? acc).getD "")
    | some 0x5C => eat; return .inl (acc ++ (← escape))
    | some c =>
      eat
      if c < 0x20 then fail .controlCharacterInString else return .inl (acc.push c)) ByteArray.empty

/-- Steps over the rest of an escape after the backslash. -/
def skipEscape : Reader Unit := do
  match ← next with
  | none => fail .eofWhileParsingString
  | some 0x22 | some 0x5C | some 0x2F | some 0x62 | some 0x66 | some 0x6E | some 0x72
  | some 0x74 => return ()
  | some 0x75 => let _ ← hexEscape; return ()
  | some _ => fail .invalidEscape

/-- Steps over the rest of a string after its opening quote; a control character is reported at
its own place. -/
def skipStringBody : Reader Unit :=
  loop (· + 1) (fun (_ : Unit) => do
    match ← peek with
    | none => fail .eofWhileParsingString
    | some 0x22 => eat; return .inr ()
    | some 0x5C => eat; skipEscape; return .inl ()
    | some c => if c < 0x20 then fail .controlCharacterInString else eat; return .inl ()) ()

/-- Reads the rest of a literal word after its first letter. -/
def word (rest : List UInt8) : Reader Unit :=
  rest.forM fun expected => do
    match ← next with
    | none => fail .eofWhileParsingValue
    | some c => if c == expected then pure () else fail .expectedSomeIdent

/-! ## Numbers -/

/-- A number as read: an unsigned or negative integer, or a binary64 number. -/
inductive Number where
  | unsigned (n : Nat)
  | signed (n : Int)
  | float (x : Binary64)

/-- How a diagnostic names a number found where another kind of value belongs. -/
def Number.unexpected : Number → Unexpected
  | .unsigned n => .unsigned n
  | .signed n => .signed n
  | .float x => .float x

/-- The largest unsigned 64-bit integer. -/
def maxUnsigned : Nat := 18446744073709551615

/-- The largest signed 32-bit integer, the bound of exponents. -/
def maxExponent : Int := 2147483647

/-- Whether `acc · 10 + d` passes `bound`. -/
def overflows (acc d bound : Nat) : Bool :=
  bound / 10 ≤ acc && (bound / 10 < acc || bound % 10 < d)

/-- Clamps an exponent to the signed 32-bit range. -/
def clampExponent (x : Int) : Int :=
  max (-(maxExponent + 1)) (min maxExponent x)

/-- `f · 10^exponent`, by one rounded multiplication or division, after divisions by `10^308`
while the exponent is further out; `none` when the result overflows. -/
def scaleByPow10 : Nat → Magnitude → Int → Option Magnitude
  | 0, f, _ => some f
  | fuel + 1, f, exponent =>
    if exponent.natAbs ≤ 308 then
      let pow := Magnitude.pow10 exponent.natAbs
      if 0 ≤ exponent then
        let g := f.mul pow
        if g.isInfinite then none else some g
      else some (f.div pow)
    else if f.isZero then some f
    else if 0 ≤ exponent then none
    else scaleByPow10 fuel (f.div (Magnitude.pow10 308)) (exponent + 308)

/-- The binary64 number `± significand · 10^exponent`. -/
def fromParts (positive : Bool) (significand : Nat) (exponent : Int) : Reader Binary64 :=
  match scaleByPow10 (exponent.natAbs / 308 + 2) (Magnitude.ofNat significand) exponent with
  | some f => pure ⟨!positive, f⟩
  | none => fail .numberOutOfRange

/-- Whether a byte is a decimal digit. -/
def isDigit (c : UInt8) : Bool :=
  0x30 ≤ c && c ≤ 0x39

/-- The value of a decimal digit byte. -/
def digitValue (c : UInt8) : Nat :=
  c.toNat - 0x30

/-- Reads an exponent after the `e`, then makes the number. -/
def exponentPart (positive : Bool) (significand : Nat) (start : Int) : Reader Binary64 := do
  eat
  let positiveExp ← do
    match ← peek with
    | some 0x2B => eat; pure true
    | some 0x2D => eat; pure false
    | _ => pure true
  match ← next with
  | none => fail .eofWhileParsingValue
  | some c =>
    if !isDigit c then fail .invalidNumber
    else
      let r ← loop (· + 1) (fun (exp : Nat) => do
        match ← peek with
        | some c =>
          if isDigit c then
            eat
            if overflows exp (digitValue c) maxExponent.toNat then return .inr (Sum.inr ())
            else return .inl (exp * 10 + digitValue c)
          else return .inr (Sum.inl exp)
        | none => return .inr (Sum.inl exp)) (digitValue c)
      match r with
      | .inl exp =>
        let final := if positiveExp then clampExponent (start + exp) else clampExponent (start - exp)
        fromParts positive significand final
      | .inr () =>
        if significand != 0 && positiveExp then fail .numberOutOfRange
        else
          loop (· + 1) (fun (_ : Unit) => do
            match ← peek with
            | some c => if isDigit c then eat; return .inl () else return .inr ()
            | none => return .inr ()) ()
          return ⟨!positive, .finite 0 (-1074)⟩

/-- After the significand overflowed: the remaining fraction digits are dropped. -/
def overflowedFraction (positive : Bool) (significand : Nat) (exponent : Int) : Reader Binary64 := do
  loop (· + 1) (fun (_ : Unit) => do
    match ← peek with
    | some c => if isDigit c then eat; return .inl () else return .inr ()
    | none => return .inr ()) ()
  match ← peek with
  | some 0x65 | some 0x45 => exponentPart positive significand exponent
  | _ => fromParts positive significand exponent

/-- Reads a fraction after the `.`, then an exponent if any, and makes the number. -/
def fractionPart (positive : Bool) (significand : Nat) (before : Int) : Reader Binary64 := do
  eat
  let r ← loop (· + 1) (fun ((sig, after) : Nat × Int) => do
    match ← peek with
    | some c =>
      if isDigit c then
        if overflows sig (digitValue c) maxUnsigned then return .inr (Sum.inr (sig, after))
        else eat; return .inl (sig * 10 + digitValue c, after - 1)
      else return .inr (Sum.inl (sig, after))
    | none => return .inr (Sum.inl (sig, after))) (significand, (0 : Int))
  match r with
  | .inr (sig, after) => overflowedFraction positive sig (before + after)
  | .inl (sig, after) =>
    if after = 0 then
      match ← peek with
      | some _ => failAhead .invalidNumber
      | none => failAhead .eofWhileParsingValue
    else
      match ← peek with
      | some 0x65 | some 0x45 => exponentPart positive sig (before + after)
      | _ => fromParts positive sig (before + after)

/-- After the integer part overflowed: the remaining integer digits only raise the exponent. -/
def longInteger (positive : Bool) (significand : Nat) : Reader Binary64 := do
  let exponent ← loop (· + 1) (fun (exponent : Int) => do
    match ← peek with
    | some c => if isDigit c then eat; return .inl (exponent + 1) else return .inr exponent
    | none => return .inr exponent) 0
  match ← peek with
  | some 0x2E => fractionPart positive significand exponent
  | some 0x65 | some 0x45 => exponentPart positive significand exponent
  | _ => fromParts positive significand exponent

/-- Finishes a number after its integer part: a fraction, an exponent, or an integer. A negative
integer beyond the signed 64-bit range, and minus zero, become binary64 numbers. -/
def numberTail (positive : Bool) (significand : Nat) : Reader Number := do
  match ← peek with
  | some 0x2E => return .float (← fractionPart positive significand 0)
  | some 0x65 | some 0x45 => return .float (← exponentPart positive significand 0)
  | _ =>
    if positive then return .unsigned significand
    else if significand = 0 ∨ Nat.pow 2 63 < significand then
      return .float ⟨true, Magnitude.ofNat significand⟩
    else return .signed (-(significand : Int))

/-- Reads a number after its sign. -/
def number (positive : Bool) : Reader Number := do
  match ← next with
  | none => fail .eofWhileParsingValue
  | some 0x30 =>
    match ← peek with
    | some c => if isDigit c then failAhead .invalidNumber else numberTail positive 0
    | none => numberTail positive 0
  | some c =>
    if !isDigit c then fail .invalidNumber
    else
      let r ← loop (· + 1) (fun (sig : Nat) => do
        match ← peek with
        | some c =>
          if isDigit c then
            if overflows sig (digitValue c) maxUnsigned then return .inr (Sum.inr sig)
            else eat; return .inl (sig * 10 + digitValue c)
          else return .inr (Sum.inl sig)
        | none => return .inr (Sum.inl sig)) (digitValue c)
      match r with
      | .inl sig => numberTail positive sig
      | .inr sig => return .float (← longInteger positive sig)

/-! ## Skipping numbers and values -/

/-- Steps over an exponent after the `e`. -/
def skipExponent : Reader Unit := do
  eat
  match ← peek with
  | some 0x2B | some 0x2D => eat
  | _ => pure ()
  match ← next with
  | some c =>
    if isDigit c then
      loop (· + 1) (fun (_ : Unit) => do
        match ← peek with
        | some c => if isDigit c then eat; return .inl () else return .inr ()
        | none => return .inr ()) ()
    else fail .invalidNumber
  | none => fail .invalidNumber

/-- Steps over a fraction after the `.`, and an exponent if any. -/
def skipFraction : Reader Unit := do
  eat
  let any ← loop (· + 1) (fun (seen : Bool) => do
    match ← peek with
    | some c => if isDigit c then eat; return .inl true else return .inr seen
    | none => return .inr seen) false
  if !any then failAhead .invalidNumber
  else
    match ← peek with
    | some 0x65 | some 0x45 => skipExponent
    | _ => pure ()

/-- Steps over a number after its sign. -/
def skipNumber : Reader Unit := do
  match ← next with
  | some 0x30 =>
    match ← peek with
    | some c => if isDigit c then failAhead .invalidNumber else pure ()
    | none => pure ()
  | some c =>
    if isDigit c then
      loop (· + 1) (fun (_ : Unit) => do
        match ← peek with
        | some c => if isDigit c then eat; return .inl () else return .inr ()
        | none => return .inr ()) ()
    else fail .invalidNumber
  | none => fail .invalidNumber
  match ← peek with
  | some 0x2E => skipFraction
  | some 0x65 | some 0x45 => skipExponent
  | _ => pure ()

/-- Where skipping a value stands: before a value (with the bracket it is in), among the closing
brackets and commas after one, or before the next member of an open bracket. -/
inductive SkipState where
  | value (enclosing : Option UInt8) (stack : List UInt8)
  | after (acceptComma : Bool) (frame : UInt8) (stack : List UInt8)
  | member (frame : UInt8) (stack : List UInt8)

/-- The byte of an open bracket, `[`. -/
def openList : UInt8 := 0x5B

/-- One round of skipping a value. -/
def skipStep : SkipState → Reader (SkipState ⊕ Unit)
  | .value enclosing stack => do
    match ← skipBlanks with
    | none => failAhead .eofWhileParsingValue
    | some c =>
      let frame? : Option UInt8 ← do
        match c with
        | 0x6E => eat; word [0x75, 0x6C, 0x6C]; pure none
        | 0x74 => eat; word [0x72, 0x75, 0x65]; pure none
        | 0x66 => eat; word [0x61, 0x6C, 0x73, 0x65]; pure none
        | 0x2D => eat; skipNumber; pure none
        | 0x22 => eat; skipStringBody; pure none
        | 0x5B | 0x7B => eat; pure (some c)
        | c => if isDigit c then skipNumber; pure none else failAhead .expectedSomeValue
      match frame? with
      | some f => return .inl (.after false f (enclosing.toList ++ stack))
      | none =>
        match enclosing, stack with
        | some f, _ => return .inl (.after true f stack)
        | none, f :: rest => return .inl (.after true f rest)
        | none, [] => return .inr ()
  | .after acceptComma frame stack => do
    let closes (c : UInt8) : Bool := (c == 0x5D && frame == openList) || (c == 0x7D && frame != openList)
    match ← skipBlanks with
    | some 0x2C =>
      if acceptComma then eat; return .inl (.member frame stack)
      else return .inl (.member frame stack)
    | some c =>
      if closes c then
        eat
        match stack with
        | f :: rest => return .inl (.after true f rest)
        | [] => return .inr ()
      else if acceptComma then
        failAhead (if frame == openList then .expectedListCommaOrEnd else .expectedObjectCommaOrEnd)
      else return .inl (.member frame stack)
    | none => failAhead (if frame == openList then .eofWhileParsingList else .eofWhileParsingObject)
  | .member frame stack => do
    if frame != openList then
      match ← skipBlanks with
      | some 0x22 => eat
      | some _ => failAhead .keyMustBeAString
      | none => failAhead .eofWhileParsingObject
      skipStringBody
      match ← skipBlanks with
      | some 0x3A => eat
      | some _ => failAhead .expectedColon
      | none => failAhead .eofWhileParsingObject
    return .inl (.value (some frame) stack)

/-- Steps over one value of any kind, checking its syntax. -/
def skipValue : Reader Unit :=
  loop (fun n => 3 * n + 3) skipStep (.value none [])

end KeyIntern.Json
