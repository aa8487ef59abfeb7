/-! # Tokens of script text

The pieces a script is read in: words (identifiers and keywords alike, with their escapes
decoded), private names, string literals with their decoded value, numbers, regular
expressions, template pieces, JSX text and punctuators. A token remembers where it starts
and stops in the text and whether a line break precedes it, which is what automatic
semicolons and several restricted productions look at.
-/

namespace KeyIntern.Script

/-- The punctuators. `>` is always read alone; the reader joins it with what follows where an
operator is wanted. -/
inductive Punct where
  | lbrace | rbrace | lparen | rparen | lbracket | rbracket
  | dot | ellipsis | semicolon | comma | colon | question | questionDot | at
  | less | greater | lessEq | greaterEq
  | assign | eqEq | eqEqEq | bangEq | bangEqEq | arrow
  | plus | minus | star | slash | percent | starStar
  | plusPlus | minusMinus | shiftLeft | shiftRight | shiftRightUnsigned
  | amp | bar | caret | bang | tilde | ampAmp | barBar | questionQuestion
  | plusEq | minusEq | starEq | slashEq | percentEq | starStarEq
  | shiftLeftEq | shiftRightEq | shiftRightUnsignedEq
  | ampEq | barEq | caretEq | ampAmpEq | barBarEq | questionQuestionEq
  deriving DecidableEq, Repr, Inhabited

namespace Punct

/-- The operators that assign. -/
def isAssignment : Punct → Bool
  | assign | plusEq | minusEq | starEq | slashEq | percentEq | starStarEq
  | shiftLeftEq | shiftRightEq | shiftRightUnsignedEq
  | ampEq | barEq | caretEq | ampAmpEq | barBarEq | questionQuestionEq => true
  | _ => false

end Punct

/-- Where a piece of a template literal sits: alone, first, between substitutions, or last. -/
inductive TemplatePart where
  | whole | head | middle | tail
  deriving DecidableEq, Repr, Inhabited

/-- What a token is. -/
inductive TokenKind where
  | eof
  /-- An identifier or keyword; `escaped` when its text held a unicode escape. -/
  | word (name : String) (escaped : Bool)
  | privateName (name : String)
  /-- A string literal with its value. -/
  | string (value : String)
  | number
  | bigint
  /-- A numeric literal whose value cannot be computed; no production accepts it. -/
  | malformed
  | regex
  | template (part : TemplatePart)
  | punct (p : Punct)
  | jsxText
  deriving DecidableEq, Repr, Inhabited

/-- A token with its place in the text. -/
structure Token where
  kind : TokenKind
  start : Nat
  stop : Nat
  newlineBefore : Bool
  deriving Repr, Inhabited

namespace Token

/-- Whether the token is the punctuator `p`. -/
def isPunct (t : Token) (p : Punct) : Bool :=
  t.kind == .punct p

/-- Whether the token is the word `w`, escaped or not. -/
def isWord (t : Token) (w : String) : Bool :=
  match t.kind with
  | .word n _ => n == w
  | _ => false

/-- The word of the token, if it is one. -/
def word? (t : Token) : Option String :=
  match t.kind with
  | .word n _ => some n
  | _ => none

/-- Whether the token is a word that was written with an escape. -/
def isEscaped (t : Token) : Bool :=
  match t.kind with
  | .word _ e => e
  | _ => false

/-- Whether the token ends the text. -/
def isEof (t : Token) : Bool :=
  t.kind == .eof

/-- Whether the token is a string literal. -/
def isString (t : Token) : Bool :=
  match t.kind with
  | .string _ => true
  | _ => false

/-- Whether the token is a numeric literal. -/
def isNumeric (t : Token) : Bool :=
  t.kind == .number || t.kind == .bigint

/-- Whether the token begins a template literal. -/
def isTemplateStart (t : Token) : Bool :=
  t.kind == .template .whole || t.kind == .template .head

end Token

end KeyIntern.Script
