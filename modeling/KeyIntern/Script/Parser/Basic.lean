import Std.Data.HashSet
import KeyIntern.Script.Lexer
import KeyIntern.Script.Syntax
import KeyIntern.Script.Dialect
import KeyIntern.Script.Word

/-! # The reading monad

A script is read by recursive descent over a cursor that holds the text, the current token
and the grammar parameters in force. A reading step either yields a value and the cursor
after it, or gives up: the script is then not read at all. Speculative readings run a step
and rewind the cursor when it gives up; the positions where a parenthesized arrow function
was ruled out survive the rewind, so that no text is tried as one twice.

The constructs of the grammar nest, and each reaches its nested constructs through a
`Grammar`, the record of the entry points one level of nesting down. Tying the record to
itself a bounded number of times makes every reader total; the bound grows with the text,
and every level of nesting consumes input, so the bound is never what stops a reading.
-/

namespace KeyIntern.Script

/-- The grammar parameters that change how a construct is read. -/
structure Context where
  /-- `in` is the relational operator (it is not while the head of a `for` is read) -/
  allowIn : Bool := true
  /-- inside a generator: `yield` is an operator -/
  inGenerator : Bool := false
  /-- inside an async function or at the top of a module: `await` is an operator -/
  inAsync : Bool := false
  /-- inside a decorator: `[` does not continue the member chain -/
  inDecorator : Bool := false
  /-- a conditional type may not start here -/
  noConditionalTypes : Bool := false
  deriving Inhabited

/-- The state of a reading. -/
structure Cursor where
  src : Lexer.Source
  dialect : Dialect
  tok : Token
  ctx : Context
  /-- token starts where a parenthesized arrow function was tried and ruled out -/
  notArrow : Std.HashSet Nat

/-- The result of a reading step. -/
inductive Outcome (α : Type) where
  | ok (value : α) (after : Cursor)
  | giveUp (last : Cursor)

/-- A reading step. -/
def Parse (α : Type) : Type := Cursor → Outcome α

namespace Parse

@[inline] protected def pure (a : α) : Parse α := fun c => .ok a c

@[inline] protected def bind (p : Parse α) (f : α → Parse β) : Parse β := fun c =>
  match p c with
  | .ok a c' => f a c'
  | .giveUp c' => .giveUp c'

instance : Monad Parse where
  pure := Parse.pure
  bind := Parse.bind

/-- Gives up on the script. -/
def giveUp : Parse α := fun c => .giveUp c

/-- The cursor. -/
@[inline] def cursor : Parse Cursor := fun c => .ok c c

/-- Replaces the cursor. -/
@[inline] def setCursor (c : Cursor) : Parse Unit := fun _ => .ok () c

/-- The current token. -/
@[inline] def cur : Parse Token := fun c => .ok c.tok c

/-- The grammar parameters in force. -/
@[inline] def ctx : Parse Context := fun c => .ok c.ctx c

/-- Whether TypeScript's syntax is read. -/
@[inline] def isTs : Parse Bool := fun c => .ok c.dialect.typescript c

/-- Whether JSX is read. -/
@[inline] def isJsx : Parse Bool := fun c => .ok c.dialect.jsx c

/-- Moves to the next ordinary token. -/
def advance : Parse Unit := fun c => .ok () { c with tok := Lexer.next c.src c.tok.stop }

/-- Replaces the current token by a reading of it in another mode. -/
def relex (f : Lexer.Source → Token → Token) : Parse Unit := fun c =>
  .ok () { c with tok := f c.src c.tok }

/-- Moves to the JSX child that follows the current token. -/
def advanceJsxChild : Parse Unit := fun c =>
  .ok () { c with tok := Lexer.jsxChildAt c.src c.tok.stop }

/-- The token after the current one, read in the ordinary mode. -/
def peek : Parse Token := fun c => .ok (Lexer.next c.src c.tok.stop) c

/-- The character at a position of the text. -/
def charAt (i : Nat) : Parse (Option Char) := fun c => .ok c.src[i]? c

/-- Runs `p` under other grammar parameters, then restores them. -/
def withCtx (f : Context → Context) (p : Parse α) : Parse α := fun c =>
  match p { c with ctx := f c.ctx } with
  | .ok a c' => .ok a { c' with ctx := c.ctx }
  | .giveUp c' => .giveUp c'

/-- Runs `p` and answers its value, or `none` with the cursor rewound when it gives up. -/
def attempt (p : Parse α) : Parse (Option α) := fun c =>
  match p c with
  | .ok a c' => .ok (some a) c'
  | .giveUp c' => .ok none { c with notArrow := c'.notArrow }

/-- Runs `p` and rewinds the cursor; a reading that gives up answers `false`. -/
def lookahead (p : Parse Bool) : Parse Bool := fun c =>
  match p c with
  | .ok b c' => .ok b { c with notArrow := c'.notArrow }
  | .giveUp c' => .ok false { c with notArrow := c'.notArrow }

/-- Records that no parenthesized arrow function starts at the current token. -/
def markNotArrow : Parse Unit := fun c =>
  .ok () { c with notArrow := c.notArrow.insert c.tok.start }

/-- Whether a parenthesized arrow function was ruled out at the current token. -/
def ruledOutArrow : Parse Bool := fun c => .ok (c.notArrow.contains c.tok.start) c

/-- Repeats `step` from `a` while it answers `some`. Every round of a reading loop consumes a
token, so the rounds are bounded by the characters left. -/
def repeatWhile (step : α → Parse (Option α)) (a : α) : Parse α := fun c =>
  go (c.src.size + 1 - c.tok.start) a c
where
  go : Nat → α → Parse α
    | 0, a => Parse.pure a
    | n + 1, a => Parse.bind (step a) fun
      | none => Parse.pure a
      | some a' => go n a'

/-- The verdict of one round of a reading loop: go on from a new state, or stop at one. -/
inductive Round (α : Type) where
  | more (a : α)
  | done (a : α)

/-- Runs `step` from `a` until it answers `done`, for at most as many rounds as characters
are left, each round consuming a token. -/
def iterate (step : α → Parse (Round α)) (a : α) : Parse α := fun c =>
  go (c.src.size + 1 - c.tok.start) a c
where
  go : Nat → α → Parse α
    | 0, a => Parse.pure a
    | n + 1, a => Parse.bind (step a) fun
      | .done a' => Parse.pure a'
      | .more a' => go n a'

/-- Runs `p`, keeping what it read only when it answers `true`. -/
def consumeIf (p : Parse Bool) : Parse Bool := fun c =>
  match p c with
  | .ok true c' => .ok true c'
  | .ok false c' => .ok false { c with notArrow := c'.notArrow }
  | .giveUp c' => .ok false { c with notArrow := c'.notArrow }

end Parse

open Parse

/-! ## Tokens -/

/-- Whether the current token is the punctuator `p`. -/
def atPunct (p : Punct) : Parse Bool := do return (← cur).isPunct p

/-- Whether the current token is the word `w`. -/
def atWord (w : String) : Parse Bool := do return (← cur).isWord w

/-- Consumes the punctuator `p` if it is current. -/
def eat (p : Punct) : Parse Bool := do
  if ← atPunct p then advance; return true else return false

/-- Consumes the word `w` if it is current. -/
def eatWord (w : String) : Parse Bool := do
  if ← atWord w then advance; return true else return false

/-- Consumes the punctuator `p`, or gives up. -/
def expect (p : Punct) : Parse Unit := do
  if ← atPunct p then advance else giveUp

/-- Consumes the word `w`, or gives up. -/
def expectWord (w : String) : Parse Unit := do
  if ← atWord w then advance else giveUp

/-- Whether a semicolon may be taken as read before the current token: it is one, or a `}`, or
the end, or it stands on a new line. -/
def canInsertSemicolon : Parse Bool := do
  let t ← cur
  return t.isPunct .semicolon || t.isPunct .rbrace || t.isEof || t.newlineBefore

/-- Ends a statement: consumes a `;`, or takes one as read where that is allowed, or gives up. -/
def semicolon : Parse Unit := do
  if ← canInsertSemicolon then
    discard <| eat .semicolon
  else giveUp

/-- Whether the current token is a word. -/
def atAnyWord : Parse Bool := do return (← cur).word?.isSome

/-- Whether the current token is an identifier: a word that is not reserved. -/
def atIdentifier : Parse Bool := do
  match (← cur).word? with
  | some w => return Word.isIdentifier w
  | none => return false

/-- Whether the current token may name a binding. -/
def atBindingName : Parse Bool := do
  match (← cur).word? with
  | some w => return Word.isReference w
  | none => return false

/-- Consumes any word and answers it, or gives up. -/
def wordName : Parse String := do
  match (← cur).word? with
  | some w => advance; return w
  | none => giveUp

/-- Consumes a binding name, or gives up. -/
def bindingName : Parse String := do
  match (← cur).word? with
  | some w => if Word.isReference w then advance; return w else giveUp
  | none => giveUp

/-- Reads a list of items up to `close`, separated by commas, a trailing comma allowed; the
closing token is left current. -/
def commaList (close : Punct) (item : Parse β) : Parse (List β) := do
  let items ← repeatWhile (fun (acc : List β) => do
    let t ← cur
    if t.isPunct close || t.isEof then return none
    let x ← item
    if ← atPunct close then return some (x :: acc)
    if ← eat .comma then return some (x :: acc)
    giveUp) []
  return items.reverse

/-- Reads `open`, a comma-separated list of items and `close`. -/
def delimited (openP closeP : Punct) (item : Parse β) : Parse (List β) := do
  expect openP
  let xs ← commaList closeP item
  expect closeP
  return xs

/-- Reads items up to `close` with no separators. -/
def untilClose (close : Punct) (item : Parse β) : Parse (List β) := do
  let items ← repeatWhile (fun (acc : List β) => do
    let t ← cur
    if t.isPunct close || t.isEof then return none
    return some ((← item) :: acc)) []
  return items.reverse

/-! ## The nesting record -/

/-- Where a statement stands: in a statement list, or alone as the body of another statement. -/
inductive StatementPlace where
  | list
  | single
  deriving DecidableEq, Inhabited

/-- The entry points of the constructs that nest, each reading one level of nesting down. -/
structure Grammar where
  /-- an expression, commas included -/
  expression : Parse Term
  /-- an assignment expression; the flag allows a return type on a parenthesized arrow -/
  assignment : Bool → Parse Term
  /-- a binary expression whose operators bind tighter than the given precedence -/
  binary : Nat → Parse Term
  /-- a unary expression -/
  unary : Parse Term
  /-- a left-hand-side expression (decorators, heritage clauses) -/
  leftHandSide : Parse Term
  /-- a member expression without calls (the callee of `new`), and whether it holds `?.` -/
  memberOnly : Parse (Term × Bool)
  /-- a type -/
  type : Parse Term
  /-- the operand of a type operator -/
  typeOperand : Parse Term
  /-- a binding pattern or binding name -/
  bindingTarget : Parse Term
  /-- a parameter list in parentheses -/
  parameters : Parse Term
  /-- a statement -/
  statement : StatementPlace → Parse Term
  /-- a JSX element or fragment; the flag says it stands as a child of another -/
  jsxElement : Bool → Parse Term

/-- The record at the end of the bound: every entry gives up. -/
def Grammar.exhausted : Grammar where
  expression := giveUp
  assignment := fun _ => giveUp
  binary := fun _ => giveUp
  unary := giveUp
  leftHandSide := giveUp
  memberOnly := giveUp
  type := giveUp
  typeOperand := giveUp
  bindingTarget := giveUp
  parameters := giveUp
  statement := fun _ => giveUp
  jsxElement := fun _ => giveUp

end KeyIntern.Script
