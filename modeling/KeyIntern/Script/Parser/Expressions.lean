import KeyIntern.Script.Parser.Jsx

/-! # Expressions

The expression grammar, from comma expressions down to primary expressions.

* Binary operators are read by precedence climbing; `**` is right-associative. In
  TypeScript `as` and `satisfies` bind like relational operators and take a type. A `>` is
  joined with what follows it (`>=`, `>>`, `>>>=`, ...) only here, where an operator is
  wanted, so that type arguments can close on a single `>`.
* A parenthesized arrow function is told from a parenthesized expression by looking at the
  first tokens: some prefixes settle it, others leave it open and the arrow function is
  tried and abandoned if its head does not end in `=>`. A position where the attempt failed
  is remembered, so it is never tried twice.
* An expression followed by an assignment operator is read again as an assignment target:
  an identifier or member access, possibly parenthesized or under a type assertion, or an
  array or object literal whose elements are targets in turn. Anything else ends the
  reading.
* An optional chain `a?.b.c()` is wrapped as a whole, so it can never be assigned to.
-/

namespace KeyIntern.Script

open Parse

/-! ## Operators and targets -/

/-- The precedence of a binary operator token: `??` binds loosest (1), `**` tightest (12).
`in` is an operator only where the `in` rule allows it, `as` and `satisfies` only in
TypeScript. -/
def binaryPrecedence (ts allowIn : Bool) (t : Token) : Option Nat :=
  match t.kind with
  | .punct p =>
    match p with
    | .questionQuestion => some 1
    | .barBar => some 2
    | .ampAmp => some 3
    | .bar => some 4
    | .caret => some 5
    | .amp => some 6
    | .eqEq | .eqEqEq | .bangEq | .bangEqEq => some 7
    | .less | .greater | .lessEq | .greaterEq => some 8
    | .shiftLeft | .shiftRight | .shiftRightUnsigned => some 9
    | .plus | .minus => some 10
    | .star | .slash | .percent => some 11
    | .starStar => some 12
    | _ => none
  | .word w _ =>
    if w == "instanceof" then some 8
    else if w == "in" then if allowIn then some 8 else none
    else if w == "as" || w == "satisfies" then if ts then some 8 else none
    else none
  | _ => none

/-- Whether an expression is a simple assignment target: an identifier, a member access, a
TypeScript assertion, or such a target in parentheses. -/
def simpleTarget : Term → Bool
  | .name _ | .member _ _ => true
  | .node .computedMember _ | .node .privateMember _ | .node .typed _ => true
  | .node .paren [.node .array _] | .node .paren [.node .object _] => false
  | .node .paren [e] => simpleTarget e
  | _ => false

mutual

/-- Whether an expression can be read again as an assignment target. -/
def assignTarget : Term → Bool
  | .node .array parts => elementsTarget parts
  | .node .object parts => propertiesTarget parts
  | t => simpleTarget t

/-- Whether the elements of an array literal are targets; a spread element must come last. -/
def elementsTarget : List Term → Bool
  | [] => true
  | [.node .spread [arg]] => assignTarget arg
  | .node .spread _ :: _ => false
  | .node .hole _ :: rest => elementsTarget rest
  | e :: rest => defaultTarget e && elementsTarget rest

/-- Whether the members of an object literal are targets; a spread member must come last and
methods never are. -/
def propertiesTarget : List Term → Bool
  | [] => true
  | [.node .spread [arg]] => assignTarget arg
  | .node .spread _ :: _ => false
  | .node (.property _) parts :: rest => lastTarget parts && propertiesTarget rest
  | .node (.shorthand _) _ :: rest => propertiesTarget rest
  | _ :: _ => false

/-- Whether an element is a target, or a target with a default value. -/
def defaultTarget : Term → Bool
  | .node .assign _ | .node .compoundAssign _ => true
  | t => assignTarget t

/-- Whether the last of the parts, the value of a property, is a target with or without a
default value. -/
def lastTarget : List Term → Bool
  | [] => false
  | [v] => defaultTarget v
  | _ :: rest => lastTarget rest

end

/-- How far the first tokens settle whether a parenthesized arrow function begins. -/
inductive Verdict where
  | yes
  | no
  | maybe
  deriving DecidableEq, Inhabited

/-- Whether a token is a literal that cannot name a parameter. -/
def isLiteralToken (t : Token) : Bool :=
  match t.kind with
  | .string _ | .number | .bigint => true
  | .word w _ => w == "null" || w == "true" || w == "false"
  | _ => false

/-- Whether a token is a word that may name a binding. -/
def isBindingWord (t : Token) : Bool :=
  match t.word? with
  | some w => Word.isReference w
  | none => false

/-- From the token after `<` in a JSX-enabled file, whether a generic arrow function follows:
`<T,`, `<T =` or `<T extends X` (with `const` allowed first). -/
def jsxGenericArrowAhead : Parse Bool := do
  discard <| eatWord "const"
  advance
  let third ← cur
  if third.isWord "extends" then
    advance
    let fourth ← cur
    return !(fourth.isPunct .assign || fourth.isPunct .greater || fourth.isPunct .slash)
  return third.isPunct .comma || third.isPunct .assign

/-- From `(`, `<` or `async`, how far the first tokens settle that a parenthesized arrow
function begins. -/
def arrowAhead : Parse Verdict := do
  if ← atWord "async" then
    advance
    let t ← cur
    if t.newlineBefore then return .no
    if !(t.isPunct .lparen || t.isPunct .less) then return .no
  let first ← cur
  advance
  let second ← cur
  if first.isPunct .lparen then
    if second.isPunct .rparen then
      advance
      let third ← cur
      if third.isPunct .arrow || third.isPunct .colon || third.isPunct .lbrace then return .yes
      return .no
    if second.isPunct .lbracket || second.isPunct .lbrace then return .maybe
    if second.isPunct .ellipsis then
      advance
      let third ← cur
      if isBindingWord third then return .yes
      if isLiteralToken third then return .no
      return .maybe
    advance
    let third ← cur
    if (second.word?.map Word.isModifier).getD false && !second.isWord "async"
        && isBindingWord third then
      return if third.isWord "as" then .no else .yes
    if !isBindingWord second && !second.isWord "this" then return .no
    if third.isPunct .colon then return .yes
    if third.isPunct .question then
      advance
      let fourth ← cur
      if fourth.isPunct .colon || fourth.isPunct .comma || fourth.isPunct .assign
          || fourth.isPunct .rparen then return .yes
      return .no
    if third.isPunct .comma || third.isPunct .assign || third.isPunct .rparen then return .maybe
    return .no
  if !isBindingWord second && !second.isWord "const" then return .no
  if ← isJsx then
    return if ← lookahead jsxGenericArrowAhead then .yes else .no
  return .maybe

/-- From `await` or `yield`, whether a word or literal follows on the same line, which makes
it an operator even outside an async function or generator. -/
def operandFollows : Parse Bool := do
  advance
  let t ← cur
  if t.newlineBefore then return false
  match t.kind with
  | .word _ _ | .string _ | .number | .bigint => return true
  | _ => return false

/-- Whether the current token can begin an expression. -/
def startsExpression : Parse Bool := do
  let t ← cur
  match t.kind with
  | .word w _ =>
    if w == "import" then
      return ← lookahead (do
        advance
        let u ← cur
        return u.isPunct .lparen || u.isPunct .less || u.isPunct .dot)
    if ["this", "super", "null", "true", "false", "function", "class", "new", "delete", "typeof",
        "void", "await", "yield"].contains w then return true
    return Word.isIdentifier w
  | .string _ | .number | .bigint | .template _ | .privateName _ | .regex => return true
  | .punct p =>
    match p with
    | .lparen | .lbracket | .lbrace | .slash | .slashEq | .plus | .minus | .tilde | .bang
    | .plusPlus | .minusMinus | .less | .at => return true
    | _ => return false
  | _ => return false

/-- Whether what follows a list of type arguments lets it stand in an expression: a call, a
template, the end of the line, a binary operator, or anything that cannot begin an
expression. -/
def canFollowTypeArguments : Parse Bool := do
  let t ← cur
  if t.isPunct .lparen || t.isTemplateStart then return true
  if t.isPunct .less || t.isPunct .greater || t.isPunct .plus || t.isPunct .minus then
    return false
  if t.newlineBefore then return true
  if (binaryPrecedence (← isTs) (← ctx).allowIn t).isSome then return true
  return !(← startsExpression)

section
variable (g : Grammar)

/-! ## Primary expressions -/

/-- An expression read with `in` allowed and outside a decorator, as between brackets. -/
def nestedExpression : Parse Term :=
  withCtx (fun c => { c with allowIn := true, inDecorator := false }) g.expression

/-- An assignment expression read with `in` allowed and outside a decorator. -/
def nestedAssignment : Parse Term :=
  withCtx (fun c => { c with allowIn := true, inDecorator := false }) (g.assignment true)

/-- Call arguments `( a, ...b )`. -/
def arguments : Parse (List Term) :=
  delimited .lparen .rparen (do
    if ← eat .ellipsis then return .node .spread [← nestedAssignment g]
    nestedAssignment g)

/-- A template literal from its first piece: the expressions of its substitutions. -/
def templateLiteral : Parse (List Term) := do
  if (← cur).kind == .template .whole then
    advance
    return []
  advance
  let parts ← iterate (fun (acc : List Term) => do
    let x ← nestedExpression g
    if !(← atPunct .rbrace) then giveUp
    relex Lexer.templateAt
    let k := (← cur).kind
    if k == .eof then giveUp
    advance
    if k == .template .middle then return .more (x :: acc) else return .done (x :: acc)) []
  return parts.reverse

/-- An array literal `[ ... ]`, holes and spread elements allowed. -/
def arrayLiteral : Parse Term := do
  let items ← withCtx (fun c => { c with allowIn := true, inDecorator := false })
    (delimited .lbracket .rbracket (do
      if ← atPunct .comma then return .node .hole []
      if ← eat .ellipsis then return .node .spread [← g.assignment true]
      g.assignment true))
  return .node .array items

/-- Whether a token can begin a member name after `get`, `set`, `async` or `*`. -/
def memberNameAfter (t : Token) : Bool :=
  match t.kind with
  | .word _ _ | .string _ | .number | .bigint | .privateName _ => true
  | .punct p => p == .lbracket
  | _ => false

/-- A method of an object literal after its key. -/
def objectMethod (key : Option Term) (isAsync isGenerator : Bool) : Parse Term := do
  let f ← functionTail g isAsync isGenerator true
  return .node .method (key.toList ++ [f])

/-- A member of an object literal: a spread, an accessor, a method, a shorthand name with an
optional default, or `key: value`. -/
def objectMember : Parse Term := do
  let t ← cur
  if t.isPunct .ellipsis then
    advance
    return .node .spread [← g.assignment true]
  let p ← peek
  let named := memberNameAfter p
  if (t.isWord "get" || t.isWord "set") && named then
    advance
    return ← objectMethod g (← propertyName g) false false
  if t.isWord "async" && (named || p.isPunct .star) && !p.newlineBefore then
    advance
    let gen ← eat .star
    return ← objectMethod g (← propertyName g) true gen
  if t.isPunct .star && named then
    advance
    return ← objectMethod g (← propertyName g) false true
  if let some w := t.word? then
    if Word.isReference w && !(p.isPunct .lparen || p.isPunct .colon || p.isPunct .less
        || p.isPunct .shiftLeft) then
      advance
      let d ← if ← eat .assign then pure [← g.assignment true] else pure []
      return .node (.shorthand w) d
  let key ← propertyName g
  if ← eat .colon then
    return .node (.property key.isSome) (key.toList ++ [← g.assignment true])
  let u ← cur
  if u.isPunct .lparen || u.isPunct .less || u.isPunct .shiftLeft then
    return ← objectMethod g key false false
  giveUp

/-- An object literal `{ ... }`. -/
def objectLiteral : Parse Term := do
  let ms ← withCtx (fun c => { c with allowIn := true, inDecorator := false })
    (delimited .lbrace .rbrace (objectMember g))
  return .node .object ms

/-- The arguments of a dynamic import `import( source, options )`. -/
def importCall : Parse Term := do
  expect .lparen
  if ← atPunct .rparen then giveUp
  let a ← nestedAssignment g
  let b ← if ← eat .comma then
      if ← atPunct .rparen then pure [] else pure [← nestedAssignment g]
    else pure []
  discard <| eat .comma
  expect .rparen
  return .group (a :: b)

/-- After `import`: `import.meta`, a dynamic import, or one with a phase
(`import.source(...)`, `import.defer(...)`). -/
def importExpression : Parse Term := do
  expectWord "import"
  if ← eat .dot then
    if ← eatWord "meta" then return .leaf
    if (← atWord "source") || (← atWord "defer") then
      advance
      return ← importCall g
    giveUp
  importCall g

/-- A `new` expression: `new.target`, or `new` with a callee and optional arguments. An optional
chain may neither stand in the callee nor follow it directly: `new a?.b` and `new a?.()` do not
fit. -/
def newExpression : Parse Term := do
  expectWord "new"
  if ← eat .dot then
    if ← eatWord "target" then return .leaf
    giveUp
  let (callee, chain) ← g.memberOnly
  if chain then giveUp
  if ← atPunct .lparen then return .group (callee :: (← arguments g))
  if ← atPunct .questionDot then giveUp
  return .group [callee]

/-- A parenthesized expression. -/
def parenthesized : Parse Term := do
  expect .lparen
  let e ← nestedExpression g
  expect .rparen
  return .node .paren [e]

/-- A primary expression: a literal, a name, `this`, a function or class expression, a
bracketed construct, a template, a regular expression or a JSX element. -/
def primaryBody : Parse Term := do
  let t ← cur
  match t.kind with
  | .word w _ =>
    if w == "function" then
      advance
      return ← functionRest g false true
    if w == "async" then
      let p ← peek
      if p.isWord "function" && !p.newlineBefore then
        advance
        advance
        return ← functionRest g true true
    if w == "class" then
      advance
      return ← classRest g
    if w == "this" || w == "null" || w == "true" || w == "false" || w == "super" then
      advance
      return .leaf
    if w == "new" then return ← newExpression g
    if w == "import" then return ← importExpression g
    if Word.isReference w then
      advance
      return .name w
    giveUp
  | .string _ | .number | .bigint =>
    advance
    return .leaf
  | .template _ => return .group (← templateLiteral g)
  | .punct .lbracket => arrayLiteral g
  | .punct .lbrace => objectLiteral g
  | .punct .lparen => parenthesized g
  | .punct .slash | .punct .slashEq =>
    relex Lexer.regexAt
    if (← cur).isEof then giveUp
    advance
    return .leaf
  | .punct .less => if ← isJsx then g.jsxElement false else giveUp
  | _ => giveUp

/-- A primary expression after the decorators of a class expression, if any. -/
def primary : Parse Term := do
  let ds ← decorators g
  let e ← primaryBody g
  return if ds.isEmpty then e else .group (ds ++ [e])

/-! ## Member and call chains -/

/-- A member name after `.` or `?.`: a word or a private name. -/
def staticMember (lhs : Term) : Parse Term := do
  let t ← cur
  match t.kind with
  | .privateName _ =>
    advance
    return .node .privateMember [lhs]
  | .word w _ =>
    advance
    return .member lhs w
  | _ => giveUp

/-- A computed member `[e]`. -/
def computedMember (lhs : Term) : Parse Term := do
  expect .lbracket
  let i ← nestedExpression g
  expect .rbracket
  return .node .computedMember [lhs, i]

/-- Type arguments in an expression `f<T>`, kept only when what follows lets them stand. -/
def typeArgumentsInExpression : Parse (List Term) := do
  if ← atPunct .shiftLeft then relex (fun _ t => Lexer.lessAt t)
  expect .less
  let args ← commaList .greater g.type
  if !(← atPunct .greater) then giveUp
  if (← charAt ((← cur).start + 1)) == some '=' then giveUp
  advance
  if !(← canFollowTypeArguments) then giveUp
  return args

/-- Continues a member expression with `.name`, `?.name`, `?.[e]`, `[e]`, and in TypeScript
`!` and type arguments, and with tagged templates; answers whether an optional chain was
entered. -/
def memberRest (lhs : Term) (chain : Bool) : Parse (Term × Bool) :=
  repeatWhile (fun ((lhs, chain) : Term × Bool) => do
    let t ← cur
    let ts ← isTs
    if t.isPunct .dot then
      advance
      return some (← staticMember lhs, chain)
    if t.isPunct .questionDot then
      let p ← peek
      if p.isPunct .lbracket then
        advance
        return some (← computedMember g lhs, true)
      if p.word?.isSome || (match p.kind with | .privateName _ => true | _ => false) then
        advance
        return some (← staticMember lhs, true)
      return none
    if t.isPunct .lbracket && !(← ctx).inDecorator then
      return some (← computedMember g lhs, chain)
    if ts && t.isPunct .bang && !t.newlineBefore then
      advance
      return some (.node .typed [lhs], chain)
    if ts && (t.isPunct .less || t.isPunct .shiftLeft) then
      match ← attempt (typeArgumentsInExpression g) with
      | some args => return some (.node .instantiation (lhs :: args), chain)
      | none => return none
    if t.isTemplateStart then
      return some (.group (lhs :: (← templateLiteral g)), chain)
    return none) (lhs, chain)

/-- Continues a left-hand-side expression with members, calls and optional chains. -/
def callRest (lhs : Term) (chain : Bool) : Parse (Term × Bool) :=
  iterate (fun ((lhs, chain) : Term × Bool) => do
    let (lhs, chain) ← memberRest g lhs chain
    let optional ← eat .questionDot
    let chain := chain || optional
    let targs ← do
      if optional && (← isTs) && ((← atPunct .less) || (← atPunct .shiftLeft)) then
        pure ((← attempt (typeArgumentsInExpression g)).getD [])
      else pure []
    if optional && (← cur).isTemplateStart then
      return .more (.group (lhs :: targs ++ (← templateLiteral g)), chain)
    if !targs.isEmpty || (← atPunct .lparen) then
      let args ← arguments g
      return .more (.group (lhs :: targs ++ args), chain)
    if optional then giveUp
    return .done (lhs, chain)) (lhs, chain)

/-- A left-hand-side expression: a primary expression with its members and calls. -/
def leftHandSide : Parse Term := do
  let p ← primary g
  let (e, chain) ← callRest g p false
  return if chain then .node .chain [e] else e

/-- A member expression without calls, as the callee of `new`. -/
def memberOnly : Parse (Term × Bool) := do
  let p ← primary g
  memberRest g p false

/-! ## Operators -/

/-- An update expression: `++x`, `--x`, or a left-hand-side expression with `++` or `--` after
it on the same line; the operand must be a simple target. -/
def updateExpression : Parse Term := do
  let t ← cur
  if t.isPunct .plusPlus || t.isPunct .minusMinus then
    advance
    let e ← g.unary
    if !simpleTarget e then giveUp
    return .group [e]
  let e ← leftHandSide g
  let u ← cur
  if (u.isPunct .plusPlus || u.isPunct .minusMinus) && !u.newlineBefore then
    if !simpleTarget e then giveUp
    advance
    return .group [e]
  return e

/-- A unary expression: an operator and its operand, a JSX element, a TypeScript assertion
`<T>e`, an `await` expression, or an update expression. A JSX element read here takes no
member, call or postfix operator after it. -/
def unary : Parse Term := do
  let t ← cur
  if t.isPunct .plus || t.isPunct .minus || t.isPunct .tilde || t.isPunct .bang
      || t.isWord "delete" || t.isWord "void" || t.isWord "typeof" then
    advance
    return .group [← g.unary]
  if t.isPunct .less && (← isJsx) then return ← g.jsxElement false
  if t.isPunct .less then
    if !(← isTs) then giveUp
    advance
    let ty ← g.type
    expect .greater
    return .node .typed [← g.unary, ty]
  if t.isWord "await" then
    if (← ctx).inAsync || (← lookahead operandFollows) then
      advance
      return .group [← withCtx (fun c => { c with inAsync := true }) g.unary]
  updateExpression g

/-- A binary expression whose operators bind tighter than `minPrec`. A private name may stand
on the left of `in`. -/
def binary (minPrec : Nat) : Parse Term := do
  let t ← cur
  let first ← match t.kind with
    | .privateName _ => do
      if (← ctx).allowIn then
        advance
        expectWord "in"
        pure (Term.group [← g.unary])
      else unary g
    | _ => unary g
  repeatWhile (fun lhs => do
    if ← atPunct .greater then relex Lexer.greaterAt
    let t ← cur
    match binaryPrecedence (← isTs) (← ctx).allowIn t with
    | none => return none
    | some p =>
      if (if p == 12 then p < minPrec else p ≤ minPrec) then return none
      if t.isWord "as" || t.isWord "satisfies" then
        if t.newlineBefore then return none
        advance
        return some (.node .typed [lhs, ← g.type])
      advance
      return some (.group [lhs, ← g.binary p])) first

/-! ## Arrow functions and assignments -/

/-- The body of an arrow function: a block, or an assignment expression. -/
def arrowBody (isAsync allowReturnType : Bool) : Parse Term := do
  if ← atPunct .lbrace then
    withCtx (functionContext isAsync false) (functionBody g)
  else
    withCtx (fun c => { c with inAsync := isAsync, inDecorator := false })
      (g.assignment allowReturnType)

/-- The head of a parenthesized arrow function, `=>` included: its parts, whether it has a
return type, and whether it is async. -/
def arrowHead : Parse (Term × Bool × Bool) := do
  let isAsync ← eatWord "async"
  let (tps, ps, r) ← withCtx (fun c => { c with inAsync := c.inAsync || isAsync }) (do
    let tps ← typeParameters g
    let ps ← g.parameters
    let r ← returnType g
    return (tps, ps, r))
  expect .arrow
  return (.group (tps ++ ps :: r), !r.isEmpty, isAsync)

/-- A parenthesized (or generic, or async) arrow function, if one begins here. Where the first
tokens leave it open, the arrow function is tried; if its head fails, or it has a return type
where one may not stand and no `:` follows, the reading is rewound and the position
remembered. -/
def parenArrow (allowReturnType : Bool) : Parse (Option Term) := do
  let t ← cur
  if !(t.isPunct .lparen || t.isPunct .less || t.isWord "async") then return none
  if t.isPunct .less && !(← isTs) then return none
  let start ← cursor
  let verdict ← arrowAhead
  setCursor { start with notArrow := (← cursor).notArrow }
  match verdict with
  | .no => return none
  | .yes =>
    let (head, _, isAsync) ← arrowHead g
    return some (.group [head, ← arrowBody g isAsync true])
  | .maybe =>
    if ← ruledOutArrow then return none
    match ← attempt (arrowHead g) with
    | none =>
      markNotArrow
      return none
    | some (head, hasReturnType, isAsync) =>
      let body ← arrowBody g isAsync allowReturnType
      if !allowReturnType && hasReturnType && !(← atPunct .colon) then
        setCursor { start with notArrow := (← cursor).notArrow }
        markNotArrow
        return none
      return some (.group [head, body])

/-- An async arrow function with a single unparenthesized parameter `async x => ...`. -/
def asyncSimpleArrow (allowReturnType : Bool) : Parse (Option Term) := do
  if !(← atWord "async") then return none
  let ahead ← lookahead (do
    advance
    let t ← cur
    if t.newlineBefore || !isBindingWord t then return false
    advance
    return (← cur).isPunct .arrow)
  if !ahead then return none
  advance
  discard bindingName
  expect .arrow
  return some (← arrowBody g true allowReturnType)

/-- A `yield` expression, with its optional `*` and operand. -/
def yieldExpression : Parse Term := do
  advance
  if (← cur).newlineBefore then return .leaf
  let delegate ← eat .star
  let t ← cur
  let ends := t.isPunct .rparen || t.isPunct .rbracket || t.isPunct .rbrace || t.isPunct .comma
    || t.isPunct .semicolon || t.isPunct .colon || t.isEof
  if !ends || delegate then
    return .group [← withCtx (fun c => { c with inGenerator := true }) (g.assignment true)]
  return .leaf

/-- The rest of a conditional expression `test ? a : b` after its test. -/
def conditionalRest (allowReturnType : Bool) (test : Term) : Parse Term := do
  if !(← eat .question) then return test
  let a ← withCtx (fun c => { c with allowIn := true }) (g.assignment false)
  expect .colon
  let b ← g.assignment allowReturnType
  return .group [test, a, b]

/-- An assignment expression: a `yield`, an arrow function, an assignment, or a conditional
expression. `allowReturnType` is false in the middle of a conditional expression, where a
`:` after a parenthesized head ends the branch instead. -/
def assignment (allowReturnType : Bool) : Parse Term := do
  if ← atWord "yield" then
    if (← ctx).inGenerator || (← lookahead operandFollows) then
      return ← yieldExpression g
  if let some e ← parenArrow g allowReturnType then return e
  if let some e ← asyncSimpleArrow g allowReturnType then return e
  let lhs ← binary g 0
  let t ← cur
  if t.isPunct .arrow then
    if let .name _ := lhs then
      advance
      return .group [← arrowBody g false allowReturnType]
  if let .punct p := t.kind then
    if p.isAssignment then
      if !assignTarget lhs then giveUp
      advance
      let rhs ← g.assignment true
      return .node (if p == .assign then .assign else .compoundAssign) [lhs, rhs]
  conditionalRest g allowReturnType lhs

/-- An expression: assignment expressions separated by commas. -/
def expression : Parse Term := do
  let first ← assignment g true
  if !(← atPunct .comma) then return first
  let rest ← repeatWhile (fun (acc : List Term) => do
    if ← eat .comma then return some ((← assignment g true) :: acc) else return none) []
  return .group (first :: rest.reverse)

end

end KeyIntern.Script
