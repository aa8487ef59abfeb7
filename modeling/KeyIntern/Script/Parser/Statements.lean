import KeyIntern.Script.Parser.Expressions

/-! # Statements and declarations

Statements, variable and function declarations, `import` and `export` declarations, and the
TypeScript declarations (type aliases, interfaces, enums, namespaces and modules, ambient
declarations and import-equals).

A statement ends with a `;`, or where a semicolon may be taken as read: before `}`, at the
end of the text, or at a line break. A word such as `type`, `namespace` or `declare` begins
a TypeScript declaration only when what follows it on the same line shows that it does;
otherwise it is an identifier in an expression statement. Decorators begin a statement only
before a class, an abstract class or an `export` declaration.
-/

namespace KeyIntern.Script

open Parse

/-- Whether the token after `type` in an import specifier makes it a modifier rather than the
imported name: `type x`, `type as` alone, or `type as as x`. -/
def typeSpecifierAhead : Parse Bool := do
  advance
  let p ← cur
  if p.isWord "as" then
    advance
    let q ← cur
    if q.isWord "as" then
      advance
      return (← cur).word?.isSome
    return q.word?.isNone
  return p.word?.isSome

/-- A module export name: a word or a string literal. -/
def exportName : Parse ExportName := do
  let t ← cur
  match t.kind with
  | .word w _ =>
    advance
    return .word w
  | .string v =>
    advance
    return .string v
  | _ => giveUp

/-- One specifier of a named import `imported as local`, after an optional `type`. Without
`as` the imported name is also the local binding. A reserved word is a faulty binding name
here, but it does not stop the reading: `import { default } from "m"` imports `default`. -/
def importSpecifier : Parse ImportBinding := do
  if (← isTs) && (← atWord "type") then
    if ← lookahead typeSpecifierAhead then advance
  let imported ← exportName
  if ← eatWord "as" then return .named imported (← wordName)
  match imported with
  | .word w => return .named imported w
  | .string _ => giveUp

/-- A namespace import `* as N`; a reserved word as `N` is a fault that does not stop the
reading. -/
def namespaceImport : Parse ImportBinding := do
  expect .star
  expectWord "as"
  return .namespace (← wordName)

/-- The bindings of an import declaration, up to and including `from`. -/
def importClause : Parse (List ImportBinding) := do
  let bindings ← do
    if ← atBindingName then
      let d ← bindingName
      if ← eat .comma then
        if ← atPunct .star then pure [ImportBinding.default d, ← namespaceImport]
        else if ← atPunct .lbrace then
          pure (ImportBinding.default d :: (← delimited .lbrace .rbrace importSpecifier))
        else giveUp
      else pure [ImportBinding.default d]
    else if ← atPunct .star then pure [← namespaceImport]
    else if ← atPunct .lbrace then delimited .lbrace .rbrace importSpecifier
    else giveUp
  expectWord "from"
  return bindings

/-- A module source: a string literal, answering its value. -/
def moduleSource : Parse String := do
  match (← cur).kind with
  | .string v =>
    advance
    return v
  | _ => giveUp

/-- Import attributes `with { key: "value", ... }`, if present. -/
def importAttributes : Parse Unit := do
  let t ← cur
  if t.isWord "with" || (t.isWord "assert" && !t.newlineBefore) then
    advance
    discard <| delimited .lbrace .rbrace (do
      let k ← cur
      if k.isString || k.word?.isSome then advance else giveUp
      expect .colon
      if !(← cur).isString then giveUp
      advance)

/-- After `import type`, whether `type` marks a type-only import rather than naming the
default binding. -/
def typeImportAhead : Parse Bool := do
  advance
  let t ← cur
  if t.isPunct .lbrace || t.isPunct .star then return true
  if !isBindingWord t then return false
  if !t.isWord "from" then return true
  advance
  let u ← cur
  return u.isWord "from" || u.isPunct .assign

/-- After `import source`, whether `source` marks the source phase: a binding other than a
lone `from` follows. -/
def sourcePhaseAhead : Parse Bool := do
  advance
  let t ← cur
  if !isBindingWord t then return false
  if !t.isWord "from" then return true
  advance
  return (← cur).isWord "from"

/-- From a binding name (or `type` and a name), whether an import-equals declaration follows. -/
def importEqualsAhead : Parse Bool := do
  if ← atWord "type" then
    let p ← peek
    if isBindingWord p then
      advance
      advance
      if ← atPunct .assign then return true
      return false
  if !(← atBindingName) then return false
  advance
  atPunct .assign

/-- Whether `await using` begins a declaration here: `using` follows on the same line, and a
binding name follows it on the same line. -/
def awaitUsingAhead : Parse Bool := do
  advance
  let u ← cur
  if !u.isWord "using" || u.newlineBefore then return false
  let b ← peek
  return isBindingWord b && !b.newlineBefore

/-- Whether a TypeScript declaration begins here: a declaration keyword, or `type`,
`interface`, `namespace`, `module`, `global` followed by what they declare, possibly after
modifiers that are each followed by more on the same line. -/
def tsDeclarationAhead : Parse Bool := fun c => go (c.src.size + 1 - c.tok.start) c
where
  go : Nat → Parse Bool
    | 0 => Parse.pure false
    | n + 1 => do
      let t ← cur
      match t.word? with
      | none => return false
      | some w =>
        if ["var", "let", "const", "function", "class", "enum"].contains w then return true
        if w == "interface" || w == "type" then
          advance
          let u ← cur
          return isBindingWord u && !u.newlineBefore
        if w == "module" || w == "namespace" then
          advance
          let u ← cur
          return !u.newlineBefore && (isBindingWord u || u.isString)
        if ["abstract", "accessor", "async", "declare", "private", "protected", "public",
            "readonly"].contains w then
          advance
          let u ← cur
          if u.newlineBefore then return false
          if w == "declare" && u.isWord "type" then return true
          go n
        else if w == "global" then
          advance
          let u ← cur
          return u.isPunct .lbrace || u.isWord "export" || (u.word?.map Word.isIdentifier).getD false
        else if w == "import" then
          advance
          let u ← cur
          return u.isString || u.isPunct .star || u.isPunct .lbrace || u.word?.isSome
        else if w == "export" then
          advance
          let u ← if (← atWord "type") then peek else cur
          if u.isPunct .assign || u.isPunct .star || u.isPunct .lbrace || u.isWord "default"
              || u.isWord "as" || u.isPunct .at then return true
          go n
        else if w == "static" then
          advance
          go n
        else return false

section
variable (g : Grammar)

/-- A block of statements in braces. -/
def block : Parse Term := functionBody g

/-- `( e )` after `if`, `while`, `switch` and `with`. -/
def parenCondition : Parse Term := do
  expect .lparen
  let e ← withCtx (fun c => { c with allowIn := true }) g.expression
  expect .rparen
  return e

/-- One variable declarator: a target, in TypeScript a definite mark, an optional mark and a
type, and an initializer under the `in` rule in force. -/
def declarator : Parse Term := do
  let isName := (← cur).word?.isSome
  let p ← g.bindingTarget
  let extra ← do
    if ← isTs then
      let t ← cur
      if isName && t.isPunct .bang && !t.newlineBefore then advance
      discard <| eat .question
      annotation g
    else pure []
  return .group (p :: extra ++ (← initializer g))

/-- The declarators of a `var`, `let`, `const` or `using` declaration. -/
def declarators : Parse (List Term) := commaSeparated (declarator g)

/-- A variable statement after its keyword. -/
def variableStatement : Parse Term := do
  let ds ← declarators g
  semicolon
  return .group ds

/-- The member of an enum: a name, a string, or a string in brackets, and an initializer. -/
def enumMember : Parse Term := do
  let t ← cur
  match t.kind with
  | .punct .lbracket =>
    advance
    let u ← cur
    if !(u.isString || u.kind == .template .whole) then giveUp
    advance
    expect .rbracket
  | .string _ | .word _ _ => advance
  | _ => giveUp
  return .group (← initializer g)

/-- The body of a namespace or module: statements in braces, or nothing before the end of the
statement. -/
def moduleBody : Parse (List Term) := do
  if ← atPunct .lbrace then return [← block g]
  semicolon
  return []

/-- An import-equals declaration after `import`: `X = require("m")` or `X = A.B`. -/
def importEquals : Parse Term := do
  if (← atWord "type") && isBindingWord (← peek) then advance
  discard bindingName
  expect .assign
  let r ← do
    if (← atWord "require") && (← peek).isPunct .lparen then
      advance
      advance
      discard moduleSource
      expect .rparen
      pure Term.leaf
    else typeName
  semicolon
  return .group [r]

/-- A declaration after its modifiers: a variable declaration, a class, a function, or in
TypeScript a type alias, interface, enum, namespace, module, global augmentation or
import-equals declaration. -/
def declaration (ms : List String) (ds : List Term) : Parse Term := do
  let t ← cur
  let ts ← isTs
  match t.word? with
  | some "var" | some "let" | some "const" =>
    advance
    if t.isWord "const" && ts && (← atWord "enum") then
      advance
      discard bindingName
      return .group (← delimited .lbrace .rbrace (enumMember g))
    return .group (ds ++ [← variableStatement g])
  | some "class" =>
    advance
    return .group (ds ++ [← classRest g])
  | some "function" =>
    advance
    return .group (ds ++ [← functionRest g (ms.contains "async") false])
  | some "async" =>
    let p ← peek
    if !(p.isWord "function" && !p.newlineBefore) then giveUp
    advance
    advance
    return .group (ds ++ [← functionRest g true false])
  | some "using" =>
    if !isBindingWord (← peek) then giveUp
    advance
    return ← variableStatement g
  | some "enum" =>
    if !ts then giveUp
    advance
    discard bindingName
    return .group (← delimited .lbrace .rbrace (enumMember g))
  | some "type" =>
    if !ts then giveUp
    advance
    discard bindingName
    let tps ← typeParameters g
    expect .assign
    let ty ← g.type
    semicolon
    return .group (tps ++ [ty])
  | some "interface" =>
    if !ts then giveUp
    advance
    discard bindingName
    let tps ← typeParameters g
    let hs ← heritage g
    return .group (tps ++ hs ++ (← typeMembers g))
  | some "module" | some "namespace" =>
    if !ts then giveUp
    advance
    if (← cur).isString then advance
    else
      discard bindingName
      discard <| repeatWhile (fun (u : Unit) => do
        if ← eat .dot then
          discard bindingName
          return some u
        return none) ()
    return .group (← moduleBody g)
  | some "global" =>
    if !ts then giveUp
    advance
    return .group (← moduleBody g)
  | some "import" =>
    if !ts then giveUp
    advance
    importEquals
  | _ => giveUp

/-- A TypeScript declaration statement: modifiers, then a declaration. -/
def tsDeclaration (ds : List Term) : Parse Term := do
  let ms ← modifiers false false
  declaration g ms ds

/-- An `import` declaration after `import`, or an import-equals declaration. -/
def importDeclaration : Parse Term := do
  expectWord "import"
  let ts ← isTs
  if (← atWord "source") && (← lookahead sourcePhaseAhead) then advance
  else if (← atWord "defer") && (← peek).isPunct .star then advance
  if ts && (← lookahead importEqualsAhead) then return ← importEquals
  if ts && (← atWord "type") && (← lookahead typeImportAhead) then advance
  let bindings ← if (← cur).isString then pure [] else importClause
  let source ← moduleSource
  importAttributes
  semicolon
  return .importDecl ⟨source, bindings⟩

/-- One specifier of a named export `local as exported`, after an optional `type`. -/
def exportSpecifier : Parse Unit := do
  if (← isTs) && (← atWord "type") then
    if ← lookahead typeSpecifierAhead then advance
  discard exportName
  if ← eatWord "as" then discard exportName

/-- The rest of `export * [as name] from "m"` after `*`. -/
def exportAll : Parse Term := do
  if ← eatWord "as" then discard exportName
  expectWord "from"
  discard moduleSource
  importAttributes
  semicolon
  return .leaf

/-- The rest of `export { ... } [from "m"]` from `{`. -/
def exportNamed : Parse Term := do
  discard <| delimited .lbrace .rbrace exportSpecifier
  if ← eatWord "from" then
    discard moduleSource
    importAttributes
  semicolon
  return .leaf

/-- The rest of `export default ...` after `default`: a class, a function, in TypeScript an
interface or abstract class, or an expression. -/
def exportDefault (ds : List Term) : Parse Term := do
  let t ← cur
  let ts ← isTs
  if t.isWord "class" then
    advance
    return .group (ds ++ [← classRest g])
  if t.isPunct .at then
    let more ← decorators g
    expectWord "class"
    return .group (ds ++ more ++ [← classRest g])
  if ts && t.isWord "interface" && isBindingWord (← peek) then
    return ← declaration g [] ds
  if ts && t.isWord "abstract" && (← peek).isWord "class" then
    advance
    advance
    return .group (ds ++ [← classRest g])
  if t.isWord "function" then
    advance
    return .group (ds ++ [← functionRest g false false])
  if t.isWord "async" then
    let p ← peek
    if p.isWord "function" && !p.newlineBefore then
      advance
      advance
      return .group (ds ++ [← functionRest g true false])
  let e ← g.assignment true
  semicolon
  return .group (ds ++ [e])

/-- An `export` declaration after `export`. -/
def exportDeclaration (ds : List Term) : Parse Term := do
  expectWord "export"
  let t ← cur
  let ts ← isTs
  if ts && t.isPunct .assign then
    advance
    let e ← g.assignment true
    semicolon
    return .group (ds ++ [e])
  if ts && t.isWord "as" && (← peek).isWord "namespace" then
    advance
    advance
    discard wordName
    semicolon
    return .leaf
  if ts && t.isWord "type" then
    let p ← peek
    if p.isPunct .star then
      advance
      advance
      return ← exportAll
    if p.isPunct .lbrace then
      advance
      return ← exportNamed
  if t.isPunct .star then
    advance
    return ← exportAll
  if t.isPunct .lbrace then return ← exportNamed
  if ← eatWord "default" then return ← exportDefault g ds
  let more ← decorators g
  let ms ← if ts then modifiers false false else pure []
  declaration g ms (ds ++ more)

/-- A `for` statement after `for`: a three-part loop, or a `for-in` or `for-of` loop. In the
head, `let` begins a declaration when a pattern or any word but `in` follows it, so
`for (let of of xs)` declares `of` and `for (let of xs)` does not fit, and is a name otherwise. -/
def forStatement : Parse Term := do
  discard <| eatWord "await"
  expect .lparen
  let noIn : Context → Context := fun c => { c with allowIn := false }
  let head ← do
    let t ← cur
    if t.isPunct .semicolon then pure none
    else
      -- the keywords a declaration begins with, none when it is no declaration
      let keywords ← do
        if t.isWord "var" || t.isWord "const" then pure 1
        else if t.isWord "let" then
          let p ← peek
          pure (if p.isPunct .lbracket || p.isPunct .lbrace
            || (p.word?.isSome && !p.isWord "in") then 1 else 0)
        else if t.isWord "using" then
          let p ← peek
          pure (if isBindingWord p && !p.isWord "of" && !p.isWord "in" then 1 else 0)
        else if t.isWord "await" then
          pure (if ← lookahead awaitUsingAhead then 2 else 0)
        else pure 0
      if keywords > 0 then
        advance
        if keywords > 1 then advance
        pure (some (Term.group (← withCtx noIn (declarators g)), true))
      else pure (some (← withCtx noIn g.expression, false))
  match head with
  | some (left, isDeclaration) =>
    if (← atWord "in") || (← atWord "of") then
      if !isDeclaration && !assignTarget left then giveUp
      let isIn ← atWord "in"
      advance
      let right ← if isIn then withCtx (fun c => { c with allowIn := true }) g.expression
        else withCtx (fun c => { c with allowIn := true }) (g.assignment true)
      expect .rparen
      return .group [left, right, ← g.statement .single]
  | none => pure ()
  expect .semicolon
  let test ← if ← atPunct .semicolon then pure [] else
    pure [← withCtx (fun c => { c with allowIn := true }) g.expression]
  expect .semicolon
  let update ← if ← atPunct .rparen then pure [] else
    pure [← withCtx (fun c => { c with allowIn := true }) g.expression]
  expect .rparen
  let body ← g.statement .single
  return .group (head.toList.map Prod.fst ++ test ++ update ++ [body])

/-- A `switch` case: `case e:` or `default:` and the statements up to the next case. -/
def switchCase : Parse Term := do
  let test ← do
    if ← eatWord "default" then pure []
    else
      expectWord "case"
      pure [← withCtx (fun c => { c with allowIn := true }) g.expression]
  expect .colon
  let ss ← repeatWhile (fun (acc : List Term) => do
    let t ← cur
    if t.isWord "case" || t.isWord "default" || t.isPunct .rbrace then return none
    return some ((← g.statement .list) :: acc)) []
  return .group (test ++ ss.reverse)

/-- A `try` statement after `try`. -/
def tryStatement : Parse Term := do
  let body ← block g
  let handler ← do
    if ← eatWord "catch" then
      let param ← do
        if ← eat .lparen then
          let p ← g.bindingTarget
          let ty ← annotation g
          expect .rparen
          pure (p :: ty)
        else pure []
      pure (param ++ [← block g])
    else pure []
  let finalizer ← if ← eatWord "finally" then pure [← block g] else pure []
  return .group (body :: handler ++ finalizer)

/-- An expression statement, or a labeled statement when the expression is a lone
identifier followed by `:`. -/
def expressionStatement : Parse Term := do
  let e ← withCtx (fun c => { c with allowIn := true }) g.expression
  if let .name _ := e then
    if ← eat .colon then return .group [← g.statement .single]
  semicolon
  return e

/-- A statement beginning with `let`: an expression using `let` as an identifier, or a
declaration. -/
def letStatement (place : StatementPlace) : Parse Term := do
  let p ← peek
  let operatorNext := match p.kind with
    | .punct q => q.isAssignment || (binaryPrecedence false true p).isSome
    | .word w _ => w == "in" || w == "instanceof"
    | _ => false
  if operatorNext then
    let e ← g.assignment true
    semicolon
    return e
  if p.isPunct .dot || p.isPunct .lparen then return ← expressionStatement g
  if (place == .single && !p.isPunct .lbracket) || p.isPunct .semicolon then
    advance
    semicolon
    return .leaf
  advance
  variableStatement g

/-- A statement or declaration. -/
def statement (place : StatementPlace) : Parse Term := do
  let t ← cur
  match t.kind with
  | .punct .lbrace => block g
  | .punct .semicolon =>
    advance
    return .leaf
  | .punct .at =>
    let ds ← decorators g
    if ← atWord "export" then return ← exportDeclaration g ds
    if ← atWord "class" then
      advance
      return .group (ds ++ [← classRest g])
    if ← atWord "abstract" then
      if ← isTs then return ← tsDeclaration g ds
      if (← peek).isWord "class" then
        advance
        advance
        return .group (ds ++ [← classRest g])
    giveUp
  | .word w _ =>
    let ts ← isTs
    match w with
    | "if" =>
      advance
      let c ← parenCondition g
      let a ← g.statement .single
      if ← eatWord "else" then return .group [c, a, ← g.statement .single]
      return .group [c, a]
    | "do" =>
      advance
      let body ← g.statement .single
      expectWord "while"
      let c ← parenCondition g
      discard <| eat .semicolon
      return .group [body, c]
    | "while" =>
      advance
      let c ← parenCondition g
      return .group [c, ← g.statement .single]
    | "for" =>
      advance
      forStatement g
    | "break" | "continue" =>
      advance
      if !(← canInsertSemicolon) then discard bindingName
      semicolon
      return .leaf
    | "with" =>
      advance
      let c ← parenCondition g
      return .group [c, ← g.statement .single]
    | "switch" =>
      advance
      let c ← parenCondition g
      expect .lbrace
      let cs ← untilClose .rbrace (switchCase g)
      expect .rbrace
      return .group (c :: cs)
    | "throw" =>
      advance
      let e ← withCtx (fun c => { c with allowIn := true }) g.expression
      semicolon
      return e
    | "try" =>
      advance
      tryStatement g
    | "debugger" =>
      advance
      semicolon
      return .leaf
    | "class" =>
      advance
      classRest g
    | "import" =>
      let p ← peek
      if p.isPunct .dot || p.isPunct .lparen then expressionStatement g
      else importDeclaration
    | "export" => exportDeclaration g []
    | "return" =>
      advance
      if ← canInsertSemicolon then
        semicolon
        return .leaf
      let e ← withCtx (fun c => { c with allowIn := true }) g.expression
      semicolon
      return e
    | "var" =>
      advance
      variableStatement g
    | "function" =>
      advance
      functionRest g false false
    | "let" => letStatement g place
    | "const" =>
      if ts && (← peek).isWord "enum" then return ← tsDeclaration g []
      advance
      variableStatement g
    | "using" =>
      let p ← peek
      if isBindingWord p && !p.newlineBefore then
        advance
        return ← variableStatement g
      expressionStatement g
    | "await" =>
      if ← lookahead awaitUsingAhead then
        advance
        advance
        return ← variableStatement g
      expressionStatement g
    | _ =>
      if w == "async" then
        let p ← peek
        if p.isWord "function" && !p.newlineBefore then
          advance
          advance
          return ← functionRest g true false
      if ts && (← lookahead tsDeclarationAhead) then return ← tsDeclaration g []
      expressionStatement g
  | _ => expressionStatement g

end

end KeyIntern.Script
