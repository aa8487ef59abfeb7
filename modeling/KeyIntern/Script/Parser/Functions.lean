import KeyIntern.Script.Parser.Patterns

/-! # Functions and classes

A function is a signature (type parameters, parameters, return type) and a body, read in
the function's own context: `await` is an operator in an async function and `yield` in a
generator. In TypeScript a declaration or member may leave the body out (an overload, an
abstract or ambient member) and end as a statement does.

A class is a name, type parameters, `extends` and `implements` clauses and a body of
members: fields, methods, accessors, index signatures and static blocks, each after its
decorators and modifiers.
-/

namespace KeyIntern.Script

open Parse

/-- The context of a function's own parameters and body. -/
def functionContext (isAsync isGenerator : Bool) (c : Context) : Context :=
  { c with allowIn := true, inAsync := isAsync, inGenerator := isGenerator, inDecorator := false,
           noConditionalTypes := false }

section
variable (g : Grammar)

/-- A body of statements in braces. -/
def functionBody : Parse Term := do
  expect .lbrace
  let ss ← untilClose .rbrace (g.statement .list)
  expect .rbrace
  return .group ss

/-- The signature and body of a function or method after its name. `bodyOptional` lets a
TypeScript declaration end without a body. -/
def functionTail (isAsync isGenerator bodyOptional : Bool) : Parse Term :=
  withCtx (functionContext isAsync isGenerator) do
    let tps ← typeParameters g
    let ps ← g.parameters
    let r ← returnType g
    if ← atPunct .lbrace then
      return .group (tps ++ ps :: r ++ [← functionBody g])
    if bodyOptional && (← isTs) then
      semicolon
      return .group (tps ++ ps :: r)
    giveUp

/-- A function after the word `function`: `*`, an optional name, the signature and the body.
The name of a function expression is read in the function's own context; a reserved word
cannot stand where the name belongs. -/
def functionRest (isAsync isExpression : Bool) : Parse Term := do
  let gen ← eat .star
  let nameCtx : Context → Context :=
    if isExpression then fun c => { c with inAsync := isAsync, inGenerator := gen } else id
  withCtx nameCtx (do if ← atBindingName then advance)
  if let some w := (← cur).word? then
    if Word.isReserved w then giveUp
  functionTail g isAsync gen true

/-- The `extends` and `implements` clauses of a class or interface. -/
def heritage : Parse (List Term) := do
  let hs ← repeatWhile (fun (acc : List Term) => do
    if ← eatWord "extends" then
      let items ← commaSeparated (do
        let e ← g.leftHandSide
        let args ← if (← isTs) && (← atPunct .less) then typeArguments g else pure []
        return Term.group (e :: args))
      return some (.group items :: acc)
    if ← eatWord "implements" then
      let items ← commaSeparated (do
        let n ← typeName
        let args ← if ← atPunct .less then typeArguments g else pure []
        return Term.group (n :: args))
      return some (.group items :: acc)
    return none) []
  return hs.reverse

/-- The rest of a field after its name: a definite mark, a type, an initializer read outside
any function's context, and the end of the statement. -/
def fieldRest : Parse (List Term) := do
  let t ← cur
  if (← isTs) && t.isPunct .bang && !t.newlineBefore then advance
  let ty ← annotation g
  let i ← if ← eat .assign then
      pure [← withCtx (functionContext false false) (g.assignment true)]
    else pure []
  semicolon
  return ty ++ i

/-- Whether a token can begin the name of a class member. -/
def memberNameStart (t : Token) : Bool :=
  match t.kind with
  | .word _ _ | .string _ | .number | .bigint | .privateName _ => true
  | .punct p => p == .star || p == .lbracket
  | _ => false

/-- A member of a class body; stray semicolons before it are skipped. -/
def classMember : Parse Term := do
  discard <| repeatWhile (fun (u : Unit) => do
    if ← eat .semicolon then return some u else return none) ()
  if ← atPunct .rbrace then return .leaf
  let ds ← decorators g
  let ms ← modifiers true true
  if (← atWord "static") && (← peek).isPunct .lbrace then
    advance
    return .group (ds ++ [← withCtx (functionContext false false) (functionBody g)])
  let accessor ← if ← contextualModifier "get" then pure true else contextualModifier "set"
  if accessor then
    let key ← propertyName g
    let f ← functionTail g false false true
    return .group (ds ++ key.toList ++ [f])
  if ← atIndexSignature then return .group (ds ++ [← indexSignature g])
  if memberNameStart (← cur) then
    let gen ← eat .star
    let key ← propertyName g
    discard <| eat .question
    let u ← cur
    if gen || u.isPunct .lparen || u.isPunct .less then
      let f ← functionTail g (ms.contains "async") gen true
      return .group (ds ++ key.toList ++ [f])
    return .group (ds ++ key.toList ++ (← fieldRest g))
  if !ms.isEmpty then
    return .group (ds ++ (← fieldRest g))
  giveUp

/-- A class body `{ ... }`. -/
def classBody : Parse Term := do
  expect .lbrace
  let ms ← untilClose .rbrace (classMember g)
  expect .rbrace
  return .group ms

/-- A class after the word `class`: an optional name, type parameters, heritage and body. -/
def classRest : Parse Term := do
  let t ← cur
  if (← atBindingName) && !t.isWord "implements" then advance
  let tps ← typeParameters g
  let hs ← heritage g
  let body ← classBody g
  return .group (tps ++ hs ++ [body])

end

end KeyIntern.Script
