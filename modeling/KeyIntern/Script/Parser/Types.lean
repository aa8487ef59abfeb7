import KeyIntern.Script.Parser.Basic

/-! # Types and modifiers

The TypeScript type grammar, and the modifier words (`public`, `static`, `readonly`, ...)
that stand before class members, parameters and declarations.

A modifier word is taken as a modifier only when what follows it could follow a modifier,
so that `static() {}` is a method named `static` and `readonly: T` a property named
`readonly`. Types follow the usual layering: conditional types over unions over
intersections over type operators over postfix types over primary types; a function type
may stand wherever a type is expected.
-/

namespace KeyIntern.Script

open Parse

/-! ## Modifiers -/

/-- Whether the current token may follow a modifier: a property name, `[`, `{`, `*`, `...` or
a private name. -/
def canFollowModifier : Parse Bool := do
  let t ← cur
  match t.kind with
  | .word _ _ | .string _ | .number | .bigint | .privateName _ => return true
  | .punct p => return p == .lbracket || p == .lbrace || p == .star || p == .ellipsis
  | _ => return false

/-- Whether the current token may follow `export` used as a modifier. -/
def canFollowExport : Parse Bool := do
  let t ← cur
  if t.isPunct .at then return true
  if t.isPunct .star || t.isWord "as" || t.isPunct .lbrace then return false
  canFollowModifier

/-- From `default`, whether the next token lets it stand as a modifier. -/
def nextCanFollowDefault : Parse Bool := do
  advance
  let t ← cur
  if t.isWord "class" || t.isWord "function" || t.isWord "interface" || t.isPunct .at then
    return true
  if t.isWord "abstract" then
    return ← lookahead (do advance; let u ← cur; return u.isWord "class" && !u.newlineBefore)
  if t.isWord "async" then
    return ← lookahead (do advance; let u ← cur; return u.isWord "function" && !u.newlineBefore)
  return false

/-- From a modifier word, moves past it and answers whether what follows lets it stand as a
modifier. -/
def nextCanFollowModifier : Parse Bool := do
  let t ← cur
  match t.word? with
  | some "const" => advance; atWord "enum"
  | some "export" =>
    advance
    if ← atWord "default" then lookahead nextCanFollowDefault
    else if ← atWord "type" then lookahead (do advance; canFollowExport)
    else canFollowExport
  | some "default" => nextCanFollowDefault
  | some "static" | some "get" | some "set" => advance; canFollowModifier
  | _ =>
    advance
    if (← cur).newlineBefore then return false
    canFollowModifier

/-- Whether the current token is a modifier word. -/
def atModifierWord : Parse Bool := do
  match (← cur).word? with
  | some w => return Word.isModifier w
  | none => return false

/-- Consumes one modifier if one stands here, answering its word. `const` is a modifier only
where `permitConst` allows it; `static` does not repeat, and before `{` it opens a static
block where `stopAtStaticBlock` says so. -/
def modifier (permitConst stopAtStaticBlock seenStatic : Bool) : Parse (Option String) := do
  match (← cur).word? with
  | none => return none
  | some w =>
    if !Word.isModifier w then return none
    let ok ←
      if w == "const" then
        if permitConst then
          consumeIf (do
            advance
            if (← cur).newlineBefore then return false
            canFollowModifier)
        else pure false
      else if stopAtStaticBlock && w == "static" && (← peek).isPunct .lbrace then pure false
      else if seenStatic && w == "static" then pure false
      else consumeIf nextCanFollowModifier
    return if ok then some w else none

/-- Consumes the modifiers that stand here and answers their words in order. -/
def modifiers (permitConst stopAtStaticBlock : Bool) : Parse (List String) := do
  let ms ← repeatWhile (fun (acc : List String) => do
    match ← modifier permitConst stopAtStaticBlock (acc.contains "static") with
    | some w => return some (w :: acc)
    | none => return none) []
  return ms.reverse

/-- Consumes the word `w` (`get`, `set`) where it stands as a modifier. -/
def contextualModifier (w : String) : Parse Bool := do
  if ← atWord w then consumeIf nextCanFollowModifier else return false

/-- Whether a word begins a type although it is reserved. -/
def reservedTypeStart (w : String) : Bool :=
  ["void", "null", "this", "typeof", "true", "false", "import", "new"].contains w

/-- Whether the current token begins a type. `inParameter` leaves out the tokens that would
rather begin a parameter. Looking past `(` nests, one token further each time. -/
def startsType (inParameter : Bool) : Parse Bool := fun c =>
  go (c.src.size + 1 - c.tok.start) inParameter c
where
  go : Nat → Bool → Parse Bool
    | 0, _ => Parse.pure false
    | n + 1, inParameter => do
      let t ← cur
      match t.kind with
      | .word w _ =>
        if w == "function" then return !inParameter
        return reservedTypeStart w || Word.isIdentifier w
      | .string _ | .number | .bigint | .template .whole | .template .head => return true
      | .punct p =>
        match p with
        | .lbrace | .lbracket | .less | .bar | .amp | .star | .question | .bang | .ellipsis =>
          return true
        | .minus =>
          if inParameter then return false
          lookahead (do advance; return (← cur).isNumeric)
        | .lparen =>
          if inParameter then return false
          lookahead (do
            advance
            let u ← cur
            if u.isPunct .rparen || u.isPunct .ellipsis || u.isPunct .lbrace
                || u.isPunct .lbracket || u.isPunct .at then return true
            match u.kind with
            | .privateName _ => return true
            | .word w _ =>
              if Word.isReference w || Word.isModifier w then return true
              go n false
            | _ => go n false)
        | _ => return false
      | _ => return false

section
variable (g : Grammar)

/-! ## Names and annotations -/

/-- A property name: a word, a string or numeric literal or a private name, answering `none`,
or a computed name `[e]`, answering the expression. -/
def propertyName : Parse (Option Term) := do
  let t ← cur
  match t.kind with
  | .word _ _ | .string _ | .number | .bigint | .privateName _ => advance; return none
  | .punct .lbracket =>
    advance
    let e ← withCtx (fun c => { c with allowIn := true, inDecorator := false }) (g.assignment true)
    expect .rbracket
    return some e
  | _ => giveUp

/-- A type name `A.B.C`; its first part may be `this`. -/
def typeName : Parse Term := do
  let w ← wordName
  let first := if w == "this" then Term.leaf else .name w
  repeatWhile (fun t => do
    if ← eat .dot then return some (.qualified t (← wordName)) else return none) first

/-- Type arguments `<T, ...>`; a `<<` is read as its first `<`. -/
def typeArguments : Parse (List Term) := do
  if ← atPunct .shiftLeft then relex (fun _ t => Lexer.lessAt t)
  delimited .less .greater g.type

/-- Type arguments, when a `<` on the same line follows. -/
def typeArgumentsHere : Parse (List Term) := do
  let t ← cur
  if !t.newlineBefore && (t.isPunct .less || t.isPunct .shiftLeft) then typeArguments g
  else return []

/-- A type annotation `: T`, if one stands here; read only in TypeScript. -/
def annotation : Parse (List Term) := do
  if !(← isTs) then return []
  if ← eat .colon then return [← g.type] else return []

/-- A type that may be a type predicate `x is T`. -/
def typeOrPredicate : Parse Term := do
  if ← atIdentifier then
    discard <| consumeIf (do
      advance
      let t ← cur
      if t.isWord "is" && !t.newlineBefore then advance; return true
      return false)
  g.type

/-- A return type `: T`, if one stands here; read only in TypeScript. -/
def returnType : Parse (List Term) := do
  if !(← isTs) then return []
  if ← eat .colon then
    return [← withCtx (fun c => { c with noConditionalTypes := false }) (typeOrPredicate g)]
  return []

/-- One type parameter: modifiers, a name, a constraint and a default. -/
def typeParameter : Parse Term := do
  discard <| modifiers true false
  discard bindingName
  let bound ← if ← eatWord "extends" then pure [← g.type] else pure []
  let dflt ← if ← eat .assign then pure [← g.type] else pure []
  return .group (bound ++ dflt)

/-- Type parameters `<T, ...>`, read only in TypeScript. -/
def typeParameters : Parse (List Term) := do
  if (← isTs) && (← atPunct .less) then delimited .less .greater (typeParameter g)
  else return []

/-! ## Function types -/

/-- Whether a parameter begins here: modifiers, then a name, `this` or a well-formed pattern;
the parameter is consumed. -/
def skipParameterStart : Parse Bool := do
  if ← atModifierWord then discard <| modifiers false false
  if (← atIdentifier) || (← atWord "this") then advance; return true
  if (← atPunct .lbracket) || (← atPunct .lbrace) then
    return (← attempt g.bindingTarget).isSome
  return false

/-- From `(`, whether a function type certainly follows. -/
def functionTypeAhead : Parse Bool := do
  advance
  let t ← cur
  if t.isPunct .rparen || t.isPunct .ellipsis then return true
  if ← skipParameterStart g then
    let u ← cur
    if u.isPunct .colon || u.isPunct .comma || u.isPunct .question || u.isPunct .assign then
      return true
    if u.isPunct .rparen then
      advance
      return (← cur).isPunct .arrow
  return false

/-- Whether a function or constructor type begins here. -/
def startsFunctionType : Parse Bool := do
  let t ← cur
  if t.isPunct .less then return true
  if t.isPunct .lparen then
    if ← lookahead (functionTypeAhead g) then return true
  if t.isWord "new" then return true
  if t.isWord "abstract" then return (← peek).isWord "new"
  return false

/-- A function type `(...) => T` or constructor type `new (...) => T`. -/
def functionType : Parse Term := do
  discard <| eatWord "abstract"
  discard <| eatWord "new"
  let tps ← typeParameters g
  let ps ← g.parameters
  expect .arrow
  let r ← withCtx (fun c => { c with noConditionalTypes := false }) (typeOrPredicate g)
  return .group (tps ++ [ps, r])

/-! ## Members of object types -/

/-- Ends a member of an object type: a `,` or an optional `;`. -/
def memberEnd : Parse Unit := do
  if !(← eat .comma) then discard <| eat .semicolon

/-- From `[`, whether an index signature follows rather than a computed name. -/
def indexSignatureAhead : Parse Bool := do
  advance
  let t ← cur
  if t.isPunct .ellipsis || t.isPunct .rbracket then return true
  if ← atModifierWord then
    advance
    if ← atIdentifier then return true
  else if ← atIdentifier then advance
  else return false
  let u ← cur
  if u.isPunct .colon || u.isPunct .comma then return true
  if !u.isPunct .question then return false
  advance
  let v ← cur
  return v.isPunct .colon || v.isPunct .comma || v.isPunct .rbracket

/-- Whether an index signature begins here. -/
def atIndexSignature : Parse Bool := do
  if ← atPunct .lbracket then lookahead indexSignatureAhead else return false

/-- An index signature `[k: K]: T`, its member end included. -/
def indexSignature : Parse Term := do
  let keys ← delimited .lbracket .rbracket (do
    discard wordName
    if !(← atPunct .colon) then giveUp
    return .group (← annotation g))
  if !(← atPunct .colon) then giveUp
  let t ← annotation g
  memberEnd
  return .group (keys ++ t)

/-- A call or construct signature `<T>(...): R` after `new`, if any, its member end included. -/
def callSignature : Parse Term := do
  let tps ← typeParameters g
  let ps ← g.parameters
  let r ← if ← atPunct .arrow then (do advance; pure [← typeOrPredicate g]) else returnType g
  memberEnd
  return .group (tps ++ ps :: r)

/-- A member of an object type. -/
def typeMember : Parse Term := do
  let t ← cur
  if t.isPunct .lparen || t.isPunct .less then return ← callSignature g
  if t.isWord "new" then
    let p ← peek
    if p.isPunct .lparen || p.isPunct .less then
      advance
      return ← callSignature g
  discard <| modifiers false false
  let accessor ← if ← contextualModifier "get" then pure true else contextualModifier "set"
  if accessor then
    let key ← propertyName g
    let ps ← g.parameters
    let r ← returnType g
    memberEnd
    return .group (key.toList ++ ps :: r)
  if ← atIndexSignature then return ← indexSignature g
  let key ← propertyName g
  discard <| eat .question
  let u ← cur
  if u.isPunct .lparen || u.isPunct .less then
    let tps ← typeParameters g
    let ps ← g.parameters
    let r ← returnType g
    memberEnd
    return .group (key.toList ++ tps ++ ps :: r)
  let ty ← annotation g
  memberEnd
  return .group (key.toList ++ ty)

/-- The members of an object type or interface body, in braces. -/
def typeMembers : Parse (List Term) := do
  expect .lbrace
  let ms ← untilClose .rbrace (typeMember g)
  expect .rbrace
  return ms

/-- From `{`, whether a mapped type follows. -/
def mappedTypeAhead : Parse Bool := do
  advance
  let t ← cur
  if t.isPunct .plus || t.isPunct .minus then
    advance
    return (← cur).isWord "readonly"
  if t.isWord "readonly" then advance
  if !(← atPunct .lbracket) then return false
  advance
  if !(← atIdentifier) then return false
  advance
  return (← cur).isWord "in"

/-- A mapped type `{ readonly [K in T as N]?: V }`. -/
def mappedType : Parse Term := do
  expect .lbrace
  let t ← cur
  if t.isPunct .plus || t.isPunct .minus then
    advance
    expectWord "readonly"
  else discard <| eatWord "readonly"
  expect .lbracket
  discard wordName
  expectWord "in"
  let k ← g.type
  let n ← if ← eatWord "as" then pure [← g.type] else pure []
  expect .rbracket
  let u ← cur
  if u.isPunct .plus || u.isPunct .minus then
    advance
    expect .question
  else discard <| eat .question
  let v ← annotation g
  discard <| eat .semicolon
  expect .rbrace
  return .group (k :: n ++ v)

/-! ## Primary types -/

/-- From `...` or a word, whether a named tuple member `name:` or `name?:` follows. -/
def tupleNameAhead : Parse Bool := do
  discard <| eat .ellipsis
  if !(← atAnyWord) then return false
  advance
  if ← atPunct .colon then return true
  if ← atPunct .question then
    advance
    return (← cur).isPunct .colon
  return false

/-- A member of a tuple type. -/
def tupleMember : Parse Term := do
  if ← lookahead tupleNameAhead then
    discard <| eat .ellipsis
    discard wordName
    discard <| eat .question
    expect .colon
  discard <| eat .ellipsis
  g.type

/-- The substitutions of a template literal type, from its head. -/
def templateType : Parse Term := do
  if (← cur).kind == .template .whole then advance; return .leaf
  advance
  let parts ← iterate (fun (acc : List Term) => do
    let x ← g.type
    if !(← atPunct .rbrace) then giveUp
    relex Lexer.templateAt
    let k := (← cur).kind
    if k == .eof then giveUp
    advance
    if k == .template .middle then return .more (x :: acc) else return .done (x :: acc)) []
  return .group parts.reverse

/-- An import type `import("m").A.B<T>`, after an optional `typeof`. -/
def importType : Parse Term := do
  discard <| eatWord "typeof"
  expectWord "import"
  expect .lparen
  let arg ← g.type
  let opts ← if ← eat .comma then
      if ← atPunct .rparen then pure []
      else
        let o ← g.assignment true
        discard <| eat .comma
        pure [o]
    else pure []
  expect .rparen
  if ← eat .dot then
    discard wordName
    discard <| repeatWhile (fun (u : Unit) => do
      if ← eat .dot then discard wordName; return some u else return none) ()
  let args ← typeArgumentsHere g
  return .group (arg :: opts ++ args)

/-- A type reference: a type name with its type arguments. -/
def typeReference : Parse Term := do
  let n ← typeName
  return .group (n :: (← typeArgumentsHere g))

/-- The types that need no operator around them. -/
def primaryType : Parse Term := do
  let t ← cur
  match t.kind with
  | .word w _ =>
    if Word.keywordTypes.contains w then
      if (← peek).isPunct .dot then typeReference g else advance; return .leaf
    else if w == "void" || w == "true" || w == "false" then advance; return .leaf
    else if w == "this" then
      advance
      let u ← cur
      if u.isWord "is" && !u.newlineBefore then
        advance
        return .group [← g.type]
      return .leaf
    else if w == "typeof" then
      if (← peek).isWord "import" then importType g
      else
        advance
        let n ← typeName
        return .group (n :: (← typeArgumentsHere g))
    else if w == "import" then importType g
    else if w == "asserts" then
      let p ← peek
      if p.word?.isSome && !p.newlineBefore then
        advance
        if ← atWord "this" then advance else discard bindingName
        if ← eatWord "is" then return .group [← g.type]
        return .leaf
      typeReference g
    else typeReference g
  | .string _ | .number | .bigint => advance; return .leaf
  | .template _ => templateType g
  | .punct .minus =>
    if (← peek).isNumeric then advance; advance; return .leaf
    giveUp
  | .punct .lbrace =>
    if ← lookahead mappedTypeAhead then mappedType g
    else return .group (← typeMembers g)
  | .punct .lbracket => return .group (← delimited .lbracket .rbracket (tupleMember g))
  | .punct .lparen =>
    advance
    let x ← g.type
    expect .rparen
    return x
  | .punct .question =>
    advance
    let u ← cur
    if u.isPunct .comma || u.isPunct .rbrace || u.isPunct .rparen || u.isPunct .greater
        || u.isPunct .assign || u.isPunct .bar then return .leaf
    g.type
  | _ => giveUp

/-- A primary type followed by `[]`, `[K]`, `!` or `?` on the same line. -/
def postfixType : Parse Term := do
  let base ← primaryType g
  repeatWhile (fun t => do
    let u ← cur
    if u.newlineBefore then return none
    if u.isPunct .bang then advance; return some t
    if u.isPunct .question then
      if ← lookahead (do advance; startsType false) then return none
      advance
      return some t
    if u.isPunct .lbracket then
      advance
      if ← eat .rbracket then return some t
      let i ← g.type
      expect .rbracket
      return some (.group [t, i])
    return none) base

/-- `infer X extends C`, after `infer`; the constraint is kept unless a conditional type
could continue from it. -/
def inferType : Parse Term := do
  discard bindingName
  let bound ← attempt (do
    expectWord "extends"
    let k ← withCtx (fun c => { c with noConditionalTypes := true }) g.type
    if (← ctx).noConditionalTypes || !(← atPunct .question) then return k
    giveUp)
  return .group bound.toList

/-- A type under the operators `keyof`, `unique`, `readonly` and `infer`. -/
def typeOperator : Parse Term := do
  match (← cur).word? with
  | some "keyof" | some "unique" | some "readonly" => advance; g.typeOperand
  | some "infer" => advance; inferType g
  | _ => withCtx (fun c => { c with noConditionalTypes := false }) (postfixType g)

/-- Constituents joined by `op`, a leading `op` allowed; a function type may stand after an
operator. -/
def joinedType (op : Punct) (operand : Parse Term) : Parse Term := do
  let leading ← eat op
  let first ← if leading && (← startsFunctionType g) then functionType g else operand
  if leading || (← atPunct op) then
    let rest ← repeatWhile (fun (acc : List Term) => do
      if ← eat op then
        let x ← if ← startsFunctionType g then functionType g else operand
        return some (x :: acc)
      else return none) []
    return .group (first :: rest.reverse)
  return first

/-- A type: a function type, or a union that a conditional type may continue. -/
def type : Parse Term := do
  if ← startsFunctionType g then return ← functionType g
  let t ← joinedType g .bar (joinedType g .amp (typeOperator g))
  let u ← cur
  if !(← ctx).noConditionalTypes && !u.newlineBefore && u.isWord "extends" then
    advance
    let e ← withCtx (fun c => { c with noConditionalTypes := true }) g.type
    expect .question
    let a ← withCtx (fun c => { c with noConditionalTypes := false }) g.type
    expect .colon
    let b ← withCtx (fun c => { c with noConditionalTypes := false }) g.type
    return .group [t, e, a, b]
  return t

end

end KeyIntern.Script
