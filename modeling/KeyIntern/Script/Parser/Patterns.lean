import KeyIntern.Script.Parser.Types

/-! # Binding patterns, parameters and decorators

A binding target is a name, or an object or array pattern of nested targets. Inside a
pattern each element may carry a default value; in TypeScript it may also carry an
optional mark `?` and a type. A parameter list is a parenthesized list of such elements,
each after its decorators and modifiers, with a `...` rest element and, in TypeScript, a
leading `this` parameter.
-/

namespace KeyIntern.Script

open Parse

/-- Comma-separated items up to `close`, where an item that begins with `...` is read by
`rest` and any other by `element`; a trailing comma is allowed and the closing token is left
current. An `element` may consume nothing (an elision), the comma after it then being
required. -/
def restList (close : Punct) (element rest : Parse Term) : Parse (List Term) := do
  let (xs, _) ← iterate (fun ((acc, first) : List Term × Bool) => do
    let t ← cur
    if t.isPunct close || t.isEof then return .done (acc, first)
    if !first then
      if !t.isPunct .comma then giveUp
      advance
      if ← atPunct close then return .done (acc, first)
    let x ← if ← atPunct .ellipsis then rest else element
    return .more (x :: acc, false)) ([], true)
  return xs.reverse

/-- One item, then more after each comma. -/
def commaSeparated (item : Parse β) : Parse (List β) := do
  let first ← item
  let rest ← repeatWhile (fun (acc : List β) => do
    if ← eat .comma then return some ((← item) :: acc) else return none) []
  return first :: rest.reverse

section
variable (g : Grammar)

/-- An initializer `= e`, if one stands here; the `in` rule in force is kept. -/
def initializer : Parse (List Term) := do
  if ← eat .assign then return [← g.assignment true] else return []

/-- An initializer read with `in` allowed, as in patterns and parameters. -/
def defaultValue : Parse (List Term) :=
  withCtx (fun c => { c with allowIn := true }) (initializer g)

/-- A decorator `@e`: a left-hand-side expression in which `[` does not continue the member
chain, since it may begin a computed member name. -/
def decorator : Parse Term := do
  expect .at
  withCtx (fun c => { c with inDecorator := true }) g.leftHandSide

/-- The decorators that stand here. -/
def decorators : Parse (List Term) := do
  let ds ← repeatWhile (fun (acc : List Term) => do
    if ← atPunct .at then return some ((← decorator g) :: acc) else return none) []
  return ds.reverse

/-- In TypeScript, an optional mark `?` and a type annotation. -/
def optionalAndAnnotation : Parse (List Term) := do
  if !(← isTs) then return []
  discard <| eat .question
  annotation g

/-- A target inside a pattern or parameter list, with its marks and default value. -/
def bindingElement : Parse Term := do
  let p ← g.bindingTarget
  let ty ← optionalAndAnnotation g
  let d ← defaultValue g
  return .group (p :: ty ++ d)

/-- A rest element `...target`. -/
def restElement : Parse Term := do
  expect .ellipsis
  bindingElement g

/-- A property of an object pattern: `key: element`, or a shorthand name with an optional
default value. -/
def bindingProperty : Parse Term := do
  let t ← cur
  let shorthand := match t.word? with
    | some w => Word.isReference w
    | none => false
  let key ← propertyName g
  if ← eat .colon then
    return .group (key.toList ++ [← bindingElement g])
  if !shorthand || key.isSome then giveUp
  return .group (← defaultValue g)

/-- An object pattern `{ ... }`. -/
def objectPattern : Parse Term := do
  expect .lbrace
  let ps ← restList .rbrace (bindingProperty g) (restElement g)
  expect .rbrace
  return .group ps

/-- An array pattern `[ ... ]`, holes allowed. -/
def arrayPattern : Parse Term := do
  expect .lbracket
  let ps ← restList .rbracket
    (do if ← atPunct .comma then return Term.leaf else bindingElement g) (restElement g)
  expect .rbracket
  return .group ps

/-- A binding target: a name, or an object or array pattern. -/
def bindingTarget : Parse Term := do
  let t ← cur
  if t.isPunct .lbrace then objectPattern g
  else if t.isPunct .lbracket then arrayPattern g
  else
    discard bindingName
    return .leaf

/-- One parameter: decorators, modifiers and a binding element. -/
def parameter : Parse Term := do
  let ds ← decorators g
  discard <| modifiers false false
  return .group (ds ++ [← bindingElement g])

/-- A parameter list `( ... )`; in TypeScript it may open with a `this` parameter. -/
def parameters : Parse Term := do
  expect .lparen
  let thisPart ← do
    if (← isTs) && (← atWord "this") then
      advance
      let ty ← annotation g
      if !(← atPunct .rparen) then expect .comma
      pure ty
    else pure []
  let ps ← restList .rparen (parameter g) (restElement g)
  expect .rparen
  return .group (thisPart ++ ps)

end

end KeyIntern.Script
