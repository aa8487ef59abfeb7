import KeyIntern.Script.Parser.Functions

/-! # JSX

A JSX element is an opening tag with attributes, children and a closing tag, or a single
self-closing tag; a fragment is `<>` children `</>`. Tag and attribute names are
identifiers that may hold `-`; attribute strings are read up to the matching quote with no
escapes. Children are read in their own mode: text runs up to the next `{` or `<`, and may
hold no `>` or `}`. After a tag that stands as a child, the reader stays in that mode; after
the outermost tag it goes back to ordinary tokens.

Tag names are not references, so they leave nothing in the tree; attribute values and
children do.
-/

namespace KeyIntern.Script

open Parse

/-- A JSX name: a word extended over any `-` that follows; answers the name. -/
def jsxName : Parse String := do
  if !(← atAnyWord) then giveUp
  relex Lexer.jsxNameAt
  let n := (← cur).word?.getD ""
  advance
  return n

/-- A tag name: `a`, `a-b`, `ns:a`, or `a.b.c` whose later parts hold no `-`. -/
def jsxElementName : Parse Unit := do
  discard jsxName
  if ← eat .colon then
    discard jsxName
    return
  discard <| repeatWhile (fun (u : Unit) => do
    if ← eat .dot then
      let n ← jsxName
      if n.contains '-' then giveUp
      return some u
    return none) ()

/-- Moves past a closing `>`: to JSX children when the tag stands as a child, else to the
next ordinary token. -/
def closeTag (inChild : Bool) : Parse Unit := do
  if !(← atPunct .greater) then giveUp
  if inChild then advanceJsxChild else advance

section
variable (g : Grammar)

/-- The expression of a `{ ... }` container, commas included: read with `in` allowed and
outside generators. -/
def jsxExpression : Parse Term :=
  withCtx (fun c => { c with allowIn := true, inGenerator := false, inDecorator := false,
                             noConditionalTypes := false }) g.expression

/-- One attribute: `{...e}`, or a name with an optional value (a string, a `{ ... }`
container or an element). -/
def jsxAttribute : Parse (List Term) := do
  if ← eat .lbrace then
    expect .ellipsis
    let e ← jsxExpression g
    expect .rbrace
    return [e]
  discard jsxName
  if ← eat .colon then discard jsxName
  if !(← eat .assign) then return []
  let t ← cur
  let q ← charAt t.start
  if q == some '"' || q == some '\'' then
    relex Lexer.jsxStringAt
    if (← cur).isEof then giveUp
    advance
    return []
  if t.isPunct .lbrace then
    advance
    if ← eat .rbrace then return []
    let e ← jsxExpression g
    expect .rbrace
    return [e]
  if t.isPunct .less then return [← g.jsxElement false]
  giveUp

/-- The attributes of an opening tag, up to `>` or `/`. -/
def jsxAttributes : Parse (List Term) := do
  let parts ← repeatWhile (fun (acc : List Term) => do
    let t ← cur
    if t.isPunct .less || t.isPunct .greater || t.isPunct .slash || t.isEof then return none
    return some ((← jsxAttribute g).reverse ++ acc)) []
  return parts.reverse

/-- The children of an element, up to the `<` of its closing tag. -/
def jsxChildren : Parse (List Term) := do
  let cs ← repeatWhile (fun (acc : List Term) => do
    let t ← cur
    if t.isPunct .less then
      if (← peek).isPunct .slash then return none
      return some ((← g.jsxElement true) :: acc)
    if t.isPunct .lbrace then
      advance
      if ← eat .ellipsis then
        let e ← jsxExpression g
        if !(← atPunct .rbrace) then giveUp
        advanceJsxChild
        return some (e :: acc)
      if ← atPunct .rbrace then
        advanceJsxChild
        return some acc
      let e ← jsxExpression g
      if !(← atPunct .rbrace) then giveUp
      advanceJsxChild
      return some (e :: acc)
    if t.kind == .jsxText then
      advanceJsxChild
      return some acc
    giveUp) []
  return cs.reverse

/-- A JSX element or fragment from its `<`. -/
def jsxElement (inChild : Bool) : Parse Term := do
  expect .less
  if ← atPunct .greater then
    advanceJsxChild
    let cs ← jsxChildren g
    expect .less
    expect .slash
    closeTag inChild
    return .group cs
  jsxElementName
  let targs ← do
    if (← isTs) && (← atPunct .less) then pure ((← attempt (typeArguments g)).getD [])
    else pure []
  let attrs ← jsxAttributes g
  if ← eat .slash then
    closeTag inChild
    return .group (targs ++ attrs)
  if !(← atPunct .greater) then giveUp
  advanceJsxChild
  let cs ← jsxChildren g
  expect .less
  expect .slash
  jsxElementName
  closeTag inChild
  return .group (targs ++ attrs ++ cs)

end

end KeyIntern.Script
