/-! # The reference tree of a script

A script is read into a tree that keeps what keyword discovery looks at and the shape the
reader itself needs, and forgets the rest. Identifier references, non-computed member
accesses (`object.property`, optional or not) and qualified type names (`left.right`) keep
their parts; a top-level `import` declaration keeps its source and specifiers; every other
construct is a `node` with a `Form` that says what it is, over its parts in source order.
Declared names, labels, literals and JSX tag names leave no part.
-/

namespace KeyIntern.Script

/-- The name under which a module exports a binding: a word or a string literal. -/
inductive ExportName where
  | word (name : String)
  | string (value : String)
  deriving DecidableEq, Repr, Inhabited

/-- One binding made by an `import` declaration. -/
inductive ImportBinding where
  /-- `import D from ...` -/
  | default (localName : String)
  /-- `import * as N from ...` -/
  | namespace (localName : String)
  /-- `import { imported as local } from ...` -/
  | named (imported : ExportName) (localName : String)
  deriving DecidableEq, Repr, Inhabited

/-- An `import` declaration: its module source and its bindings. -/
structure ImportDecl where
  source : String
  bindings : List ImportBinding
  deriving DecidableEq, Repr, Inhabited

/-- What kind of construct a `node` is, as far as the reader needs to know when it turns an
expression into an assignment target. -/
inductive Form where
  /-- `( e )` -/
  | paren
  /-- `[ ... ]`, an array literal -/
  | array
  /-- an elision `,` in an array literal -/
  | hole
  /-- `...e` -/
  | spread
  /-- `{ ... }`, an object literal -/
  | object
  /-- `key: value` in an object literal; a computed key is the first part -/
  | property (computedKey : Bool)
  /-- `name` or `name = init` in an object literal -/
  | shorthand (name : String)
  /-- a method, getter or setter in an object literal -/
  | method
  /-- `target = value` -/
  | assign
  /-- `target op= value` -/
  | compoundAssign
  /-- `object[index]` -/
  | computedMember
  /-- `object.#name` -/
  | privateMember
  /-- an optional chain `a?.b...` as a whole -/
  | chain
  /-- `e as T`, `e satisfies T`, `e!`, `<T>e` -/
  | typed
  /-- `e<T>` -/
  | instantiation
  /-- a statement, declaration, type or any other expression -/
  | other
  deriving DecidableEq, Repr, Inhabited

/-- The reference tree. -/
inductive Term where
  /-- an identifier reference -/
  | name (id : String)
  /-- a non-computed member access `object.property` -/
  | member (object : Term) (property : String)
  /-- a qualified type name `left.right` -/
  | qualified (left : Term) (right : String)
  /-- an `import` declaration -/
  | importDecl (decl : ImportDecl)
  /-- any other construct, with its parts -/
  | node (form : Form) (parts : List Term)
  deriving Repr, Inhabited

namespace Term

/-- A construct with no part that matters. -/
def leaf : Term := .node .other []

/-- A construct of other form made of the given parts. -/
def group (parts : List Term) : Term := .node .other parts

end Term

/-- A script: the reference trees of its top-level statements, in order. -/
abbrev Program := List Term

end KeyIntern.Script
