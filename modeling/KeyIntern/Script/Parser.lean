import KeyIntern.Script.Parser.Statements

/-! # Reading a script

The readers of the nesting constructs reach each other through a `Grammar`, the record of
the entry points one level of nesting down. `Grammar.deeper` builds the next level from
the one below; building a tower as tall as four levels per character of text gives every
reading all the nesting it can use, since no construct nests more than three levels without
consuming a token.

A script is a module: top-level `await` is an operator. It is read whole, or not at all.
-/

namespace KeyIntern.Script

open Parse

/-- The grammar one level of nesting above `g`. The readers are named in full: inside this
definition a bare `expression` would be the field of `g` itself. -/
def Grammar.deeper (g : Grammar) : Grammar where
  expression := KeyIntern.Script.expression g
  assignment := KeyIntern.Script.assignment g
  binary := KeyIntern.Script.binary g
  unary := KeyIntern.Script.unary g
  leftHandSide := KeyIntern.Script.leftHandSide g
  memberOnly := KeyIntern.Script.memberOnly g
  type := KeyIntern.Script.type g
  typeOperand := KeyIntern.Script.typeOperator g
  bindingTarget := KeyIntern.Script.bindingTarget g
  parameters := KeyIntern.Script.parameters g
  statement := KeyIntern.Script.statement g
  jsxElement := KeyIntern.Script.jsxElement g

/-- A tower of `n` levels above `g`. -/
def Grammar.tower : Nat → Grammar → Grammar
  | 0, g => g
  | n + 1, g => tower n g.deeper

/-- The statements of a script up to its end. -/
def statements (g : Grammar) : Parse Program := do
  let ss ← repeatWhile (fun (acc : List Term) => do
    if (← cur).isEof then return none
    return some ((← g.statement .list) :: acc)) []
  return ss.reverse

/-- The height of the tower used for a text of `n` characters. -/
def towerHeight (n : Nat) : Nat := 4 * (n + 16)

/-- Reads a script of the given dialect into its reference tree, or answers `none` when the
text is not a script of that dialect. -/
def parse (dialect : Dialect) (text : String) : Option Program :=
  let src := text.toList.toArray
  let g := Grammar.tower (towerHeight src.size) Grammar.exhausted
  let start : Cursor :=
    { src, dialect, tok := Lexer.first src, ctx := { inAsync := true }, notArrow := {} }
  match statements g start with
  | .ok p _ => some p
  | .giveUp _ => none

end KeyIntern.Script
