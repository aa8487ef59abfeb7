/-! # Classes of words

A word of script text is an identifier unless it is one of the reserved words. `await` and
`yield` are reserved, yet they still stand as identifier references and bindings where the
grammar has no use for them as operators; the strict-mode words (`let`, `static`, `public`,
...) and the contextual keywords (`async`, `of`, `type`, ...) are identifiers.
-/

namespace KeyIntern.Script.Word

/-- The reserved words. -/
def reserved : List String :=
  ["await", "break", "case", "catch", "class", "const", "continue", "debugger", "default",
   "delete", "do", "else", "enum", "export", "extends", "false", "finally", "for", "function",
   "if", "import", "in", "instanceof", "new", "null", "return", "super", "switch", "this",
   "throw", "true", "try", "typeof", "var", "void", "while", "with", "yield"]

/-- Whether a word is reserved. -/
def isReserved (w : String) : Bool :=
  reserved.contains w

/-- Whether a word is an identifier. -/
def isIdentifier (w : String) : Bool :=
  !isReserved w

/-- Whether a word may name a variable where a value is read or a binding is made. -/
def isReference (w : String) : Bool :=
  isIdentifier w || w == "await" || w == "yield"

/-- The modifiers that may stand before a class member or a parameter in TypeScript. -/
def modifiers : List String :=
  ["public", "private", "protected", "readonly", "static", "abstract", "override", "declare",
   "async", "const", "export", "default", "in", "out", "accessor"]

/-- Whether a word is a modifier. -/
def isModifier (w : String) : Bool :=
  modifiers.contains w

/-- The words that name a keyword type when no `.` follows them. -/
def keywordTypes : List String :=
  ["any", "unknown", "string", "number", "bigint", "symbol", "boolean", "undefined", "never",
   "object", "null"]

end KeyIntern.Script.Word
