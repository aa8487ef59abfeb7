/-! # Failures

A failure is a chain of messages: what was being done, outermost first, down to the cause
that stopped it. It has two renderings. On one line the messages are joined by `": "`. As a
report, the first message stands alone and the causes follow under `Caused by:`, indented,
and numbered from zero when there are several.

Main statement: `oneLine_context` says adding a context puts it in front on one line.
-/

namespace KeyIntern

/-- A chain of messages, the outermost first. -/
structure Failure where
  message : String
  causes : List String := []
  deriving DecidableEq, Repr

namespace Failure

/-- A failure with one message. -/
def ofMessage (m : String) : Failure := ⟨m, []⟩

/-- Puts a context in front of a failure. -/
def context (ctx : String) (f : Failure) : Failure :=
  ⟨ctx, f.message :: f.causes⟩

/-- The messages joined on one line. -/
def oneLine (f : Failure) : String :=
  ": ".intercalate (f.message :: f.causes)

/-- A cause under `Caused by:`: its first line after `lead`, each later line after `indent`. -/
def causeLines (lead indent : String) (c : String) : String :=
  "\n" ++ lead ++ ("\n" ++ indent).intercalate (c.splitOn "\n")

/-- The number of a cause, right-aligned in five columns. -/
def causeNumber (i : Nat) : String :=
  let digits := toString i
  String.ofList (List.replicate (5 - digits.length) ' ') ++ digits

/-- The numbered lines of several causes. -/
def numberedCauses : Nat → List String → String
  | _, [] => ""
  | i, c :: cs => causeLines (causeNumber i ++ ": ") "       " c ++ numberedCauses (i + 1) cs

/-- The report: the message, then the causes under `Caused by:`, numbered when there are
several. -/
def report (f : Failure) : String :=
  match f.causes with
  | [] => f.message
  | [c] => f.message ++ "\n\nCaused by:" ++ causeLines "    " "    " c
  | cs => f.message ++ "\n\nCaused by:" ++ numberedCauses 0 cs

theorem oneLine_context (ctx : String) (f : Failure) :
    (f.context ctx).oneLine = ctx ++ ": " ++ f.oneLine := by
  simp [context, oneLine, String.intercalate_cons_cons]

end Failure

end KeyIntern
