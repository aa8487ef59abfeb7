/-! # Quoted JSON strings

The JSON text of a string: double quotes around it, the quote and the backslash escaped,
the control characters written as short escapes where JSON has one and as `\u00xx` (lower-case
hex) otherwise, every other character written as itself. Main statement: `quote_of_plain`
says a text without special characters is only wrapped in quotes.
-/

namespace KeyIntern.Json

/-- The lower-case hexadecimal digit of a value below sixteen. -/
def hexDigit (n : Nat) : Char :=
  if n < 10 then Char.ofNat ('0'.toNat + n) else Char.ofNat ('a'.toNat + n - 10)

/-- The escape of a control character: a short form where JSON has one, else `\u00xx`. -/
def controlEscape (c : Char) : List Char :=
  if c = '\n' then ['\\', 'n']
  else if c = '\r' then ['\\', 'r']
  else if c = '\t' then ['\\', 't']
  else if c = '\x08' then ['\\', 'b']
  else if c = '\x0c' then ['\\', 'f']
  else ['\\', 'u', '0', '0', hexDigit (c.toNat / 16), hexDigit (c.toNat % 16)]

/-- The JSON text of one character inside a quoted string. -/
def escapeChar (c : Char) : List Char :=
  if c = '"' then ['\\', '"']
  else if c = '\\' then ['\\', '\\']
  else if c.toNat < 0x20 then controlEscape c
  else [c]

/-- The JSON string literal denoting `s`. -/
def quote (s : String) : String :=
  String.ofList ('"' :: (s.toList.flatMap escapeChar ++ ['"']))

/-- A character that JSON writes as itself inside a string. -/
def IsPlain (c : Char) : Prop :=
  c ≠ '"' ∧ c ≠ '\\' ∧ 0x20 ≤ c.toNat

theorem escapeChar_of_plain {c : Char} (h : IsPlain c) : escapeChar c = [c] := by
  obtain ⟨hq, hb, hc⟩ := h
  simp [escapeChar, hq, hb, show ¬ c.toNat < 0x20 by omega]

theorem flatMap_escapeChar_of_plain {cs : List Char} (h : ∀ c ∈ cs, IsPlain c) :
    cs.flatMap escapeChar = cs := by
  induction cs with
  | nil => rfl
  | cons c cs ih =>
    rw [List.flatMap_cons, escapeChar_of_plain (h c (by simp)),
      ih (fun d hd => h d (by simp [hd]))]
    rfl

theorem quote_of_plain {s : String} (h : ∀ c ∈ s.toList, IsPlain c) :
    quote s = String.ofList ('"' :: (s.toList ++ ['"'])) := by
  simp [quote, flatMap_escapeChar_of_plain h]

example : quote "a\"b\\c\nd\x01é" = "\"a\\\"b\\\\c\\nd\\u0001é\"" := by decide +kernel

end KeyIntern.Json
