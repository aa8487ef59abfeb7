import KeyIntern.Proofs.PaddedSettings
import Mathlib.Tactic.SplitIfs
import Mathlib.Data.List.Forall2

/-! # Line comments in the configuration file

Comment stripping works line by line. Each line is scanned from its start outside a string: a
double quote opens or closes a string, and inside one a backslash escapes the next character.
The line is cut before the first `//` found outside a string (`CommentAt`), and kept whole when
there is none (`stripComment_stripped`). A stripped text has one piece per line of the text.

Comments cannot change the settings. Take a text whose lines are JSON as far as comments can
tell (`lexical`: no slash outside a string, no string left open at the end of a line), and
append a line comment to any of its lines or insert lines of spaces and tabs with a comment
(`Commented`). Stripping gives back the lines of the first text with blank lines among them, and
the reader cannot tell blank lines from none: both texts give the same settings, or both fail
(`ofText_commented`).
-/

namespace KeyIntern.Config

open Json Json.Reader

/-! ## Where a line comment starts -/

/-- One character of the scan of a line: whether it stands inside a string, and whether the
character before it is a backslash that escapes it. -/
def scanStep : Bool × Bool → Char → Bool × Bool
  | (inString, true), _ => (inString, false)
  | (inString, false), c =>
    if c = '\\' ∧ inString = true then (inString, true)
    else if c = '"' then (!inString, false)
    else (inString, false)

/-- A line comment starts at position `k` of a line scanned from `st`: two slashes there, outside
a string. -/
def CommentAt (st : Bool × Bool) (l : List Char) (k : Nat) : Prop :=
  l[k]? = some '/' ∧ l[k + 1]? = some '/' ∧ (l.take k).foldl scanStep st = (false, false)

/-- What stripping leaves of a line scanned from `st`: everything before its first comment, or
the whole line when it has none. -/
def Stripped (st : Bool × Bool) (l piece : List Char) : Prop :=
  (∃ k, CommentAt st l k ∧ (∀ j < k, ¬ CommentAt st l j) ∧ piece = l.take k) ∨
    ((∀ k, ¬ CommentAt st l k) ∧ piece = l)

theorem stripComment_cons (c : Char) (rest : List Char) (inString escaped : Bool) :
    stripComment (c :: rest) inString escaped =
      if (inString, escaped) = (false, false) ∧ c = '/' ∧ rest.head? = some '/' then []
      else c :: stripComment rest (scanStep (inString, escaped) c).1
        (scanStep (inString, escaped) c).2 := by
  cases escaped
  · by_cases backslash : c = '\\'
    · subst backslash
      cases inString <;> simp [stripComment, scanStep]
    · by_cases quote : c = '"'
      · subst quote
        simp [stripComment, scanStep]
      · cases inString <;> simp [stripComment, scanStep, backslash, quote]
  · simp [stripComment, scanStep]

theorem commentAt_zero {st : Bool × Bool} {c : Char} {rest : List Char} :
    CommentAt st (c :: rest) 0 ↔ st = (false, false) ∧ c = '/' ∧ rest.head? = some '/' := by
  simp only [CommentAt, List.getElem?_cons_zero, Option.some.injEq, Nat.zero_add,
    List.getElem?_cons_succ, List.take_zero, List.foldl_nil, List.head?_eq_getElem?]
  constructor
  · rintro ⟨slash, next, start⟩
    exact ⟨start, slash, next⟩
  · rintro ⟨start, slash, next⟩
    exact ⟨slash, next, start⟩

theorem commentAt_succ {st : Bool × Bool} {c : Char} {rest : List Char} {k : Nat} :
    CommentAt st (c :: rest) (k + 1) ↔ CommentAt (scanStep st c) rest k := by
  simp only [CommentAt, List.getElem?_cons_succ, List.take_succ_cons, List.foldl_cons]

/-- Stripping cuts a line before its first comment, and keeps a line without one. -/
theorem stripComment_stripped (l : List Char) (st : Bool × Bool) :
    Stripped st l (stripComment l st.1 st.2) := by
  induction l generalizing st with
  | nil =>
    refine Or.inr ⟨fun k found => ?_, by simp [stripComment]⟩
    simp [CommentAt] at found
  | cons c rest ih =>
    rw [stripComment_cons]
    by_cases start : (st.1, st.2) = (false, false) ∧ c = '/' ∧ rest.head? = some '/'
    · rw [if_pos start]
      exact Or.inl ⟨0, commentAt_zero.mpr start, fun j below => absurd below (Nat.not_lt_zero j),
        rfl⟩
    · rw [if_neg start]
      have noneFirst : ¬ CommentAt st (c :: rest) 0 := fun found => start (commentAt_zero.mp found)
      rcases ih (scanStep st c) with ⟨k, found, first, cut⟩ | ⟨none, whole⟩
      · refine Or.inl ⟨k + 1, commentAt_succ.mpr found, fun j below => ?_, by rw [cut]; rfl⟩
        cases j with
        | zero => exact noneFirst
        | succ j => exact fun earlier => first j (by omega) (commentAt_succ.mp earlier)
      · refine Or.inr ⟨fun k => ?_, by rw [whole]⟩
        cases k with
        | zero => exact noneFirst
        | succ k => exact fun found => none k (commentAt_succ.mp found)

/-! ## Lines that are JSON -/

/-- Whether a line scanned from `st` is JSON as far as line comments can tell: it holds no line
feed and no slash outside a string, and it leaves no string open. -/
def lexicalFrom : Bool × Bool → List Char → Bool
  | st, [] => st == (false, false)
  | st, c :: rest =>
    c != '\n' && (st != (false, false) || c != '/') && lexicalFrom (scanStep st c) rest

/-- Whether a line is JSON as far as line comments can tell. -/
def lexical (l : List Char) : Bool :=
  lexicalFrom (false, false) l

/-- Stripping never cuts into a line that is JSON, nor into what follows it. -/
theorem stripComment_lexical_append {st : Bool × Bool} {l : List Char}
    (json : lexicalFrom st l = true) (r : List Char) :
    stripComment (l ++ r) st.1 st.2 = l ++ stripComment r false false := by
  induction l generalizing st with
  | nil =>
    simp only [lexicalFrom, beq_iff_eq] at json
    subst json
    rfl
  | cons c rest ih =>
    simp only [lexicalFrom, Bool.and_eq_true, Bool.or_eq_true, bne_iff_ne, ne_eq] at json
    obtain ⟨⟨_, noSlash⟩, restJson⟩ := json
    rw [List.cons_append, stripComment_cons, if_neg ?_, ih restJson]
    · rfl
    · rintro ⟨start, slash, _⟩
      rcases noSlash with inside | other
      · exact inside start
      · exact other slash

theorem lineFeed_not_mem_of_lexicalFrom {st : Bool × Bool} {l : List Char}
    (json : lexicalFrom st l = true) : '\n' ∉ l := by
  induction l generalizing st with
  | nil => exact List.not_mem_nil
  | cons c rest ih =>
    simp only [lexicalFrom, Bool.and_eq_true, bne_iff_ne, ne_eq] at json
    obtain ⟨⟨notFeed, _⟩, restJson⟩ := json
    rw [List.mem_cons, not_or]
    exact ⟨fun same => notFeed same.symm, ih restJson⟩

/-- Whether a character pads a line: a space or a tab. -/
def isPad (c : Char) : Bool :=
  c == ' ' || c == '\t'

theorem lexicalFrom_pads {l : List Char} (pads : ∀ c ∈ l, isPad c = true) :
    lexicalFrom (false, false) l = true := by
  induction l with
  | nil => rfl
  | cons c rest ih =>
    have pad := pads c List.mem_cons_self
    simp only [isPad, Bool.or_eq_true, beq_iff_eq] at pad
    have next : scanStep (false, false) c = (false, false) := by
      rcases pad with rfl | rfl <;> rfl
    simp only [lexicalFrom, next, ih fun d mem => pads d (List.mem_cons_of_mem c mem),
      Bool.and_true]
    rcases pad with rfl | rfl <;> rfl

/-! ## Commented texts -/

/-- How the lines of a commented text come from the lines of a JSON text: a line may get a line
comment appended, and lines of spaces and tabs with a comment may be inserted anywhere. -/
inductive Commented : List (List Char) → List (List Char) → Prop
  | nil : Commented [] []
  | keep (l : List Char) {ls ms : List (List Char)} :
      Commented ls ms → Commented (l :: ls) (l :: ms)
  | append (l comment : List Char) {ls ms : List (List Char)} :
      Commented ls ms → Commented (l :: ls) ((l ++ '/' :: '/' :: comment) :: ms)
  | insert (pad comment : List Char) (pads : ∀ c ∈ pad, isPad c = true)
      {ls ms : List (List Char)} :
      Commented ls ms → Commented ls ((pad ++ '/' :: '/' :: comment) :: ms)

/-- The lines of a text with lines of spaces and tabs inserted. -/
inductive BlankLinesAdded : List (List Char) → List (List Char) → Prop
  | nil : BlankLinesAdded [] []
  | keep (l : List Char) {ls ms : List (List Char)} :
      BlankLinesAdded ls ms → BlankLinesAdded (l :: ls) (l :: ms)
  | insert (pad : List Char) (pads : ∀ c ∈ pad, isPad c = true) {ls ms : List (List Char)} :
      BlankLinesAdded ls ms → BlankLinesAdded ls (pad :: ms)

theorem stripComment_comment (comment : List Char) :
    stripComment ('/' :: '/' :: comment) false false = [] := by
  simp [stripComment]

/-- Stripping the comments of a commented text leaves the lines of the JSON text, with the
padding of the inserted lines. -/
theorem Commented.stripped {ls ms : List (List Char)} (commented : Commented ls ms)
    (json : ∀ l ∈ ls, lexical l = true) :
    BlankLinesAdded ls (ms.map fun m => stripComment m false false) := by
  induction commented with
  | nil => exact .nil
  | keep l _ ih =>
    have whole : stripComment l false false = l := by
      simpa [stripComment] using stripComment_lexical_append (json l List.mem_cons_self) []
    rw [List.map_cons, whole]
    exact .keep l (ih fun l' mem => json l' (List.mem_cons_of_mem l mem))
  | append l comment _ ih =>
    rw [List.map_cons, stripComment_lexical_append (json l List.mem_cons_self),
      stripComment_comment, List.append_nil]
    exact .keep l (ih fun l' mem => json l' (List.mem_cons_of_mem l mem))
  | insert pad comment pads _ ih =>
    rw [List.map_cons, stripComment_lexical_append (lexicalFrom_pads pads), stripComment_comment,
      List.append_nil]
    exact .insert pad pads (ih json)

theorem BlankLinesAdded.nil_left {ms : List (List Char)} (added : BlankLinesAdded [] ms) :
    ∀ m ∈ ms, ∀ c ∈ m, isPad c = true := by
  generalize none : ([] : List (List Char)) = ls at added
  induction added with
  | nil => intro m mem; cases mem
  | keep l _ _ => cases none
  | insert pad pads _ ih =>
    intro m mem
    rcases List.mem_cons.mp mem with rfl | later
    · exact pads
    · exact ih none m later

theorem BlankLinesAdded.nil_right {ls : List (List Char)} (added : BlankLinesAdded ls []) :
    ls = [] := by
  cases added
  rfl

/-! ## From lines to bytes -/

/-- The UTF-8 bytes of a list of characters. -/
def encodeChars (l : List Char) : List UInt8 :=
  l.flatMap String.utf8EncodeChar

@[simp] theorem encodeChars_append (l l' : List Char) :
    encodeChars (l ++ l') = encodeChars l ++ encodeChars l' :=
  List.flatMap_append

@[simp] theorem encodeChars_cons (c : Char) (l : List Char) :
    encodeChars (c :: l) = String.utf8EncodeChar c ++ encodeChars l :=
  List.flatMap_cons

theorem encodeChars_lineFeed : encodeChars ['\n'] = [0x0A] := rfl

theorem rest_toUTF8 (s : String) : rest s.toUTF8 0 = encodeChars s.toList := by
  rw [rest, List.drop_zero, String.toUTF8_eq_toByteArray, ← String.utf8Encode_toList,
    List.utf8Encode, List.toList_data_toByteArray]
  rfl

/-- Only a line feed has the byte of a line feed in its UTF-8 encoding: every byte of a longer
encoding has its high bit set. -/
theorem lineFeed_not_mem_utf8EncodeChar {c : Char} (other : c ≠ '\n') :
    (0x0A : UInt8) ∉ String.utf8EncodeChar c := by
  have code : c.val.toNat ≠ 10 := fun same => other (Char.ext (UInt32.toNat_inj.mp same))
  unfold String.utf8EncodeChar
  intro mem
  dsimp only at mem
  split_ifs at mem <;> simp only [List.mem_cons, List.not_mem_nil, or_false, ← UInt8.toNat_inj,
    UInt8.toNat_ofNat', UInt8.toNat_ofNat] at mem <;> omega

theorem lineFeed_not_mem_encodeChars {l : List Char} (noFeed : '\n' ∉ l) :
    (0x0A : UInt8) ∉ encodeChars l := by
  intro mem
  obtain ⟨c, inLine, inChar⟩ := List.mem_flatMap.mp mem
  exact lineFeed_not_mem_utf8EncodeChar (fun same => noFeed (same ▸ inLine)) inChar

theorem encodeChars_pads {l : List Char} (pads : ∀ c ∈ l, isPad c = true) :
    ∀ x ∈ encodeChars l, isBlank x = true := by
  intro x mem
  obtain ⟨c, inLine, inChar⟩ := List.mem_flatMap.mp mem
  have pad := pads c inLine
  simp only [isPad, Bool.or_eq_true, beq_iff_eq] at pad
  rcases pad with rfl | rfl <;> simp_all [String.utf8EncodeChar] <;> decide

/-- The lines of blanks joined by line feeds are blanks. -/
theorem encodeChars_blankLines {ms : List (List Char)} (pads : ∀ m ∈ ms, ∀ c ∈ m, isPad c = true) :
    ∀ x ∈ encodeChars (['\n'].intercalate ms), isBlank x = true := by
  induction ms with
  | nil => intro x mem; cases mem
  | cons m ms ih =>
    have first := encodeChars_pads (pads m List.mem_cons_self)
    have others := ih fun m' mem => pads m' (List.mem_cons_of_mem m mem)
    cases ms with
    | nil => rwa [List.intercalate_singleton]
    | cons m' ms =>
      rw [List.intercalate_cons_cons, encodeChars_append, encodeChars_append]
      intro x mem
      rcases List.mem_append.mp mem with mem | mem
      · rcases List.mem_append.mp mem with mem | mem
        · exact first x mem
        · rw [encodeChars_lineFeed, List.mem_singleton] at mem
          rw [mem]
          rfl
      · exact others x mem

/-- Bytes with no line feed among them are kept byte for byte, whatever follows them. -/
theorem padded_keep {l xs ys : List UInt8} (noFeed : (0x0A : UInt8) ∉ l)
    (after : ∀ s, Padded s xs ys) (s : Bool) : Padded s (l ++ xs) (l ++ ys) := by
  induction l generalizing s with
  | nil => exact after s
  | cons x l ih =>
    have other : x ≠ 0x0A := fun same => noFeed (same ▸ List.mem_cons_self)
    refine .byte s x ?_
    rw [beq_false_of_ne other]
    exact ih (fun mem => noFeed (List.mem_cons_of_mem x mem)) false

/-- The last line is kept byte for byte, and what follows it on the second text only is allowed
after the end. -/
theorem padded_lastLine {l ys : List UInt8} (noFeed : (0x0A : UInt8) ∉ l)
    (after : ∀ s, Padded s [] ys) (s : Bool) : Padded s l (l ++ ys) := by
  have kept : Padded s (l ++ []) (l ++ ys) := padded_keep noFeed after s
  rwa [List.append_nil] at kept

/-- Joined by line feeds, the lines with blank lines inserted are the bytes of the lines, padded. -/
theorem BlankLinesAdded.padded {ls ms : List (List Char)} (added : BlankLinesAdded ls ms)
    (lines : ∀ l ∈ ls, '\n' ∉ l) :
    Padded true (encodeChars (['\n'].intercalate ls)) (encodeChars (['\n'].intercalate ms)) := by
  induction added with
  | nil => exact .nil true
  | @keep l ls ms rest ih =>
    have line := lineFeed_not_mem_encodeChars (lines l List.mem_cons_self)
    cases ls with
    | nil =>
      -- the last line of the first text: only blank lines follow on the second
      rw [List.intercalate_singleton]
      cases ms with
      | nil =>
        rw [List.intercalate_singleton]
        have kept := padded_lastLine line (fun s => .nil s) true
        rwa [List.append_nil] at kept
      | cons m ms =>
        rw [List.intercalate_cons_cons, encodeChars_append, encodeChars_append, List.append_assoc]
        exact padded_lastLine line (fun s => .tail s (encodeChars_blankLines rest.nil_left)) true
    | cons l' ls =>
      cases ms with
      | nil => cases rest.nil_right
      | cons m ms =>
        rw [List.intercalate_cons_cons, List.intercalate_cons_cons, encodeChars_append,
          encodeChars_append, encodeChars_append, encodeChars_append, List.append_assoc,
          List.append_assoc]
        -- a kept line and its line feed, then the rest from a line start
        have after := ih fun l'' mem => lines l'' (List.mem_cons_of_mem l mem)
        exact padded_keep line (fun s => .byte s 0x0A after) true
  | @insert pad pads ls ms rest ih =>
    have padding := encodeChars_pads pads
    cases ms with
    | nil =>
      cases rest.nil_right
      rw [List.intercalate_singleton]
      have inserted := Padded.run padding (.nil true)
      rwa [List.append_nil] at inserted
    | cons m ms =>
      rw [List.intercalate_cons_cons, encodeChars_append, encodeChars_append]
      refine .run ?_ (ih lines)
      intro x mem
      rcases List.mem_append.mp mem with mem | mem
      · exact padding x mem
      · rw [encodeChars_lineFeed, List.mem_singleton] at mem
        rw [mem]
        rfl

/-! ## Comments keep the settings -/

theorem stripComments_toList (text : String) :
    (stripComments text).toList =
      ['\n'].intercalate ((textLines text.toList).map fun l => stripComment l false false) := by
  rw [stripComments, String.toList_intercalate, List.map_map, show "\n".toList = ['\n'] by decide]
  congr 1
  exact List.map_congr_left fun l _ => String.toList_ofList

/-- A text whose lines are JSON and the same text with comments give the same settings, or both
fail. -/
theorem ofText_commented {t c : String} (json : ∀ l ∈ textLines t.toList, lexical l = true)
    (commented : Commented (textLines t.toList) (textLines c.toList)) :
    (ofText c).toOption = (ofText t).toOption := by
  have kept : (textLines t.toList).map (fun l => stripComment l false false) =
      textLines t.toList := by
    refine (List.map_congr_left fun l mem => ?_).trans (List.map_id _)
    simpa [stripComment] using stripComment_lexical_append (json l mem) []
  have padded : Padded true (rest (stripComments t).toUTF8 0) (rest (stripComments c).toUTF8 0) := by
    rw [rest_toUTF8, rest_toUTF8, stripComments_toList, stripComments_toList, kept]
    exact (commented.stripped json).padded fun l mem => lineFeed_not_mem_of_lexicalFrom (json l mem)
  exact (Matches.run (readDocument_padded padded)).symm

/-- Stripping comments cuts every line of a text on its own, and joins the pieces by line feeds:
one piece for each line. -/
theorem stripComments_lines (text : String) :
    ∃ pieces : List (List Char), stripComments text = "\n".intercalate (pieces.map String.ofList) ∧
      List.Forall₂ (Stripped (false, false)) (textLines text.toList) pieces := by
  refine ⟨(textLines text.toList).map fun l => stripComment l false false, ?_, ?_⟩
  · rw [stripComments, List.map_map]
    rfl
  · rw [List.forall₂_map_right_iff, List.forall₂_same]
    exact fun l _ => stripComment_stripped l (false, false)

theorem comments_keep_settings :
    (∀ text : String, ∃ pieces : List (List Char),
      stripComments text = "\n".intercalate (pieces.map String.ofList) ∧
        List.Forall₂ (Stripped (false, false)) (textLines text.toList) pieces) ∧
    (∀ t c : String, (∀ l ∈ textLines t.toList, lexical l = true) →
      Commented (textLines t.toList) (textLines c.toList) →
        (ofText c).toOption = (ofText t).toOption) :=
  ⟨stripComments_lines, fun _ _ => ofText_commented⟩

/-- Settings written as an array holding the list of names; the names hold two slashes, an
escaped quote and an escaped backslash. -/
def slashesText : String :=
  "[[\"virtual://keys\", \"a\\\"b\", \"c\\\\\"]]"

/-- The same settings after a comment line, with a comment after them. -/
def commentedSlashesText : String :=
  "// modules\n" ++ slashesText ++ "// end\n"

theorem comments_keep_settings_slashes :
    (∀ l ∈ textLines slashesText.toList, lexical l = true) ∧
    Commented (textLines slashesText.toList) (textLines commentedSlashesText.toList) ∧
    (ofText commentedSlashesText).toOption =
      some { additionalModules := ["virtual://keys", "a\"b", "c\\"] } := by
  have json : ∀ l ∈ textLines slashesText.toList, lexical l = true := by decide +kernel
  have linesT : textLines slashesText.toList = [slashesText.toList] := by decide +kernel
  have linesC : textLines commentedSlashesText.toList =
      [[] ++ '/' :: '/' :: " modules".toList, slashesText.toList ++ '/' :: '/' :: " end".toList] := by
    decide +kernel
  have commented : Commented (textLines slashesText.toList)
      (textLines commentedSlashesText.toList) := by
    rw [linesT, linesC]
    exact .insert [] _ (fun _ none => nomatch none) (.append _ _ .nil)
  refine ⟨json, commented, (comments_keep_settings.2 _ _ json commented).trans ?_⟩
  decide +kernel

end KeyIntern.Config
