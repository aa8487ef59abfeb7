import KeyIntern.Artifact
import KeyIntern.Script.Lexer
import KeyIntern.Proofs.KeywordSetLaws

/-! # Reading the artifacts back

The declaration file and the runtime module are read here line by line, each line by its words,
the pieces between its spaces. A line declares a name, binds a name to a value, opens or closes
the export block, exports an internal name under a keyword, or is blank. `read` answers the lines
of a text, or none when one of them is none of these.

For a set of identifier names both artifacts read back completely (`read_renderTypes`,
`read_renderModule`): the keywords in order, each declared or bound under its internal name,
then the same export block, which exports each internal name under its keyword. An identifier
name holds no space, no quote, no backslash and no control character, so no keyword splits a
word or a line, and the JSON label of a keyword is the keyword between quotes, which the script
lexer reads back as one string literal denoting it (`tokenAt_label`).

Main statement: `artifacts_share_export_surface`. The two artifacts end with the same block, that
block lists the keywords in order, every binding of either artifact has a name of its own, a
label in development denotes its keyword, and the keywords are recovered from either artifact.
-/

namespace KeyIntern.Artifact

open Text

/-! ## Identifier names -/

/-- Whether a text is an identifier name: an identifier start, then identifier parts. -/
def isIdentifierName (k : String) : Bool :=
  match k.toList with
  | [] => false
  | c :: cs => isIdStart c && cs.all isIdPart

/-- A character that the artifacts write as itself and that ends no word: neither a space nor a
character that JSON escapes. -/
def isQuiet (c : Char) : Bool :=
  c != ' ' && c != '"' && c != '\\' && decide (0x20 ≤ c.toNat)

/-- Every character beyond ASCII is quiet: the characters an artifact treats apart are ASCII. -/
theorem isQuiet_of_not_ascii {c : Char} (wide : ¬ c.toNat < 0x80) : isQuiet c = true := by
  have apart : ∀ d : Char, d.toNat < 0x80 → c ≠ d := fun d small same => wide (same ▸ small)
  simp only [isQuiet, bne_iff_ne, ne_eq, Bool.and_eq_true, decide_eq_true_eq]
  exact ⟨⟨⟨apart ' ' (by decide), apart '"' (by decide)⟩, apart '\\' (by decide)⟩, by omega⟩

/-- The ASCII characters that may stand in an identifier are quiet. -/
theorem isQuiet_of_ascii : ∀ n < 0x80,
    (isIdStart (Char.ofNat n) || isIdPart (Char.ofNat n)) = true → isQuiet (Char.ofNat n) = true := by
  decide

theorem isQuiet_of_identifier {c : Char} (inName : (isIdStart c || isIdPart c) = true) :
    isQuiet c = true := by
  by_cases ascii : c.toNat < 0x80
  · have same : Char.ofNat c.toNat = c := Char.ofNat_toNat c
    rw [← same] at inName ⊢
    exact isQuiet_of_ascii c.toNat ascii inName
  · exact isQuiet_of_not_ascii ascii

/-- Every character of an identifier name is quiet. -/
theorem isQuiet_of_mem {k : String} (name : isIdentifierName k = true) {c : Char}
    (mem : c ∈ k.toList) : isQuiet c = true := by
  unfold isIdentifierName at name
  split at name
  · cases name
  · rename_i d ds chars
    rw [chars] at mem
    simp only [Bool.and_eq_true, List.all_eq_true] at name
    rcases List.mem_cons.mp mem with rfl | inRest
    · exact isQuiet_of_identifier (by simp [name.1])
    · exact isQuiet_of_identifier (by simp [name.2 c inRest])

section Quiet

variable {k : String} (name : isIdentifierName k = true)

include name in
theorem space_not_mem : ' ' ∉ k.toList := fun mem => by
  simpa [isQuiet] using isQuiet_of_mem name mem

include name in
theorem lineBreak_not_mem : '\n' ∉ k.toList := fun mem => by
  have quiet := isQuiet_of_mem name mem
  simp [isQuiet] at quiet

include name in
/-- JSON writes an identifier name between quotes and nothing else. -/
theorem quote_of_identifier : Json.quote k = String.ofList ('"' :: (k.toList ++ ['"'])) := by
  apply Json.quote_of_plain
  intro c mem
  have quiet := isQuiet_of_mem name mem
  simp only [isQuiet, bne_iff_ne, ne_eq, Bool.and_eq_true, decide_eq_true_eq] at quiet
  exact ⟨quiet.1.1.2, quiet.1.2, quiet.2⟩

end Quiet

/-! ## Lines and words -/

/-- What one line of an artifact says. -/
inductive Line where
  /-- `declare const name: unique symbol;` -/
  | declaration (name : String)
  /-- `const name = value;` -/
  | binding (name value : String)
  /-- an empty line -/
  | blank
  /-- `export {`, which opens the export block -/
  | exportOpen
  /-- `export {};`, an export block without entries -/
  | exportNone
  /-- `  internal as exported,` -/
  | entry (internal exported : String)
  /-- `};`, which closes the export block -/
  | exportClose
  deriving DecidableEq, Repr

/-- Reads a line from its words, the pieces between its spaces. -/
def Line.ofWords : List (List Char) → Option Line
  | [[]] => some .blank
  | [w] => if w = "\x7d;".toList then some .exportClose else none
  | [w₁, w₂] =>
    if w₁ = "export".toList ∧ w₂ = "\x7b".toList then some .exportOpen
    else if w₁ = "export".toList ∧ w₂ = "\x7b\x7d;".toList then some .exportNone
    else none
  | [w₁, name, w₃, value] =>
    if w₁ = "const".toList ∧ w₃ = "=".toList ∧ value.getLast? = some ';' then
      some (.binding (String.ofList name) (String.ofList value.dropLast))
    else none
  | [w₁, w₂, name, w₄, w₅] =>
    if w₁ = "declare".toList ∧ w₂ = "const".toList ∧ name.getLast? = some ':' ∧
        w₄ = "unique".toList ∧ w₅ = "symbol;".toList then
      some (.declaration (String.ofList name.dropLast))
    else if w₁ = [] ∧ w₂ = [] ∧ w₄ = "as".toList ∧ w₅.getLast? = some ',' then
      some (.entry (String.ofList name) (String.ofList w₅.dropLast))
    else none
  | _ => none

/-- The lines of a text that ends with a line break, without their breaks. -/
def lines (text : String) : Option (List (List Char)) :=
  let pieces := text.toList.splitOn '\n'
  if pieces.getLast? = some [] then some pieces.dropLast else none

/-- Reads an artifact line by line; none when a line says nothing an artifact says. -/
def read (text : String) : Option (List Line) :=
  (lines text).bind fun ls => (ls.map (·.splitOn ' ')).mapM Line.ofWords

/-- The export entries among lines: each internal name with the name it is exported as. -/
def exports (ls : List Line) : List (String × String) :=
  ls.filterMap fun
    | .entry internal exported => some (internal, exported)
    | _ => none

/-- The names that lines declare or bind. -/
def boundNames (ls : List Line) : List String :=
  ls.filterMap fun
    | .declaration name => some name
    | .binding name _ => some name
    | _ => none

/-- The names a text exports, in order: what a script can import from it. -/
def exportSurface (text : String) : Option (List String) :=
  (read text).map fun ls => (exports ls).map Prod.snd

/-- The lines of the export block of a set. -/
def blockLines (ks : KeywordSet) : List Line :=
  if ks.isEmpty then [.exportNone]
  else .exportOpen :: ks.toList.map (fun k => .entry (internalName k) k) ++ [.exportClose]

/-! ## Texts made of lines -/

/-- Lines, each followed by a line break, are the pieces between the breaks, and one empty piece
after the last. -/
theorem flatten_lines_eq_intercalate (ls : List (List Char)) :
    (ls.map (· ++ ['\n'])).flatten = ['\n'].intercalate (ls ++ [[]]) := by
  induction ls with
  | nil => rfl
  | cons l ls ih =>
    have more : ls ++ [[]] ≠ [] := by simp
    obtain ⟨first, rest, split⟩ := List.exists_cons_of_ne_nil more
    rw [List.map_cons, List.flatten_cons, ih, List.cons_append, split,
      List.intercalate_cons_cons]

theorem lines_eq {text : String} {ls : List (List Char)}
    (spelled : text.toList = (ls.map (· ++ ['\n'])).flatten) (unbroken : ∀ l ∈ ls, '\n' ∉ l) :
    lines text = some ls := by
  have pieces : text.toList.splitOn '\n' = ls ++ [[]] := by
    rw [spelled, flatten_lines_eq_intercalate]
    apply List.splitOn_intercalate
    · intro l mem
      rcases List.mem_append.mp mem with inLs | isLast
      · exact unbroken l inLs
      · simp only [List.mem_singleton] at isLast
        simp [isLast]
    · simp
  simp [lines, pieces]

/-- A line made of words without spaces splits back into those words. -/
theorem splitOn_words {ws : List (List Char)} (spaceless : ∀ w ∈ ws, ' ' ∉ w) (nonempty : ws ≠ []) :
    ([' '].intercalate ws).splitOn ' ' = ws :=
  List.splitOn_intercalate ' ' spaceless nonempty

theorem lineBreak_not_mem_words : ∀ {ws : List (List Char)}, (∀ w ∈ ws, '\n' ∉ w) →
    '\n' ∉ [' '].intercalate ws
  | [], _ => by simp
  | [w], unbroken => by
    rw [List.intercalate_singleton]
    exact unbroken w (by simp)
  | w :: w' :: ws, unbroken => by
    rw [List.intercalate_cons_cons]
    simp only [List.mem_append, List.mem_singleton, Char.reduceEq, or_false, not_or]
    exact ⟨unbroken w (by simp), lineBreak_not_mem_words fun v inRest => unbroken v (by simp [inRest])⟩

/-- A text made of lines of words, each line followed by a line break, reads as its lines read
from those words, when no word holds a space or a line break. -/
theorem read_of_words {text : String} {wss : List (List (List Char))}
    (spelled : text.toList = (wss.map fun ws => [' '].intercalate ws ++ ['\n']).flatten)
    (clean : ∀ ws ∈ wss, ws ≠ [] ∧ ∀ w ∈ ws, ' ' ∉ w ∧ '\n' ∉ w) :
    read text = wss.mapM Line.ofWords := by
  have lined : lines text = some (wss.map fun ws => [' '].intercalate ws) := by
    apply lines_eq
    · rw [spelled, List.map_map]
      rfl
    · intro l mem
      obtain ⟨ws, inWss, rfl⟩ := List.mem_map.mp mem
      exact lineBreak_not_mem_words fun w inWs => ((clean ws inWss).2 w inWs).2
  have words : (wss.map fun ws => [' '].intercalate ws).map (·.splitOn ' ') = wss := by
    rw [List.map_map]
    conv => rhs; rw [← List.map_id wss]
    apply List.map_congr_left
    intro ws inWss
    exact splitOn_words (fun w inWs => ((clean ws inWss).2 w inWs).1) (clean ws inWss).1
  simp only [read, lined, Option.bind_some, words]

/-! ## The lines of the artifacts -/

/-- The words of the declaration of a keyword. -/
def declarationWords (k : String) : List (List Char) :=
  ["declare".toList, "const".toList, (internalName k).toList ++ [':'], "unique".toList,
    "symbol;".toList]

/-- The words of the binding of a keyword in the runtime module. -/
def bindingWords (dev : Bool) (k : String) : List (List Char) :=
  ["const".toList, (internalName k).toList, "=".toList,
    (factory ++ "(" ++ label dev k ++ ")").toList ++ [';']]

/-- The words of the binding of the symbol factory. -/
def factoryWords : List (List Char) :=
  ["const".toList, factory.toList, "=".toList, "Symbol;".toList]

/-- The words of the export entry of a keyword. -/
def entryWords (k : String) : List (List Char) :=
  [[], [], (internalName k).toList, "as".toList, k.toList ++ [',']]

/-- The lines of the export block of a set, as words. -/
def blockWords (ks : KeywordSet) : List (List (List Char)) :=
  if ks.isEmpty then [["export".toList, "\x7b\x7d;".toList]]
  else ["export".toList, "\x7b".toList] :: ks.toList.map entryWords ++ [["\x7d;".toList]]

theorem declarationLine_toList (k : String) :
    (declarationLine k).toList = [' '].intercalate (declarationWords k) ++ ['\n'] := by
  delta declarationLine
  simp only [declarationWords, String.toList_append, List.intercalate_cons_cons,
    List.intercalate_singleton, List.append_assoc]
  rfl

theorem exportLine_toList (k : String) :
    (exportLine k).toList = [' '].intercalate (entryWords k) ++ ['\n'] := by
  delta exportLine
  simp only [entryWords, String.toList_append, List.intercalate_cons_cons,
    List.intercalate_singleton, List.append_assoc]
  rfl

theorem bindingLine_toList (dev : Bool) (k : String) :
    (bindingLine dev k).toList = [' '].intercalate (bindingWords dev k) ++ ['\n'] := by
  delta bindingLine
  simp only [bindingWords, String.toList_append, List.intercalate_cons_cons,
    List.intercalate_singleton, List.append_assoc]
  rfl

theorem ofWords_declarationWords (k : String) :
    Line.ofWords (declarationWords k) = some (.declaration (internalName k)) := by
  simp [Line.ofWords, declarationWords]

theorem ofWords_entryWords (k : String) :
    Line.ofWords (entryWords k) = some (.entry (internalName k) k) := by
  simp [Line.ofWords, entryWords]

theorem ofWords_bindingWords (dev : Bool) (k : String) :
    Line.ofWords (bindingWords dev k) = some (.binding (internalName k) (factory ++ "(" ++ label dev k ++ ")")) := by
  have ends : ((factory ++ "(" ++ label dev k ++ ")").toList ++ [';']).getLast? = some ';' :=
    List.getLast?_concat
  have value : String.ofList ((factory ++ "(" ++ label dev k ++ ")").toList ++ [';']).dropLast =
      factory ++ "(" ++ label dev k ++ ")" := by
    rw [List.dropLast_concat, String.ofList_toList]
  simp only [Line.ofWords, bindingWords, ends, value, String.ofList_toList, and_self, if_true]

/-- The lines of the declaration file of a set, as words. -/
def typesWords (ks : KeywordSet) : List (List (List Char)) :=
  ks.toList.map declarationWords ++ (if ks.isEmpty then [] else [[[]]]) ++ blockWords ks

/-- The lines of the runtime module of a set, as words. -/
def moduleWords (ks : KeywordSet) (dev : Bool) : List (List (List Char)) :=
  factoryWords :: ks.toList.map (bindingWords dev) ++ [[[]]] ++ blockWords ks

theorem exportBlock_toList (ks : KeywordSet) :
    (exportBlock ks).toList = ((blockWords ks).map fun ws => [' '].intercalate ws ++ ['\n']).flatten := by
  unfold exportBlock blockWords
  cases ks.isEmpty <;>
    simp [String.toList_join, List.flatMap_def, Function.comp_def, exportLine_toList,
      List.intercalate_cons_cons]

theorem renderTypes_toList (ks : KeywordSet) :
    (renderTypes ks).toList = ((typesWords ks).map fun ws => [' '].intercalate ws ++ ['\n']).flatten := by
  unfold renderTypes typesWords
  cases ks.isEmpty <;>
    simp [String.toList_join, List.flatMap_def, Function.comp_def, declarationLine_toList,
      exportBlock_toList]

theorem renderModule_toList (ks : KeywordSet) (dev : Bool) :
    (renderModule ks dev).toList = ((moduleWords ks dev).map fun ws => [' '].intercalate ws ++ ['\n']).flatten := by
  simp [renderModule, moduleWords, factoryWords, String.toList_join, List.flatMap_def,
    Function.comp_def, bindingLine_toList, exportBlock_toList, List.intercalate_cons_cons]

/-! ## Labels as string literals -/

open Script Lexer in
/-- A string body of characters that need no escape reads as those characters, up to the closing
quote. -/
theorem stringBody_plain (src : Source) (post : List Char) :
    ∀ (pre cs : List Char) (acc : List Piece), src.toList = pre ++ cs ++ '"' :: post →
      (∀ c ∈ cs, c ≠ '"' ∧ c ≠ '\n' ∧ c ≠ '\r' ∧ c ≠ '\\') →
      stringBody src '"' pre.length acc =
        some (stringValue (acc.reverse ++ cs.map .char), pre.length + cs.length + 1)
  | pre, [], acc, spelled, _ => by
    have inside : pre.length < src.size := by
      rw [← Array.length_toList, spelled]
      simp
    have quote : src[pre.length] = '"' := by
      rw [← Array.getElem_toList]
      simp [spelled]
    rw [stringBody]
    simp [inside, quote]
  | pre, c :: cs, acc, spelled, plain => by
    obtain ⟨notQuote, notFeed, notReturn, notEscape⟩ := plain c (by simp)
    have inside : pre.length < src.size := by
      rw [← Array.length_toList, spelled]
      simp
    have here : src[pre.length] = c := by
      rw [← Array.getElem_toList]
      simp [spelled]
    have rest := stringBody_plain src post (pre ++ [c]) cs (.char c :: acc) (by simp [spelled])
      fun d member => plain d (by simp [member])
    rw [stringBody]
    simp only [inside, here, dite_true, beq_iff_eq, notQuote, if_false, notEscape]
    rw [show pre.length + 1 = (pre ++ [c]).length by simp, rest]
    simp [notFeed, notReturn]
    omega

/-! ## Reading the artifacts -/

/-! The lines without a name, with their words spelled out as `simp` leaves them. -/

theorem ofWords_blank : Line.ofWords [[]] = some .blank := rfl

theorem ofWords_exportOpen :
    Line.ofWords [['e', 'x', 'p', 'o', 'r', 't'], ['{']] = some .exportOpen := by
  decide

theorem ofWords_exportNone :
    Line.ofWords [['e', 'x', 'p', 'o', 'r', 't'], ['{', '}', ';']] = some .exportNone := by
  decide

theorem ofWords_exportClose : Line.ofWords [['}', ';']] = some .exportClose := by
  decide

theorem ofWords_factoryWords : Line.ofWords factoryWords = some (.binding factory "Symbol") := by
  decide

/-- Reading lines that each read as some line answers all of them. -/
theorem mapM_some {α β : Type} (f : α → β) (l : List α) :
    l.mapM (fun a => (some (f a) : Option β)) = some (l.map f) :=
  List.mapM_pure

section Names

variable {k : String} (name : isIdentifierName k = true)

include name in
/-- The label of a keyword is empty, or in development the keyword between quotes. -/
theorem label_toList (dev : Bool) :
    (label dev k).toList = if dev then '"' :: (k.toList ++ ['"']) else [] := by
  cases dev
  · simp [label]
  · simp [label, quote_of_identifier name]

include name in
theorem declarationWords_clean : ∀ w ∈ declarationWords k, ' ' ∉ w ∧ '\n' ∉ w := by
  simp [declarationWords, internalName, space_not_mem name, lineBreak_not_mem name]

include name in
theorem entryWords_clean : ∀ w ∈ entryWords k, ' ' ∉ w ∧ '\n' ∉ w := by
  simp [entryWords, internalName, space_not_mem name, lineBreak_not_mem name]

include name in
theorem bindingWords_clean (dev : Bool) : ∀ w ∈ bindingWords dev k, ' ' ∉ w ∧ '\n' ∉ w := by
  cases dev <;>
    simp [bindingWords, internalName, factory, label_toList name, space_not_mem name,
      lineBreak_not_mem name]

end Names

section Sets

variable {ks : KeywordSet} (names : ∀ k ∈ ks, isIdentifierName k = true)

include names in
theorem blockWords_clean : ∀ ws ∈ blockWords ks, ws ≠ [] ∧ ∀ w ∈ ws, ' ' ∉ w ∧ '\n' ∉ w := by
  unfold blockWords
  cases ks.isEmpty
  · simp only [Bool.false_eq_true, if_false, List.mem_append, List.mem_cons, List.mem_map,
      List.not_mem_nil, or_false]
    rintro ws ((rfl | ⟨k, member, rfl⟩) | rfl)
    · simp
    · exact ⟨by simp [entryWords], entryWords_clean (names k member)⟩
    · simp
  · simp

include names in
theorem read_renderTypes :
    read (renderTypes ks) = some (ks.toList.map (fun k => .declaration (internalName k)) ++
      (if ks.isEmpty then [] else [.blank]) ++ blockLines ks) := by
  have clean : ∀ ws ∈ typesWords ks, ws ≠ [] ∧ ∀ w ∈ ws, ' ' ∉ w ∧ '\n' ∉ w := by
    intro ws member
    simp only [typesWords, List.mem_append, List.mem_map] at member
    rcases member with (⟨k, inKs, rfl⟩ | blank) | inBlock
    · exact ⟨by simp [declarationWords], declarationWords_clean (names k inKs)⟩
    · split at blank <;> simp_all
    · exact blockWords_clean names ws inBlock
  rw [read_of_words (renderTypes_toList ks) clean]
  unfold typesWords blockWords blockLines
  cases ks.isEmpty <;>
    simp [Function.comp_def, ofWords_declarationWords, ofWords_entryWords, mapM_some,
      ofWords_blank, ofWords_exportOpen, ofWords_exportNone, ofWords_exportClose]

include names in
theorem read_renderModule (dev : Bool) :
    read (renderModule ks dev) = some (.binding factory "Symbol" ::
      ks.toList.map (fun k => .binding (internalName k) (factory ++ "(" ++ label dev k ++ ")")) ++
      .blank :: blockLines ks) := by
  have clean : ∀ ws ∈ moduleWords ks dev, ws ≠ [] ∧ ∀ w ∈ ws, ' ' ∉ w ∧ '\n' ∉ w := by
    intro ws member
    simp only [moduleWords, List.mem_append, List.mem_cons, List.mem_map, List.not_mem_nil,
      or_false] at member
    rcases member with ((rfl | ⟨k, inKs, rfl⟩) | rfl) | inBlock
    · exact ⟨by decide, by decide⟩
    · exact ⟨by simp [bindingWords], bindingWords_clean (names k inKs) dev⟩
    · simp
    · exact blockWords_clean names ws inBlock
  rw [read_of_words (renderModule_toList ks dev) clean]
  unfold moduleWords blockWords blockLines
  cases ks.isEmpty <;>
    simp [Function.comp_def, ofWords_factoryWords, ofWords_bindingWords, ofWords_entryWords,
      mapM_some, ofWords_blank, ofWords_exportOpen, ofWords_exportNone, ofWords_exportClose]

end Sets

open Script Lexer in
/-- The lexer reads the development label of an identifier name as one string literal, which
denotes the name and spans the whole label. -/
theorem tokenAt_label {k : String} (name : isIdentifierName k = true) :
    tokenAt (label true k).toList.toArray 0 = (.string k, (label true k).length) := by
  have quoted := label_toList name true
  simp only [if_true] at quoted
  have plain : ∀ c ∈ k.toList, c ≠ '"' ∧ c ≠ '\n' ∧ c ≠ '\r' ∧ c ≠ '\\' := by
    intro c member
    have quiet := isQuiet_of_mem name member
    simp only [isQuiet, bne_iff_ne, ne_eq, Bool.and_eq_true, decide_eq_true_eq] at quiet
    refine ⟨quiet.1.1.2, ?_, ?_, quiet.1.2⟩ <;> rintro rfl <;> simp at quiet
  have body := stringBody_plain (label true k).toList.toArray [] ['"'] k.toList []
    (by simp [quoted]) plain
  rw [quoted] at body
  simp only [List.length_singleton, List.reverse_nil, List.nil_append, stringValue_chars,
    String.ofList_toList] at body
  have start : isIdStart '"' = false := by decide
  have digit : isDigit '"' = false := by decide
  rw [tokenAt]
  simp only [quoted, List.getElem?_toArray, List.getElem?_cons_zero, start, digit, body]
  simp [← String.length_toList, quoted]
  omega


/-! ## The export surface -/

/-- The export block exports each keyword of the set, in order, under its internal name. -/
theorem exports_blockLines (ks : KeywordSet) :
    exports (blockLines ks) = ks.toList.map fun k => (internalName k, k) := by
  unfold blockLines
  cases empty : ks.isEmpty
  · simp [exports, List.filterMap_append]
  · have none : ks.toList = [] := List.isEmpty_iff.mp empty
    simp [exports, none]

@[simp] theorem exports_cons_blank (ls : List Line) : exports (.blank :: ls) = exports ls := rfl

@[simp] theorem exports_cons_binding (name value : String) (ls : List Line) :
    exports (.binding name value :: ls) = exports ls := rfl

@[simp] theorem boundNames_cons_blank (ls : List Line) : boundNames (.blank :: ls) = boundNames ls :=
  rfl

@[simp] theorem boundNames_cons_binding (name value : String) (ls : List Line) :
    boundNames (.binding name value :: ls) = name :: boundNames ls := rfl

theorem exports_append (a b : List Line) : exports (a ++ b) = exports a ++ exports b :=
  List.filterMap_append

theorem boundNames_append (a b : List Line) : boundNames (a ++ b) = boundNames a ++ boundNames b :=
  List.filterMap_append

theorem exports_declarations (names : List String) :
    exports (names.map fun k => .declaration (internalName k)) = [] := by
  simp [exports]

theorem exports_bindings (dev : Bool) (names : List String) :
    exports (names.map fun k => .binding (internalName k) (factory ++ "(" ++ label dev k ++ ")")) = [] := by
  simp [exports]

theorem boundNames_declarations (names : List String) :
    boundNames (names.map fun k => .declaration (internalName k)) = names.map internalName := by
  simp [boundNames]

theorem boundNames_bindings (dev : Bool) (names : List String) :
    boundNames (names.map fun k => .binding (internalName k) (factory ++ "(" ++ label dev k ++ ")")) =
      names.map internalName := by
  simp [boundNames]

theorem boundNames_blockLines (ks : KeywordSet) : boundNames (blockLines ks) = [] := by
  unfold blockLines
  cases ks.isEmpty <;> simp [boundNames]

/-- The internal names of a set are distinct, and none is the symbol factory: an internal name
starts with an underscore and the factory does not. -/
theorem nodup_factory_internalNames (ks : KeywordSet) :
    (factory :: ks.toList.map internalName).Nodup := by
  have distinct : ks.toList.Nodup := ks.sorted.imp ne_of_lt
  refine List.nodup_cons.mpr ⟨?_, distinct.map fun a b same => ?_⟩
  · simp only [List.mem_map, not_exists, not_and]
    intro k _ named
    have firsts := congrArg (·.toList.head?) named
    simp [internalName, factory] at firsts
  · exact (String.append_right_inj "_").mp same

/-- The declaration file and the runtime module of a set of identifier names share their export
surface. Both end with the export block of the set and read back line by line. The block exports
each keyword, in the set's order, under its internal name. No name is declared or bound twice in
either artifact, and the symbol factory is none of the internal names. In development the symbol
of each keyword is labelled by a string literal that denotes the keyword, and otherwise by
nothing. Either artifact gives the keywords back. -/
theorem artifacts_share_export_surface (ks : KeywordSet) (names : ∀ k ∈ ks, isIdentifierName k = true)
    (dev : Bool) :
    (∃ typesHead moduleHead, renderTypes ks = typesHead ++ exportBlock ks ∧
        renderModule ks dev = moduleHead ++ exportBlock ks) ∧
      read (renderTypes ks) = some (ks.toList.map (fun k => .declaration (internalName k)) ++
        (if ks.isEmpty then [] else [.blank]) ++ blockLines ks) ∧
      read (renderModule ks dev) = some (.binding factory "Symbol" ::
        ks.toList.map (fun k => .binding (internalName k) (factory ++ "(" ++ label dev k ++ ")")) ++
        .blank :: blockLines ks) ∧
      exports (blockLines ks) = ks.toList.map (fun k => (internalName k, k)) ∧
      (read (renderTypes ks)).map boundNames = some (ks.toList.map internalName) ∧
      (read (renderModule ks dev)).map boundNames = some (factory :: ks.toList.map internalName) ∧
      (factory :: ks.toList.map internalName).Nodup ∧
      (∀ k ∈ ks, (dev = true →
        Script.Lexer.tokenAt (label dev k).toList.toArray 0 = (.string k, (label dev k).length)) ∧
        (dev = false → label dev k = "")) ∧
      exportSurface (renderTypes ks) = some ks.toList ∧
      exportSurface (renderModule ks dev) = some ks.toList := by
  have types := read_renderTypes names
  have module := read_renderModule names dev
  refine ⟨⟨_, _, rfl, rfl⟩, types, module, exports_blockLines ks, ?_, ?_,
    nodup_factory_internalNames ks, ?_, ?_, ?_⟩
  · rw [types]
    cases ks.isEmpty <;>
      simp [boundNames_append, boundNames_declarations, boundNames_blockLines]
  · rw [module]
    simp [boundNames_append, boundNames_bindings, boundNames_blockLines]
  · intro k member
    constructor
    · rintro rfl
      exact tokenAt_label (names k member)
    · rintro rfl
      rfl
  · rw [exportSurface, types]
    cases ks.isEmpty <;>
      simp [exports_append, exports_declarations, exports_blockLines, Function.comp_def]
  · rw [exportSurface, module]
    simp [exports_append, exports_bindings, exports_blockLines, Function.comp_def]

/-- Keywords that start with an underscore, a reserved word, the factory's own name and a name
beyond ASCII. -/
theorem artifacts_share_export_surface_mixed_names :
    let ks := KeywordSet.ofList ["alpha", "default", "Beta", "$dollar", "class", "sym", "_x", "κόσμος"]
    (∀ k ∈ ks, isIdentifierName k = true) ∧
      (∃ typesHead moduleHead, renderTypes ks = typesHead ++ exportBlock ks ∧
          renderModule ks true = moduleHead ++ exportBlock ks) ∧
        read (renderTypes ks) = some (ks.toList.map (fun k => .declaration (internalName k)) ++
          (if ks.isEmpty then [] else [.blank]) ++ blockLines ks) ∧
        read (renderModule ks true) = some (.binding factory "Symbol" ::
          ks.toList.map (fun k => .binding (internalName k) (factory ++ "(" ++ label true k ++ ")")) ++
          .blank :: blockLines ks) ∧
        exports (blockLines ks) = ks.toList.map (fun k => (internalName k, k)) ∧
        (read (renderTypes ks)).map boundNames = some (ks.toList.map internalName) ∧
        (read (renderModule ks true)).map boundNames = some (factory :: ks.toList.map internalName) ∧
        (factory :: ks.toList.map internalName).Nodup ∧
        (∀ k ∈ ks, (true = true →
          Script.Lexer.tokenAt (label true k).toList.toArray 0 = (.string k, (label true k).length)) ∧
          (true = false → label true k = "")) ∧
        exportSurface (renderTypes ks) = some ks.toList ∧
        exportSurface (renderModule ks true) = some ks.toList := by
  intro ks
  have names : ∀ k ∈ ks.toList, isIdentifierName k = true := by decide +kernel
  exact ⟨names, artifacts_share_export_surface ks names true⟩

end KeyIntern.Artifact
