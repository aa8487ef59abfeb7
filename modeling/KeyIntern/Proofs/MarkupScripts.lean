import KeyIntern.Script.Markup

/-! # Script blocks cut out of markup

A markup text made of a lead and of script elements, each written `<script`, an attribute text,
`>`, a body and `</script>` and followed by the markup up to the next element, reads as the
bodies of its elements joined by line breaks. The lead and the markup after each element hold no
`<script`, and a body holds no `</script>`. An attribute text holds no `>`, does not end in `/`
(the tag would close at once) and, unless it is empty, starts with ASCII whitespace or `/` (else
the tag names another element). An `.astro` file may open with a frontmatter block between `---`
fences, which then comes first.

Every search the reader makes is for a pattern whose first character does not come back in it,
so the first occurrence is the one where the text was joined (`splitAtFirst_append`), and one round
of the reader takes in one element (`scriptBlocks_cons`).

Main statement: `scriptSource_elements`.
-/

namespace KeyIntern.Script

open KeyIntern.Text

/-- A script element as markup writes it, with the markup after it up to the next element. -/
structure ScriptElement where
  attrs : List Char
  body : List Char
  after : List Char

namespace ScriptElement

/-- The text of an element and of the markup after it. -/
def text (e : ScriptElement) : List Char :=
  "<script".toList ++ e.attrs ++ '>' :: (e.body ++ "</script>".toList ++ e.after)

/-- An element whose tag and body the reader takes as they are written. -/
structure Plain (e : ScriptElement) : Prop where
  attrsStart : e.attrs.head?.all (fun c => isAsciiSpace c || c == '/') = true
  attrsUnclosed : '>' ∉ e.attrs
  notSelfClosing : e.attrs.getLast? ≠ some '/'
  bodyUnclosed : ¬ "</script>".toList <:+: e.body
  afterPlain : ¬ "<script".toList <:+: e.after

theorem text_eq (e : ScriptElement) :
    e.text = "<script".toList ++ e.attrs ++ '>' :: (e.body ++ "</script>".toList ++ e.after) :=
  rfl

theorem text_ne_nil (e : ScriptElement) : e.text ≠ [] := by
  rw [text_eq]
  exact List.append_ne_nil_of_right_ne_nil _ (List.cons_ne_nil _ _)

end ScriptElement

/-- The markup text of a lead followed by script elements. -/
def markupText (lead : List Char) (es : List ScriptElement) : List Char :=
  lead ++ es.flatMap ScriptElement.text

theorem length_le_markupText (lead : List Char) (es : List ScriptElement) :
    es.length ≤ (markupText lead es).length := by
  induction es generalizing lead with
  | nil => simp
  | cons e es ih =>
    have grows : 1 ≤ e.text.length := List.length_pos_iff.mpr e.text_ne_nil
    have rest := ih []
    simp only [markupText, List.nil_append] at rest
    simp only [markupText, List.flatMap_cons, List.length_append, List.length_cons] at rest ⊢
    omega

/-! ## One element -/

/-- The tag name ends where the attribute text or the tag itself begins. -/
theorem attrs_tagEnd {e : ScriptElement} (plain : e.Plain) (rest : List Char) :
    ∃ c tail, e.attrs ++ '>' :: rest = c :: tail ∧ endsTagName c = true := by
  cases attrs : e.attrs with
  | nil => exact ⟨'>', rest, rfl, by decide⟩
  | cons c cs =>
    have start := plain.attrsStart
    rw [attrs] at start
    refine ⟨c, cs ++ '>' :: rest, rfl, ?_⟩
    simp only [List.head?_cons, Option.all_some, Bool.or_eq_true, beq_iff_eq] at start
    rcases start with space | slash
    · simp [endsTagName, space]
    · simp [endsTagName, slash]

theorem openChars : '<' :: "script".toList = "<script".toList := by decide

theorem closeChars : '<' :: "/script>".toList = "</script>".toList := by decide

/-- One round of the reader takes in one plain element: its body is kept, and reading goes on
after its closing tag. -/
theorem scriptBlocks_cons {e : ScriptElement} (plain : e.Plain) {lead : List Char}
    (leadPlain : ¬ "<script".toList <:+: lead) (rest : List Char) (n : Nat)
    (blocks : List (List Char)) :
    scriptBlocks (n + 1) (lead ++ e.text ++ rest) blocks =
      scriptBlocks n (e.after ++ rest) (e.body :: blocks) := by
  have openTag : splitAtFirst "<script".toList (lead ++ e.text ++ rest) =
      some (lead, e.attrs ++ '>' :: (e.body ++ "</script>".toList ++ (e.after ++ rest))) := by
    have found := @splitAtFirst_append '<' "script".toList lead
      (e.attrs ++ '>' :: (e.body ++ "</script>".toList ++ (e.after ++ rest))) (by decide)
      (by rwa [openChars])
    rw [openChars] at found
    have joined : lead ++ e.text ++ rest = lead ++ "<script".toList ++
        (e.attrs ++ '>' :: (e.body ++ "</script>".toList ++ (e.after ++ rest))) := by
      rw [ScriptElement.text_eq]
      simp only [List.append_assoc, List.cons_append]
    rw [joined]
    exact found
  have tagClose : splitAtFirst ['>'] (e.attrs ++ '>' :: (e.body ++ "</script>".toList ++ (e.after ++ rest))) =
      some (e.attrs, e.body ++ "</script>".toList ++ (e.after ++ rest)) := by
    have found := @splitAtFirst_append '>' [] e.attrs
      (e.body ++ "</script>".toList ++ (e.after ++ rest)) (by decide)
      (fun inAttrs => plain.attrsUnclosed (inAttrs.subset (List.mem_singleton_self _)))
    simpa using found
  have bodyClose : splitAtFirst "</script>".toList (e.body ++ "</script>".toList ++ (e.after ++ rest)) =
      some (e.body, e.after ++ rest) := by
    have found := @splitAtFirst_append '<' "/script>".toList e.body (e.after ++ rest) (by decide)
      (by rw [closeChars]; exact plain.bodyUnclosed)
    rwa [closeChars] at found
  have selfClosing : (e.attrs.getLast? == some '/') = false := by
    simpa using plain.notSelfClosing
  obtain ⟨c, tail, shape, tagEnd⟩ := attrs_tagEnd plain (e.body ++ "</script>".toList ++ (e.after ++ rest))
  rw [scriptBlocks, openTag]
  simp only
  rw [shape]
  simp only [tagEnd, if_true]
  rw [← shape, tagClose]
  simp only [selfClosing, Bool.false_eq_true, if_false]
  rw [bodyClose]

/-- The reader takes in every plain element of a markup text, given a round for each. -/
theorem scriptBlocks_markupText {es : List ScriptElement} (plain : ∀ e ∈ es, e.Plain) :
    ∀ {lead : List Char}, ¬ "<script".toList <:+: lead → ∀ {fuel : Nat}, es.length ≤ fuel →
      ∀ blocks, scriptBlocks fuel (markupText lead es) blocks =
        (es.map ScriptElement.body).reverse ++ blocks := by
  induction es with
  | nil =>
    intro lead leadPlain fuel _ blocks
    cases fuel with
    | zero => rfl
    | succ n =>
      -- no script tag is left: the reader stops with what it has
      rw [markupText, List.flatMap_nil, List.append_nil, scriptBlocks,
        splitAtFirst_eq_none (by decide) leadPlain]
      rfl
  | cons e es ih =>
    intro lead leadPlain fuel rounds blocks
    obtain ⟨n, rfl⟩ : ∃ n, fuel = n + 1 := ⟨fuel - 1, by simp at rounds; omega⟩
    have after := plain e List.mem_cons_self
    have restPlain := fun e' inRest => plain e' (List.mem_cons_of_mem e inRest)
    rw [markupText, List.flatMap_cons, ← List.append_assoc, scriptBlocks_cons after leadPlain]
    rw [← markupText, ih restPlain after.afterPlain (by simpa using rounds)]
    simp

/-! ## Frontmatter -/

/-- A text that does not open with `---` after its leading whitespace has no frontmatter. -/
theorem frontmatter_eq_none {text : List Char}
    (noFence : ¬ "---".toList <+: text.dropWhile isWhiteSpace) : frontmatter text = none := by
  unfold frontmatter
  split
  · rename_i body opening
    exact absurd (by rw [opening]; exact List.prefix_append _ body) noFence
  · rfl

/-- A frontmatter block runs from the opening fence to the first line that starts with `---`. -/
theorem frontmatter_fenced {w m rest : List Char} (blank : ∀ c ∈ w, isWhiteSpace c = true)
    (unfenced : ¬ "\n---".toList <:+: m) :
    frontmatter (w ++ "---".toList ++ m ++ "\n---".toList ++ rest) = some (m, rest) := by
  have opened : (w ++ "---".toList ++ m ++ "\n---".toList ++ rest).dropWhile isWhiteSpace =
      '-' :: '-' :: '-' :: (m ++ "\n---".toList ++ rest) := by
    have dashes : "---".toList = ['-', '-', '-'] := by decide
    simp only [List.append_assoc]
    rw [List.dropWhile_append_of_pos blank, dashes, List.cons_append,
      List.dropWhile_cons_of_neg (by decide)]
    simp only [List.cons_append, List.nil_append]
  have closed : splitAtFirst ['\n', '-', '-', '-'] (m ++ "\n---".toList ++ rest) = some (m, rest) := by
    have fence : "\n---".toList = ['\n', '-', '-', '-'] := by decide
    rw [fence] at unfenced ⊢
    exact splitAtFirst_append (by decide) unfenced
  simp only [frontmatter, opened, closed, Option.map_some]

/-! ## The script text of markup -/

theorem markupScripts_markupText {lead : List Char} {es : List ScriptElement}
    (leadPlain : ¬ "<script".toList <:+: lead) (plain : ∀ e ∈ es, e.Plain) (astro : Bool)
    (noFence : astro = true → ¬ "---".toList <+: (markupText lead es).dropWhile isWhiteSpace) :
    markupScripts (String.ofList (markupText lead es)) astro =
      "\n".intercalate (es.map fun e => String.ofList e.body) := by
  have allRead := scriptBlocks_markupText plain leadPlain
    (Nat.le_succ_of_le (length_le_markupText lead es)) []
  -- without a frontmatter block, all the blocks come from script elements
  cases astro with
  | false =>
    simp only [markupScripts, String.toList_ofList, Bool.false_eq_true, if_false, List.nil_append,
      allRead, List.append_nil, List.reverse_reverse, List.map_map]
    rfl
  | true =>
    simp only [markupScripts, String.toList_ofList, if_true, frontmatter_eq_none (noFence rfl),
      List.nil_append, allRead, List.append_nil, List.reverse_reverse, List.map_map]
    rfl

theorem markupScripts_frontmatter {lead : List Char} {es : List ScriptElement}
    (leadPlain : ¬ "<script".toList <:+: lead) (plain : ∀ e ∈ es, e.Plain) {w m : List Char}
    (blank : ∀ c ∈ w, isWhiteSpace c = true) (unfenced : ¬ "\n---".toList <:+: m) :
    markupScripts (String.ofList (w ++ "---".toList ++ m ++ "\n---".toList ++ markupText lead es))
        true = "\n".intercalate (String.ofList m :: es.map fun e => String.ofList e.body) := by
  have allRead := scriptBlocks_markupText plain leadPlain
    (Nat.le_succ_of_le (length_le_markupText lead es)) []
  simp only [markupScripts, String.toList_ofList, if_true, frontmatter_fenced blank unfenced,
    allRead, List.append_nil, List.reverse_reverse, List.map_map, List.singleton_append,
    List.map_cons]
  rfl

/-- The script text of a markup file made of a lead and plain script elements is the bodies of the
elements joined by line breaks, unless an `.astro` file opens with `---`; an `.astro` file that
opens with a frontmatter block has that block first. -/
theorem scriptSource_elements {path : String} (markup : isMarkup path = true) {lead : List Char}
    {es : List ScriptElement} (leadPlain : ¬ "<script".toList <:+: lead)
    (plain : ∀ e ∈ es, e.Plain) :
    ((Path.extension? path = some "astro" →
        ¬ "---".toList <+: (markupText lead es).dropWhile isWhiteSpace) →
      scriptSource path (String.ofList (markupText lead es)) =
        "\n".intercalate (es.map fun e => String.ofList e.body)) ∧
    (Path.extension? path = some "astro" → ∀ w m, (∀ c ∈ w, isWhiteSpace c = true) →
      ¬ "\n---".toList <:+: m →
      scriptSource path (String.ofList (w ++ "---".toList ++ m ++ "\n---".toList ++ markupText lead es)) =
        "\n".intercalate (String.ofList m :: es.map fun e => String.ofList e.body)) := by
  refine ⟨fun noFence => ?_, fun astro w m blank unfenced => ?_⟩
  · rw [scriptSource, if_pos markup]
    exact markupScripts_markupText leadPlain plain _ fun isAstro => noFence (by simpa using isAstro)
  · rw [scriptSource, if_pos markup, astro]
    exact markupScripts_frontmatter leadPlain plain blank unfenced

/-- An `.astro` page: a frontmatter block, then a script element with attributes and one without,
with markup around them. -/
theorem scriptSource_elements_astro_page :
    let lead := "\n<h1>{title}</h1>\n".toList
    let es : List ScriptElement :=
      [⟨" setup lang=\"ts\"".toList, "const a = 1;".toList, "\n<p>x</p>\n".toList⟩,
        ⟨[], "let b = 2;".toList, []⟩]
    isMarkup "Page.astro" = true ∧ ¬ "<script".toList <:+: lead ∧ (∀ e ∈ es, e.Plain) ∧
      scriptSource "Page.astro" (String.ofList ("\n".toList ++ "---".toList ++
          "\nimport { title } from 'virtual:keywords';".toList ++ "\n---".toList ++ markupText lead es)) =
        "\nimport { title } from 'virtual:keywords';\nconst a = 1;\nlet b = 2;" := by
  intro lead es
  have markup : isMarkup "Page.astro" = true := by decide +kernel
  have leadPlain : ¬ "<script".toList <:+: lead := fun found => absurd (occursIn_iff.mpr found) (by decide)
  have plain : ∀ e ∈ es, e.Plain := by
    intro e listed
    simp only [es, List.mem_cons, List.not_mem_nil, or_false] at listed
    rcases listed with rfl | rfl <;>
      exact ⟨by decide, by decide, by decide, fun found => absurd (occursIn_iff.mpr found) (by decide),
        fun found => absurd (occursIn_iff.mpr found) (by decide)⟩
  refine ⟨markup, leadPlain, plain, ?_⟩
  have astro : Path.extension? "Page.astro" = some "astro" := by decide +kernel
  have blank : ∀ c ∈ "\n".toList, isWhiteSpace c = true := by
    rw [show "\n".toList = ['\n'] by decide, List.forall_mem_singleton]
    simp [isWhiteSpace]
  have unfenced : ¬ "\n---".toList <:+: "\nimport { title } from 'virtual:keywords';".toList :=
    fun found => absurd (occursIn_iff.mpr found) (by decide)
  rw [(scriptSource_elements markup leadPlain plain).2 astro _ _ blank unfenced]
  decide +kernel

end KeyIntern.Script
