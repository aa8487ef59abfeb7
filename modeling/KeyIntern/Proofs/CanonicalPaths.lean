import KeyIntern.Proofs.TreeLookup

/-! # Canonical paths in a tree without links

Cleaning a path is lexical: empty pieces and `.` go, `..` drops the name before it and stays at
`/`. Making a path canonical walks the tree, and a link sends the walk where the link leads. In a
tree without links the walk of an absolute path goes down and up exactly as cleaning does, so
the two agree wherever the path exists: an ignored directory compares the same whether it is made
canonical or cleaned.

Both are read off one stack of names, the last name on top (`pushPiece`): cleaning pushes the
components of the pieces (`foldl_cleanStep_pieces`), the walk takes their steps
(`follow_pieces_eq_ok`).

Main statements: `canonicalize_eq_ok_clean` and `Exclusion.resolveIgnoredDirsIn_eq`.
-/

namespace KeyIntern

open Files

namespace Exclusion

/-! ## Cleaning follows the stack -/

/-- Pushes one piece of a path's text on a stack of names, the last name on top: an empty piece
and `.` change nothing, `..` pops a name and stays at the root when there is none. -/
def pushPiece (stack : List String) (piece : List Char) : List String :=
  if piece = [] ∨ piece = ['.'] then stack
  else if piece = ['.', '.'] then stack.tail
  else String.ofList piece :: stack

/-- The component stack of cleaning that holds the root and then `stack`'s names. -/
def stackComponents (stack : List String) : List Path.Component :=
  stack.map .normal ++ [.root]

/-- Cleaning does to the component stack what pushing does to the stack of names, piece by piece:
the components of a piece are dropped for an empty piece and `.`, a parent for `..`, which the
root below every name stops, and a name otherwise. -/
theorem foldl_cleanStep_pieces (stack : List String) (pieces : List (List Char)) :
    (Path.segmentComponents pieces).foldl Path.cleanStep (stackComponents stack) =
      stackComponents (pieces.foldl pushPiece stack) := by
  induction pieces generalizing stack with
  | nil => rfl
  | cons piece rest ih =>
    simp only [Path.segmentComponents, List.filterMap_cons, List.foldl_cons] at ih ⊢
    by_cases skipped : piece = [] ∨ piece = ['.']
    · have skip : (piece = [] || piece = ['.']) = true := by simpa using skipped
      simp only [skip, if_true]
      rw [ih, pushPiece, if_pos skipped]
    · have keep : (piece = [] || piece = ['.']) = false := by simpa using skipped
      simp only [keep, Bool.false_eq_true, if_false]
      by_cases parent : piece = ['.', '.']
      · rw [if_pos parent, List.foldl_cons, pushPiece, if_neg skipped, if_pos parent, ← ih]
        -- `..` pops the top name, and stays on the root when the stack holds no name
        cases stack <;> rfl
      · rw [if_neg parent, List.foldl_cons, pushPiece, if_neg skipped, if_neg parent, ← ih]
        rfl

/-- Cleaning an absolute path pushes its pieces on a stack that starts at `/`. -/
theorem clean_of_isAbsolute {p : String} (absolute : Path.isAbsolute p = true) :
    Path.clean p = Location.text ((Path.segments p.toList).foldl pushPiece []).reverse := by
  have started : Path.cleanStep [] .root = stackComponents [] := rfl
  have cleaned := foldl_cleanStep_pieces [] (Path.segments p.toList)
  have rooted : Path.components p = .root :: Path.segmentComponents (Path.segments p.toList) := by
    simp [Path.components, absolute]
  rw [Path.clean, rooted, List.foldl_cons, started, cleaned, stackComponents, List.reverse_append]
  simp only [List.reverse_cons, List.reverse_nil, List.nil_append, List.singleton_append,
    ← List.map_reverse]
  exact Path.ofComponents_names _

/-- A path joined onto an absolute one is absolute. -/
theorem isAbsolute_join {root : String} (absolute : Path.isAbsolute root = true) (d : String) :
    Path.isAbsolute (Path.join root d) = true := by
  have rooted : root.toList.head? = some '/' := by simpa [Path.isAbsolute] using absolute
  unfold Path.join
  split
  · assumption
  · -- the joined text begins with the root's first character
    obtain ⟨rest, chars⟩ := List.head?_eq_some_iff.mp rooted
    split <;> simp [Path.isAbsolute, chars]

end Exclusion

/-! ## The walk follows the stack -/

namespace Files.FileTree

variable {t : FileTree}

/-- In a tree without links, a walk of the steps of some pieces from `cur` ends where pushing the
pieces on the names of `cur` does. -/
theorem follow_pieces_eq_ok (noLinks : t.NoLinks) {cur l : Location} {pieces : List (List Char)}
    (h : t.follow cur (pieces.filterMap Step.ofPiece) = .ok l) :
    l = (pieces.foldl Exclusion.pushPiece cur.reverse).reverse := by
  induction pieces generalizing cur with
  | nil =>
    rw [List.filterMap_nil, follow_nil, Except.ok.injEq] at h
    simp [h]
  | cons piece rest ih =>
    rw [List.foldl_cons]
    by_cases empty : piece = []
    · subst empty
      rw [List.filterMap_cons, Step.ofPiece_nil] at h
      simpa [Exclusion.pushPiece] using ih h
    by_cases dot : piece = ['.']
    · subst dot
      rw [List.filterMap_cons, show Step.ofPiece ['.'] = some .stay from rfl] at h
      obtain ⟨-, -, next⟩ := (follow_cons_eq_ok noLinks).mp h
      simpa [Exclusion.pushPiece] using ih next
    by_cases dots : piece = ['.', '.']
    · subst dots
      rw [List.filterMap_cons, show Step.ofPiece ['.', '.'] = some .up from rfl] at h
      obtain ⟨-, -, next⟩ := (follow_cons_eq_ok noLinks).mp h
      -- `..` drops the last name of `cur`, which is the top of its reversed names
      simpa [Exclusion.pushPiece, List.tail_reverse] using ih next
    · have named : Step.ofPiece piece = some (.down (String.ofList piece)) := by
        simp [Step.ofPiece, empty, dot, dots]
      rw [List.filterMap_cons, named] at h
      obtain ⟨-, -, -, next⟩ := (follow_cons_eq_ok noLinks).mp h
      simpa [Exclusion.pushPiece, empty, dot, dots] using ih next

/-- In a tree without links, an absolute path made canonical is the path cleaned. -/
theorem canonicalize_eq_ok_clean (noLinks : t.NoLinks) {p c : String}
    (absolute : Path.isAbsolute p = true) (h : t.canonicalize p = .ok c) : c = Path.clean p := by
  unfold canonicalize at h
  cases resolved : t.resolve p with
  | error e => simp [resolved, Except.map] at h
  | ok l =>
    simp only [resolved, Except.map, Except.ok.injEq] at h
    obtain ⟨-, walk, -⟩ := follow_of_resolve resolved
    rw [start_of_absolute t absolute] at walk
    rw [← h, follow_pieces_eq_ok noLinks walk, Exclusion.clean_of_isAbsolute absolute]
    rfl

end Files.FileTree

/-- In a tree without links, the ignored directories of an absolute root compare in their
cleaned form, whether they exist or not. -/
theorem Exclusion.resolveIgnoredDirsIn_eq {t : FileTree} (noLinks : t.NoLinks) {root : String}
    (absolute : Path.isAbsolute root = true) (dirs : List String) :
    Exclusion.resolveIgnoredDirsIn t root dirs = Exclusion.resolveIgnoredDirs root dirs := by
  unfold Exclusion.resolveIgnoredDirsIn Exclusion.resolveIgnoredDirs
  apply List.map_congr_left
  intro d _
  split
  · rename_i c canonical
    exact FileTree.canonicalize_eq_ok_clean noLinks (Exclusion.isAbsolute_join absolute d) canonical
  · rfl

end KeyIntern
