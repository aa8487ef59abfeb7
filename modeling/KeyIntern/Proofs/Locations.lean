import KeyIntern.Session

/-! # Canonical paths

A location's text, `/` followed by its names joined by `/`, is the one spelling that the path
functions of the library read back as that location, when every name is proper: not empty,
neither `.` nor `..`, and free of `/`. This module reads such texts through each of them: the
pieces between separators, the route a lookup follows, the components, the file name and the
ancestors, and joining names onto them.

Main statements: `Route.ofText_text` says a lookup of a location's text walks down its names from
the root, `Path.join_text` that joining a proper name onto a location's text gives the text of
the location one deeper, and `Route.ofText_join` that joining a name onto any path text adds one
step down to its route.
-/

namespace KeyIntern

open Files

/-! ## Pieces between separators -/

namespace Path

/-- The pieces of a text are its split at `/`. -/
theorem segments_eq_splitOn (xs : List Char) : segments xs = xs.splitOn '/' := by
  induction xs with
  | nil => rfl
  | cons c rest ih =>
    obtain ⟨first, more, pieces⟩ : ∃ first more, rest.splitOn '/' = first :: more :=
      List.exists_cons_of_ne_nil (List.splitOn_ne_nil '/' rest)
    rw [List.splitOn_cons_eq_if_modifyHead, segments, ih, pieces]
    by_cases slash : c = '/' <;> simp [slash]

theorem slash_not_mem_of_mem_segments {xs piece : List Char} (h : piece ∈ segments xs) :
    '/' ∉ piece := by
  induction xs generalizing piece with
  | nil => simp_all [segments]
  | cons c rest ih =>
    obtain ⟨first, more, pieces⟩ : ∃ first more, segments rest = first :: more :=
      List.exists_cons_of_ne_nil (by rw [segments_eq_splitOn]; exact List.splitOn_ne_nil '/' rest)
    simp only [segments, pieces] at h
    by_cases slash : c = '/'
    · simp only [slash, if_true, List.mem_cons] at h
      rcases h with rfl | rfl | inMore
      · simp
      · exact ih (by simp [pieces])
      · exact ih (by simp [pieces, inMore])
    · simp only [slash, if_false, List.mem_cons] at h
      rcases h with rfl | inMore
      · have firstClean := @ih first (by simp [pieces])
        simp [firstClean, Ne.symm slash]
      · exact ih (by simp [pieces, inMore])

/-- Text joined at a `/` splits into the pieces of either side. -/
theorem segments_append_slash (xs ys : List Char) :
    segments (xs ++ '/' :: ys) = segments xs ++ segments ys := by
  simp only [segments_eq_splitOn, List.splitOn_append_cons_self]

theorem endsWith_slash_iff (s : String) : s.endsWith "/" = true ↔ s.toList.getLast? = some '/' := by
  have slash : "/".toList = ['/'] := rfl
  rw [String.endsWith_eq_endsWith_toSlice, String.Slice.endsWith_string_iff, String.copy_toSlice,
    slash, List.singleton_suffix_iff_getLast?_eq_some]

end Path

/-! ## Proper names and locations -/

namespace Files

/-- A name an entry can have on a disk: not empty, neither `.` nor `..`, and without `/`. -/
structure ProperName (n : String) : Prop where
  nonempty : n.toList ≠ []
  not_current : n.toList ≠ ['.']
  not_parent : n.toList ≠ ['.', '.']
  no_slash : '/' ∉ n.toList

instance (n : String) : Decidable (ProperName n) :=
  decidable_of_iff (n.toList ≠ [] ∧ n.toList ≠ ['.'] ∧ n.toList ≠ ['.', '.'] ∧ '/' ∉ n.toList)
    ⟨fun ⟨a, b, c, d⟩ => ⟨a, b, c, d⟩, fun ⟨a, b, c, d⟩ => ⟨a, b, c, d⟩⟩

/-- A location whose names are all proper, as the location of an entry on a disk is. -/
def Location.Proper (l : Location) : Prop :=
  ∀ n ∈ l, ProperName n

instance : DecidablePred Location.Proper :=
  fun l => inferInstanceAs (Decidable (∀ n ∈ l, ProperName n))

namespace Location

variable {l m : Location} {n : String}

theorem Proper.append (hl : l.Proper) (hm : m.Proper) : (l ++ m).Proper := by
  intro x hx
  rcases List.mem_append.mp hx with inL | inM
  · exact hl x inL
  · exact hm x inM

theorem Proper.of_append_left (h : (l ++ m).Proper) : l.Proper :=
  fun x hx => h x (List.mem_append_left m hx)

theorem Proper.take (h : l.Proper) (k : Nat) : Location.Proper (l.take k) :=
  fun x hx => h x (List.mem_of_mem_take hx)

theorem Proper.dropLast (h : l.Proper) : Location.Proper l.dropLast :=
  fun x hx => h x (List.dropLast_subset l hx)

theorem Proper.singleton (h : ProperName n) : Location.Proper [n] := by
  simpa [Location.Proper] using h

@[simp] theorem text_nil : Location.text [] = "/" := rfl

theorem toList_text (l : Location) :
    l.text.toList = '/' :: ['/'].intercalate (l.map String.toList) := by
  simp [text]

/-- The text of a location begins at the root. -/
theorem isAbsolute_text (l : Location) : Path.isAbsolute l.text = true := by
  simp [Path.isAbsolute, toList_text]

/-- The text one level deeper: a `/` and the name, after the text of a location that is not the
root. -/
theorem text_append_singleton (l : Location) (n : String) :
    (l ++ [n]).text = if l = [] then "/" ++ n else l.text ++ "/" ++ n := by
  by_cases root : l = []
  · simp [root, text]
  · simp [text, root, String.intercalate_append_of_ne_nil root, String.append_assoc]

/-- The pieces of a location's text: an empty one before the leading `/`, then the names. -/
theorem segments_text (proper : l.Proper) (nonempty : l ≠ []) :
    Path.segments l.text.toList = [] :: l.map String.toList := by
  have noSlash : ∀ piece ∈ l.map String.toList, '/' ∉ piece := by
    simp only [List.mem_map]
    rintro _ ⟨x, hx, rfl⟩
    exact (proper x hx).no_slash
  rw [Path.segments_eq_splitOn, toList_text, ← List.nil_append ('/' :: _),
    List.splitOn_append_cons_self, List.splitOn_intercalate '/' noSlash (by simpa using nonempty)]
  rfl

/-- The text of a location that is not the root does not end in `/`. -/
theorem getLast?_toList_text (proper : l.Proper) (nonempty : l ≠ []) :
    l.text.toList.getLast? ≠ some '/' := by
  obtain ⟨init, last, rfl⟩ := List.eq_nil_or_concat l |>.resolve_left nonempty
  have lastName : ProperName last := proper last (by simp)
  obtain ⟨c, cs, chars⟩ := List.exists_cons_of_ne_nil lastName.nonempty
  have lastChar : last.toList.getLast? ≠ some '/' := by
    intro isSlash
    exact lastName.no_slash (List.mem_of_getLast? isSlash)
  rw [List.concat_eq_append, text_append_singleton]
  split <;> simpa [List.getLast?_append, chars] using lastChar

theorem endsWith_slash_text (proper : l.Proper) : l.text.endsWith "/" = l.isEmpty := by
  rw [Bool.eq_iff_iff, Path.endsWith_slash_iff]
  by_cases root : l = []
  · subst root
    decide
  · simp only [List.isEmpty_iff, root, iff_false]
    exact getLast?_toList_text proper root

end Location

end Files

/-! ## Routes of location texts -/

namespace Files

variable {l : Location} {n : String}

theorem Step.ofPiece_name (proper : ProperName n) : Step.ofPiece n.toList = some (.down n) := by
  simp [Step.ofPiece, proper.nonempty, proper.not_current, proper.not_parent]

theorem Step.ofPiece_nil : Step.ofPiece [] = none := rfl

theorem filterMap_ofPiece_names (proper : l.Proper) :
    (l.map String.toList).filterMap Step.ofPiece = l.map .down := by
  induction l with
  | nil => rfl
  | cons x rest ih =>
    have xProper : ProperName x := proper x (by simp)
    have restProper : Location.Proper rest := fun y hy => proper y (by simp [hy])
    simp [Step.ofPiece_name xProper, ih restProper]

/-- A lookup of a location's text starts at the root and walks down its names; it asks for a
directory only when the location is the root. -/
theorem Route.ofText_text (proper : l.Proper) :
    Route.ofText l.text = ⟨true, l.map .down, l.isEmpty⟩ := by
  have steps : (Path.segments l.text.toList).filterMap Step.ofPiece = l.map .down := by
    by_cases root : l = []
    · subst root
      rfl
    · rw [Location.segments_text proper root, List.filterMap_cons, Step.ofPiece_nil,
        filterMap_ofPiece_names proper]
  simp only [Route.ofText, steps, Location.endsWith_slash_text proper, Route.mk.injEq, and_true]
  simp [Path.isAbsolute, Location.toList_text]

/-- Proper locations are told apart by their texts. -/
theorem Location.text_inj {m : Location} (properL : l.Proper) (properM : m.Proper)
    (same : l.text = m.text) : l = m := by
  have routes := congrArg Route.ofText same
  rw [Route.ofText_text properL, Route.ofText_text properM] at routes
  simp only [Route.mk.injEq, true_and] at routes
  exact (List.map_inj_right fun _ _ down => Step.down.inj down).mp routes.1

/-! ## Joining names -/

namespace ProperName

variable {n : String}

theorem getLast?_ne_slash (proper : ProperName n) : n.toList.getLast? ≠ some '/' :=
  fun isSlash => proper.no_slash (List.mem_of_getLast? isSlash)

theorem head?_ne_slash (proper : ProperName n) : n.toList.head? ≠ some '/' :=
  fun isSlash => proper.no_slash (List.mem_of_head? isSlash)

/-- A text that ends in a proper name does not end in `/`. -/
theorem endsWith_slash_append (proper : ProperName n) (s : String) :
    (s ++ n).endsWith "/" = false := by
  rw [Bool.eq_false_iff, ne_eq, Path.endsWith_slash_iff, String.toList_append,
    List.getLast?_append]
  obtain ⟨c, cs, chars⟩ := List.exists_cons_of_ne_nil proper.nonempty
  have lastChar := proper.getLast?_ne_slash
  rw [chars] at lastChar ⊢
  simpa using lastChar

theorem isAbsolute_eq_false (proper : ProperName n) : Path.isAbsolute n = false := by
  simpa [Path.isAbsolute] using proper.head?_ne_slash

end ProperName

theorem Location.toList_text_ne_nil (l : Location) : l.text.toList ≠ [] := by
  simp [Location.toList_text]

theorem Location.isEmpty_text (l : Location) : l.text.isEmpty = false := by
  simpa [String.isEmpty_iff, ← String.toList_eq_nil_iff] using l.toList_text_ne_nil

end Files

namespace Path

variable {l m ns : Location} {n : String}

/-- Names separated by `/` form a relative path. -/
theorem isAbsolute_intercalate (proper : ns.Proper) (nonempty : ns ≠ []) :
    Path.isAbsolute ("/".intercalate ns) = false := by
  obtain ⟨x, rest, rfl⟩ := List.exists_cons_of_ne_nil nonempty
  have first : ProperName x := proper x (by simp)
  obtain ⟨c, cs, chars⟩ := List.exists_cons_of_ne_nil first.nonempty
  have notSlash := first.head?_ne_slash
  rw [chars] at notSlash
  simp only [Path.isAbsolute, String.toList_intercalate, List.map_cons, chars,
    List.intercalate_cons_cons_left]
  simpa using notSlash

/-- Joining names, separated by `/`, onto a location's text gives the text of the location below
it. -/
theorem join_text_intercalate (proper : m.Proper) (names : ns.Proper) (nonempty : ns ≠ []) :
    Path.join m.text ("/".intercalate ns) = (m ++ ns).text := by
  simp only [Path.join, isAbsolute_intercalate names nonempty, Location.isEmpty_text,
    Location.endsWith_slash_text proper, Bool.false_or, Bool.false_eq_true, if_false]
  by_cases root : m = []
  · subst root
    simp [Location.text]
  · simp [root, Location.text, String.intercalate_append_of_ne_nil root nonempty,
      String.append_assoc]

theorem join_text (proper : m.Proper) (name : ProperName n) :
    Path.join m.text n = (m ++ [n]).text := by
  simpa using join_text_intercalate proper (Location.Proper.singleton name) (by simp)

/-! ## Components, file names and ancestors -/

theorem segmentComponents_names (proper : l.Proper) :
    Path.segmentComponents (l.map String.toList) = l.map .normal := by
  induction l with
  | nil => rfl
  | cons x rest ih =>
    have first : ProperName x := proper x (by simp)
    have restProper : Location.Proper rest := fun y hy => proper y (by simp [hy])
    have restNames := ih restProper
    simp only [Path.segmentComponents] at restNames ⊢
    rw [List.map_cons, List.filterMap_cons, restNames]
    simp [first.nonempty, first.not_current, first.not_parent]

/-- The components of a location's text: the root, then its names. -/
theorem components_text (proper : l.Proper) :
    Path.components l.text = .root :: l.map .normal := by
  have absolute : Path.isAbsolute l.text = true := by
    simp [Path.isAbsolute, Location.toList_text]
  by_cases root : l = []
  · subst root
    rfl
  · have pieces := Location.segments_text proper root
    simp only [Path.components, absolute, if_true, pieces]
    simpa [Path.segmentComponents] using segmentComponents_names proper

theorem ofComponents_names (l : Location) :
    Path.ofComponents (.root :: l.map .normal) = l.text := by
  simp [Path.ofComponents, Location.text, Function.comp_def, Path.ofComponents.componentText]

theorem fileName?_text (proper : l.Proper) : Path.fileName? l.text = l.getLast? := by
  rw [Path.fileName?, Path.components_text proper]
  rcases List.eq_nil_or_concat l with rfl | ⟨init, last, rfl⟩
  · rfl
  · simp [List.getLast?_cons, List.getLast?_append]

end Path

/-- The ancestors of a location's text are the texts of the locations above it. -/
theorem mem_ancestors_text {l : Location} {a : String} (proper : l.Proper) (h : a ∈ ancestors l.text) :
    ∃ k < l.length, a = Location.text (l.take k) := by
  simp only [ancestors, Path.components_text proper, List.mem_filter, List.mem_map,
    List.mem_reverse, List.mem_range, List.length_cons, List.length_map] at h
  obtain ⟨⟨j, below, rfl⟩, notEmpty⟩ := h
  cases j with
  | zero => simp [Path.ofComponents] at notEmpty
  | succ k =>
    refine ⟨k, by omega, ?_⟩
    rw [List.take_succ_cons, ← List.map_take, Path.ofComponents_names]

/-! ## Routes of joined texts -/

namespace Files

variable {n : String}

/-- Joining a proper name onto any path text adds one step down to its route, which then asks
for no directory. -/
theorem Route.ofText_join {p : String} (nonempty : p ≠ "") (name : ProperName n) :
    Route.ofText (Path.join p n) =
      ⟨(Route.ofText p).absolute, (Route.ofText p).steps ++ [.down n], false⟩ := by
  have notEmpty : p.isEmpty = false := by simpa [String.isEmpty_iff] using nonempty
  obtain ⟨c, cs, chars⟩ := List.exists_cons_of_ne_nil (show p.toList ≠ [] by simpa using nonempty)
  have nameStep : (Path.segments n.toList).filterMap Step.ofPiece = [.down n] := by
    rw [Path.segments_eq_splitOn, List.splitOn_eq_singleton name.no_slash]
    simp [Step.ofPiece_name name]
  simp only [Route.ofText, Path.join, name.isAbsolute_eq_false, notEmpty, Bool.false_or,
    Bool.false_eq_true, if_false]
  split
  · -- `p` ends in `/`: the name fills the empty piece after it
    rename_i endsSlash
    obtain ⟨init, split⟩ := List.getLast?_eq_some_iff.mp ((Path.endsWith_slash_iff p).mp endsSlash)
    have pieces : Path.segments p.toList = Path.segments init ++ [[]] := by
      rw [split, Path.segments_append_slash]
      rfl
    have joined : Path.segments (p ++ n).toList = Path.segments init ++ Path.segments n.toList := by
      rw [String.toList_append, split, List.append_assoc, List.singleton_append,
        Path.segments_append_slash]
    rw [joined, pieces, List.filterMap_append, List.filterMap_append, nameStep]
    simp [name.endsWith_slash_append, Path.isAbsolute, chars, Step.ofPiece_nil]
  · have joined : Path.segments (p ++ "/" ++ n).toList = Path.segments p.toList ++ Path.segments n.toList := by
      rw [String.toList_append, String.toList_append, List.append_assoc]
      exact Path.segments_append_slash p.toList n.toList
    rw [joined, List.filterMap_append, nameStep]
    simp [name.endsWith_slash_append, Path.isAbsolute, chars]

/-- A text joined with a proper name is not empty. -/
theorem Path.join_ne_empty (p : String) (name : ProperName n) : Path.join p n ≠ "" := by
  have nonempty : n ≠ "" := fun empty => name.nonempty (by simp [empty])
  unfold Path.join
  split
  · exact nonempty
  · split
    · simp [nonempty]
    · simp

/-- Every step down a route takes takes a proper name. -/
theorem properName_of_down_mem {p : String} (h : Step.down n ∈ (Route.ofText p).steps) :
    ProperName n := by
  simp only [Route.ofText, List.mem_filterMap] at h
  obtain ⟨piece, inPieces, made⟩ := h
  unfold Step.ofPiece at made
  split at made
  · cases made
  · split at made
    · cases made
    · split at made
      · cases made
      · rename_i empty current parent
        cases made
        exact ⟨by simpa using empty, by simpa using current, by simpa using parent,
          by simpa using Path.slash_not_mem_of_mem_segments inPieces⟩

end Files

end KeyIntern
