import KeyIntern.Proofs.Locations

/-! # Lookups in a file tree

What a tree holds at a location is read off `FileTree.get?`. A lookup of a path text follows the
route of the text step by step, and reading a file resolves the text first. In a tree without
links (`NoLinks`) a step down goes to the entry of that name and nowhere else, so for the
canonical text of a location these all come down to `get?` at that location: `resolve` answers
the location exactly when something is there, and reading gives the bytes of the file there. A
lookup of any text, canonical or not, only asks whether directories and entries exist along its
route, so it gives the same answer in a link-free tree that keeps every directory of the first.
A write looks its path up the same way, except that its last step down may name a missing entry:
without links it walks to a directory and names the entry in it (`followToWrite_append_down`).

Main statements: `resolve_text_eq_ok_iff`, `readBytes_text_eq_ok_iff`, `comparedPath_text` (a
changed file's canonical path is compared as it is, whatever the tree) and
`resolve_of_dirs_kept`.
-/

namespace KeyIntern

namespace Files

/-- What a location holds, without what lies below it. -/
inductive Node where
  | file (content : ByteArray)
  | dir
  | link (target : String)

/-- The node of an entry. -/
def Entry.node : Entry → Node
  | .file b => .file b
  | .dir _ => .dir
  | .link target => .link target

@[simp] theorem Entry.node_file (b : ByteArray) : (Entry.file b).node = .file b := rfl
@[simp] theorem Entry.node_dir (cs : List (String × Entry)) : (Entry.dir cs).node = .dir := rfl
@[simp] theorem Entry.node_link (target : String) : (Entry.link target).node = .link target := rfl

/-- What a tree holds at a location. -/
def FileTree.nodeAt (t : FileTree) (l : Location) : Option Node :=
  (t.get? l).map Entry.node

/-! ## Entries along a location -/

namespace Entry

@[simp] theorem get?_nil (e : Entry) : e.get? [] = some e := by
  cases e <;> rfl

@[simp] theorem get?_dir_cons (cs : List (String × Entry)) (n : String) (rest : Location) :
    (Entry.dir cs).get? (n :: rest) = (cs.lookup n).bind (·.get? rest) := by
  simp only [get?]
  cases cs.lookup n <;> rfl

@[simp] theorem get?_file_cons (b : ByteArray) (n : String) (rest : Location) :
    (Entry.file b).get? (n :: rest) = none := rfl

@[simp] theorem get?_link_cons (target n : String) (rest : Location) :
    (Entry.link target).get? (n :: rest) = none := rfl

/-- Looking up a location is looking up its first part, then the rest below it. -/
theorem get?_append (e : Entry) (a b : Location) : e.get? (a ++ b) = (e.get? a).bind (·.get? b) := by
  induction a generalizing e with
  | nil => simp
  | cons n rest ih =>
    cases e with
    | file content => simp
    | link target => simp
    | dir cs =>
      simp only [List.cons_append, get?_dir_cons, ih]
      cases cs.lookup n <;> rfl

end Entry

namespace FileTree

variable {t t' : FileTree} {l : Location}

@[simp] theorem get?_nil (t : FileTree) : t.get? [] = some (.dir t.top) := rfl

theorem get?_append (t : FileTree) (a b : Location) :
    t.get? (a ++ b) = (t.get? a).bind (·.get? b) :=
  Entry.get?_append t.root a b

/-- The entry one level below a directory is looked up among its entries. -/
theorem get?_append_singleton_of_dir {cs : List (String × Entry)} (h : t.get? l = some (.dir cs))
    (n : String) : t.get? (l ++ [n]) = cs.lookup n := by
  rw [get?_append, h]
  simp

/-- Whatever lies below a location lies in a directory there. -/
theorem get?_dir_of_get?_append {a : Location} {n : String} {rest : Location} {e : Entry}
    (h : t.get? (a ++ n :: rest) = some e) : ∃ cs, t.get? a = some (.dir cs) := by
  rw [get?_append] at h
  cases found : t.get? a with
  | none => simp [found] at h
  | some d =>
    cases d with
    | file b => simp [found] at h
    | link target => simp [found] at h
    | dir cs => exact ⟨cs, rfl⟩

theorem isSome_get?_of_append {a b : Location} (h : (t.get? (a ++ b)).isSome) :
    (t.get? a).isSome := by
  rw [get?_append] at h
  cases found : t.get? a with
  | none => simp [found] at h
  | some d => rfl

theorem nodeAt_eq_some_file {b : ByteArray} : t.nodeAt l = some (.file b) ↔ t.get? l = some (.file b) := by
  unfold nodeAt
  cases t.get? l with
  | none => simp
  | some e => cases e <;> simp [Entry.node]

theorem nodeAt_eq_some_dir : t.nodeAt l = some .dir ↔ ∃ cs, t.get? l = some (.dir cs) := by
  unfold nodeAt
  cases t.get? l with
  | none => simp
  | some e => cases e <;> simp [Entry.node]

theorem nodeAt_eq_some_link {target : String} :
    t.nodeAt l = some (.link target) ↔ t.get? l = some (.link target) := by
  unfold nodeAt
  cases t.get? l with
  | none => simp
  | some e => cases e <;> simp [Entry.node]

theorem nodeAt_eq_none : t.nodeAt l = none ↔ t.get? l = none := by
  simp [nodeAt]

/-- Whatever lies below a location lies in a directory there. -/
theorem nodeAt_dir_of_below {a : Location} {n : String} {rest : Location}
    (h : (t.nodeAt (a ++ n :: rest)).isSome) : t.nodeAt a = some .dir := by
  simp only [nodeAt, Option.isSome_map] at h
  obtain ⟨e, found⟩ := Option.isSome_iff_exists.mp h
  exact nodeAt_eq_some_dir.mpr (get?_dir_of_get?_append found)

/-! ## Following routes -/

/-- A tree without links: no location holds one. -/
def NoLinks (t : FileTree) : Prop :=
  ∀ l target, t.get? l ≠ some (.link target)

theorem follow_nil (t : FileTree) (cur : Location) : t.follow cur [] = .ok cur := rfl

/-- A route with a step left to take continues only from a directory, whatever it meets later. -/
theorem nodeAt_of_followWith_cons {create : Bool}
    {onLink : Location → List Step → Except IoError Location}
    {cur l : Location} {step : Step} {rest : List Step}
    (h : t.followWith create onLink cur (step :: rest) = .ok l) : t.nodeAt cur = some .dir := by
  cases found : t.get? cur with
  | none => simp [followWith, found] at h
  | some e =>
    cases e with
    | dir cs => exact nodeAt_eq_some_dir.mpr ⟨cs, found⟩
    | file b => simp [followWith, found] at h
    | link target => simp [followWith, found] at h

theorem nodeAt_of_follow_cons {cur l : Location} {step : Step} {rest : List Step}
    (h : t.follow cur (step :: rest) = .ok l) : t.nodeAt cur = some .dir :=
  nodeAt_of_followWith_cons h

/-- What one step of a lookup does in a tree without links, while it may not make the entry it
meets (a read, or a write with steps still to take): it leaves a directory, and a step down needs
an entry of that name. -/
theorem followWith_cons_eq_ok (noLinks : t.NoLinks) {create : Bool}
    {onLink : Location → List Step → Except IoError Location} {cur l : Location} {step : Step}
    {rest : List Step} (midway : create = false ∨ rest ≠ []) :
    t.followWith create onLink cur (step :: rest) = .ok l ↔ ∃ cs, t.get? cur = some (.dir cs) ∧
      match step with
      | .stay => t.followWith create onLink cur rest = .ok l
      | .up => t.followWith create onLink cur.dropLast rest = .ok l
      | .down n => (t.get? (cur ++ [n])).isSome ∧
          t.followWith create onLink (cur ++ [n]) rest = .ok l := by
  have noCreate : (create && rest.isEmpty) = false := by
    rcases midway with rfl | more
    · rfl
    · simp [List.isEmpty_eq_false_iff.mpr more]
  cases found : t.get? cur with
  | none => cases step <;> simp [followWith, found]
  | some e =>
    cases e with
    | file _ | link _ => cases step <;> simp [followWith, found]
    | dir cs =>
      cases step with
      | stay | up => simp [followWith, found]
      | down n =>
        cases below : t.get? (cur ++ [n]) with
        | none => simp [followWith, found, below, noCreate]
        | some e' =>
          cases e' with
          | file _ | dir _ => simp [followWith, found, below]
          | link target => exact absurd below (noLinks _ target)

theorem follow_cons_eq_ok (noLinks : t.NoLinks) {cur l : Location} {step : Step}
    {rest : List Step} :
    t.follow cur (step :: rest) = .ok l ↔ ∃ cs, t.get? cur = some (.dir cs) ∧
      match step with
      | .stay => t.follow cur rest = .ok l
      | .up => t.follow cur.dropLast rest = .ok l
      | .down n => (t.get? (cur ++ [n])).isSome ∧ t.follow (cur ++ [n]) rest = .ok l :=
  followWith_cons_eq_ok noLinks (.inl rfl)

/-- Walking down names from a place reaches the location below it, when that location exists. -/
theorem follow_downs (noLinks : t.NoLinks) {cur names : Location}
    (found : (t.get? (cur ++ names)).isSome) :
    t.follow cur (names.map .down) = .ok (cur ++ names) := by
  induction names generalizing cur with
  | nil => simp [follow_nil]
  | cons n rest ih =>
    obtain ⟨e, hasEntry⟩ := Option.isSome_iff_exists.mp found
    obtain ⟨cs, isDir⟩ := get?_dir_of_get?_append hasEntry
    have below : (t.get? (cur ++ [n])).isSome :=
      isSome_get?_of_append (b := rest) (by simpa using found)
    have next := @ih (cur ++ [n]) (by simpa using found)
    rw [List.map_cons, follow_cons_eq_ok noLinks]
    exact ⟨cs, isDir, below, by simpa using next⟩

/-- A walk down names can only end at the location below where it started. -/
theorem follow_downs_eq_ok (noLinks : t.NoLinks) {cur names l : Location}
    (h : t.follow cur (names.map .down) = .ok l) : l = cur ++ names := by
  induction names generalizing cur with
  | nil =>
    rw [List.map_nil, follow_nil, Except.ok.injEq] at h
    simp [h]
  | cons n rest ih =>
    obtain ⟨-, -, -, next⟩ := (follow_cons_eq_ok noLinks).mp h
    simpa using ih next

/-- Following two routes one after the other. -/
theorem follow_append_eq_ok (noLinks : t.NoLinks) {cur l : Location} {xs ys : List Step} :
    t.follow cur (xs ++ ys) = .ok l ↔ ∃ m, t.follow cur xs = .ok m ∧ t.follow m ys = .ok l := by
  induction xs generalizing cur with
  | nil => simp [follow_nil]
  | cons step rest ih =>
    rw [List.cons_append, follow_cons_eq_ok noLinks]
    constructor
    · rintro ⟨cs, isDir, next⟩
      cases step with
      | stay =>
        obtain ⟨m, first, second⟩ := ih.mp next
        exact ⟨m, (follow_cons_eq_ok noLinks).mpr ⟨cs, isDir, first⟩, second⟩
      | up =>
        obtain ⟨m, first, second⟩ := ih.mp next
        exact ⟨m, (follow_cons_eq_ok noLinks).mpr ⟨cs, isDir, first⟩, second⟩
      | down n =>
        obtain ⟨m, first, second⟩ := ih.mp next.2
        exact ⟨m, (follow_cons_eq_ok noLinks).mpr ⟨cs, isDir, next.1, first⟩, second⟩
    · rintro ⟨m, first, second⟩
      obtain ⟨cs, isDir, next⟩ := (follow_cons_eq_ok noLinks).mp first
      refine ⟨cs, isDir, ?_⟩
      cases step with
      | stay => exact ih.mpr ⟨m, next, second⟩
      | up => exact ih.mpr ⟨m, next, second⟩
      | down n => exact ⟨next.1, ih.mpr ⟨m, next.2, second⟩⟩

/-! ## The lookup of a write -/

/-- Only the last step of a write's lookup may name a missing entry. -/
theorem followToWrite_cons_eq_ok (noLinks : t.NoLinks) {cur l : Location} {step : Step}
    {rest : List Step} (more : rest ≠ []) :
    t.followToWrite cur (step :: rest) = .ok l ↔ ∃ cs, t.get? cur = some (.dir cs) ∧
      match step with
      | .stay => t.followToWrite cur rest = .ok l
      | .up => t.followToWrite cur.dropLast rest = .ok l
      | .down n => (t.get? (cur ++ [n])).isSome ∧ t.followToWrite (cur ++ [n]) rest = .ok l :=
  followWith_cons_eq_ok noLinks (.inr more)

/-- The last step of a write's lookup, down to a name, in a tree without links: the name lies in
a directory, and is written whether it is there or not. -/
theorem followToWrite_down (noLinks : t.NoLinks) {cur l : Location} {n : String} :
    t.followToWrite cur [.down n] = .ok l ↔ ∃ cs, t.get? cur = some (.dir cs) ∧ l = cur ++ [n] := by
  cases found : t.get? cur with
  | none => simp [followToWrite, followWith, found]
  | some e =>
    cases e with
    | file _ | link _ => simp [followToWrite, followWith, found]
    | dir cs =>
      cases below : t.get? (cur ++ [n]) with
      | none => simp [followToWrite, followWith, found, below, eq_comm]
      | some e' =>
        cases e' with
        | file _ | dir _ => simp [followToWrite, followWith, found, below, eq_comm]
        | link target => exact absurd below (noLinks _ target)

/-- A write's lookup of a route that ends in a step down, in a tree without links: the rest of
the route leads to a directory, and the write is of the name in it. -/
theorem followToWrite_append_down (noLinks : t.NoLinks) {cur l : Location} {init : List Step}
    {n : String} :
    t.followToWrite cur (init ++ [.down n]) = .ok l ↔
      ∃ P cs, t.follow cur init = .ok P ∧ t.get? P = some (.dir cs) ∧ l = P ++ [n] := by
  induction init generalizing cur with
  | nil => simp [followToWrite_down noLinks, follow_nil]
  | cons step rest ih =>
    rw [List.cons_append, followToWrite_cons_eq_ok noLinks (by simp)]
    constructor
    · rintro ⟨cs, isDir, next⟩
      cases step with
      | stay | up =>
        obtain ⟨P, cs', first, atP, rfl⟩ := ih.mp next
        exact ⟨P, cs', (follow_cons_eq_ok noLinks).mpr ⟨cs, isDir, first⟩, atP, rfl⟩
      | down m =>
        obtain ⟨P, cs', first, atP, rfl⟩ := ih.mp next.2
        exact ⟨P, cs', (follow_cons_eq_ok noLinks).mpr ⟨cs, isDir, next.1, first⟩, atP, rfl⟩
    · rintro ⟨P, cs', first, atP, rfl⟩
      obtain ⟨cs, isDir, next⟩ := (follow_cons_eq_ok noLinks).mp first
      refine ⟨cs, isDir, ?_⟩
      cases step with
      | stay | up => exact ih.mpr ⟨P, cs', next, atP, rfl⟩
      | down m => exact ⟨next.1, ih.mpr ⟨P, cs', next.2, atP, rfl⟩⟩

/-- A route is followed the same way in a link-free tree that keeps every directory of the first
and still holds something where the route ends. -/
theorem follow_of_dirs_kept (noLinks : t.NoLinks) (noLinks' : t'.NoLinks)
    (kept : ∀ x, t.nodeAt x = some .dir → t'.nodeAt x = some .dir)
    {cur l : Location} {steps : List Step} (h : t.follow cur steps = .ok l)
    (found : (t'.nodeAt l).isSome) : t'.follow cur steps = .ok l := by
  induction steps generalizing cur with
  | nil => rwa [follow_nil] at h ⊢
  | cons step rest ih =>
    obtain ⟨cs, -, next⟩ := (follow_cons_eq_ok noLinks).mp h
    obtain ⟨cs', dirThere⟩ := nodeAt_eq_some_dir.mp (kept cur (nodeAt_of_follow_cons h))
    rw [follow_cons_eq_ok noLinks']
    refine ⟨cs', dirThere, ?_⟩
    cases step with
    | stay => exact ih next
    | up => exact ih next
    | down n =>
      obtain ⟨-, fromBelow⟩ := next
      -- the place below is there: the end of the route, or a directory with steps left
      have below : (t'.nodeAt (cur ++ [n])).isSome := by
        cases rest with
        | nil =>
          rw [follow_nil, Except.ok.injEq] at fromBelow
          rw [fromBelow]
          exact found
        | cons _ _ =>
          rw [kept _ (nodeAt_of_follow_cons fromBelow)]
          rfl
      exact ⟨by simpa [nodeAt] using below, ih fromBelow⟩

/-! ## Resolving path texts -/

theorem start_of_absolute (t : FileTree) {r : Route} (h : r.absolute = true) : t.start r = [] := by
  simp [start, h]

/-- Two routes that both start at the root, or both at the working directory, start at the same
place in two trees that work in the same place. -/
theorem start_congr {r r' : Route} (sameCwd : t'.cwd = t.cwd) (same : r'.absolute = r.absolute) :
    t'.start r' = t.start r := by
  simp [start, sameCwd, same]

/-- A text resolves by following its route to something that is there. -/
theorem follow_of_resolve {p : String} {l : Location} (h : t.resolve p = .ok l) :
    p.isEmpty = false ∧ t.follow (t.start (Route.ofText p)) (Route.ofText p).steps = .ok l ∧
      (t.get? l).isSome := by
  unfold resolve at h
  split at h
  · cases h
  · rename_i notEmpty
    dsimp only at h
    split at h
    · cases h
    · rename_i m walk
      -- what the route reached is the answer, and something is there
      split at h
      · rename_i isFile
        split at h
        · cases h
        · cases h
          exact ⟨by simpa using notEmpty, walk, by simp [isFile]⟩
      · rename_i isDir
        cases h
        exact ⟨by simpa using notEmpty, walk, by simp [isDir]⟩
      · cases h

/-- The canonical text of an existing location resolves to it in a tree without links. -/
theorem resolve_text (noLinks : t.NoLinks) (proper : l.Proper) (found : (t.get? l).isSome) :
    t.resolve l.text = .ok l := by
  obtain ⟨e, hasEntry⟩ := Option.isSome_iff_exists.mp found
  have walk : t.follow [] (l.map .down) = .ok l := by
    have down : t.follow [] (l.map .down) = .ok ([] ++ l) := follow_downs noLinks (by simpa using found)
    simpa using down
  simp only [resolve, Location.isEmpty_text, Bool.false_eq_true, if_false, Route.ofText_text proper,
    start_of_absolute, walk, hasEntry]
  cases e with
  | dir cs => rfl
  | link target => exact absurd hasEntry (noLinks l target)
  | file b =>
    -- a file is never the root, so its text asks for no directory
    have notRoot : l.isEmpty = false := by
      cases l with
      | nil => simp at hasEntry
      | cons _ _ => rfl
    simp [notRoot]

theorem resolve_text_eq_ok_iff (noLinks : t.NoLinks) (proper : l.Proper) {l' : Location} :
    t.resolve l.text = .ok l' ↔ l' = l ∧ (t.get? l).isSome := by
  constructor
  · intro h
    obtain ⟨-, walk, found⟩ := follow_of_resolve h
    simp only [Route.ofText_text proper, start_of_absolute] at walk
    have atL : l' = l := by simpa using follow_downs_eq_ok noLinks walk
    subst l'
    exact ⟨rfl, found⟩
  · rintro ⟨rfl, found⟩
    exact resolve_text noLinks proper found

theorem entry?_text (noLinks : t.NoLinks) (proper : l.Proper) : t.entry? l.text = t.get? l := by
  unfold entry?
  by_cases found : (t.get? l).isSome
  · rw [resolve_text noLinks proper found]
  · cases resolved : t.resolve l.text with
    | error e => exact (Option.not_isSome_iff_eq_none.mp found).symm
    | ok l' => exact absurd ((resolve_text_eq_ok_iff noLinks proper).mp resolved).2 found

/-- Reading the canonical text of a location in a tree without links reads the file there. -/
theorem readBytes_text_eq_ok_iff (noLinks : t.NoLinks) (proper : l.Proper) {b : ByteArray} :
    t.readBytes l.text = .ok b ↔ t.get? l = some (.file b) := by
  unfold readBytes
  rw [entry?_text noLinks proper]
  cases found : t.get? l with
  | none =>
    simp only [reduceCtorEq, iff_false]
    split <;> simp
  | some e =>
    cases e with
    | file c => simp
    | dir cs => simp
    | link target => exact absurd found (noLinks l target)

theorem readText_text_eq_ok_iff (noLinks : t.NoLinks) (proper : l.Proper) {s : String} :
    t.readText l.text = .ok s ↔ ∃ b, t.get? l = some (.file b) ∧ String.fromUTF8? b = some s := by
  unfold readText
  cases read : t.readBytes l.text with
  | error e =>
    simp only [reduceCtorEq, false_iff, not_exists, not_and]
    intro b isFile
    have := (readBytes_text_eq_ok_iff noLinks proper).mpr isFile
    rw [read] at this
    cases this
  | ok b =>
    have isFile := (readBytes_text_eq_ok_iff noLinks proper).mp read
    simp only [isFile, Option.some.injEq, Entry.file.injEq, exists_eq_left']
    split <;> simp_all

/-- Reading a location's text in trees without links only depends on the file there. -/
theorem readText_text_congr (noLinks : t.NoLinks) (noLinks' : t'.NoLinks) (proper : l.Proper)
    (same : t'.nodeAt l = t.nodeAt l) {s : String} :
    t'.readText l.text = .ok s ↔ t.readText l.text = .ok s := by
  simp only [readText_text_eq_ok_iff noLinks proper, readText_text_eq_ok_iff noLinks' proper,
    ← nodeAt_eq_some_file, same]

theorem canonicalize_text_eq_ok (noLinks : t.NoLinks) (proper : l.Proper) {p : String}
    (h : t.canonicalize l.text = .ok p) : p = l.text := by
  unfold canonicalize at h
  cases resolved : t.resolve l.text with
  | error e =>
    rw [resolved] at h
    cases h
  | ok l' =>
    have atL := ((resolve_text_eq_ok_iff noLinks proper).mp resolved).1
    rw [resolved] at h
    cases h
    rw [atL]

/-- A text that resolves to a directory resolves the same way in a link-free tree that keeps
every directory of the first and works in the same place. -/
theorem resolve_of_dirs_kept (noLinks : t.NoLinks) (noLinks' : t'.NoLinks)
    (kept : ∀ x, t.nodeAt x = some .dir → t'.nodeAt x = some .dir)
    (sameCwd : t'.cwd = t.cwd) {p : String} {l : Location} (h : t.resolve p = .ok l)
    (isDir : t.nodeAt l = some .dir) : t'.resolve p = .ok l := by
  obtain ⟨notEmpty, walk, -⟩ := follow_of_resolve h
  have sameStart : t'.start (Route.ofText p) = t.start (Route.ofText p) := by
    simp [start, sameCwd]
  have walk' := follow_of_dirs_kept noLinks noLinks' kept walk (by rw [kept l isDir]; rfl)
  obtain ⟨cs, there⟩ := nodeAt_eq_some_dir.mp (kept l isDir)
  simp [resolve, notEmpty, sameStart, walk', there]

end FileTree

end Files

/-! ## Paths a session compares -/

namespace Session

open Files

variable {l : Location}

/-- A session compares the canonical text of a location as it is, in any tree without links:
made canonical, its directory is itself when it exists, and otherwise the text is kept. -/
theorem comparedPath_text {t : FileTree} (noLinks : t.NoLinks) (proper : l.Proper) :
    comparedPath t l.text = l.text := by
  unfold comparedPath
  rw [Path.components_text proper, Path.fileName?_text proper]
  rcases List.eq_nil_or_concat l with rfl | ⟨init, last, rfl⟩
  · rfl
  · rw [List.concat_eq_append] at proper ⊢
    have initProper : Location.Proper init := proper.of_append_left
    have lastName : ProperName last := proper last (by simp)
    have parent : Path.ofComponents (Path.Component.root :: (init ++ [last]).map .normal).dropLast =
        Location.text init := by
      rw [List.map_append, List.map_singleton, ← List.cons_append, List.dropLast_concat,
        Path.ofComponents_names]
    simp only [parent, List.getLast?_concat, List.isEmpty_cons]
    split
    · rename_i p canon
      rw [FileTree.canonicalize_text_eq_ok noLinks initProper canon,
        Path.join_text initProper lastName]
    · rfl

/-- Whether a session excludes a location's text is the same in any two trees without links. -/
theorem isExcluded_text (s : Session) {t t' : FileTree} (noLinks : t.NoLinks)
    (noLinks' : t'.NoLinks) (proper : l.Proper) :
    s.isExcluded t l.text = s.isExcluded t' l.text := by
  simp only [isExcluded, comparedPath_text noLinks proper, comparedPath_text noLinks' proper]

end Session

end KeyIntern
