import Mathlib.Logic.Relation
import KeyIntern.Proofs.TreeLookup

/-! # Edits of a file tree

Every edit of a tree changes the entries of one directory: `modifyDir` applies a change to the
entry list found at a location and rebuilds the directories above it, with their names as they
were. Making a directory puts an empty one under a new name, writing a file puts the file under
its name, and removing drops a name. What each edit does is stated through `nodeAt`, what a tree
holds at each location, so later proofs never look at the lists inside directories.

Two relations say how far an edit reaches. A tree *grows* into another when every location holds
what it held, except that some empty places became directories; it *changes only at* `L` when
that holds everywhere except at `L`. Making directories grows a tree; in a tree without links,
writing or removing a file at `L` changes it only at `L` (through a link a write lands where the
link leads). And the edits keep a tree well formed: the entries of a directory have distinct
proper names, and none is a link.

Main statements: `nodeAt_setChild` and `nodeAt_dropChild`, the effect of an edit on every
location; `createDirAll_grows`, `putFile_text_changesOnlyAt` and `remove_text_changesOnlyAt`;
and `WellFormed.putFile`.
-/

namespace KeyIntern

namespace Files

/-! ## Entry lists -/

section Lookup

variable {n m : String} {e : Entry} {cs : List (String × Entry)}

theorem lookup_cons_if (k : String) (v : Entry) (rest : List (String × Entry)) :
    ((k, v) :: rest).lookup m = if m = k then some v else rest.lookup m := by
  by_cases same : m = k
  · subst same
    simp
  · rw [List.lookup_cons, beq_false_of_ne same, if_neg same]

theorem lookup_map_at (h : Entry → Entry) :
    (cs.map fun p => if p.1 = n then (p.1, h p.2) else p).lookup m =
      if m = n then (cs.lookup n).map h else cs.lookup m := by
  induction cs with
  | nil => split <;> rfl
  | cons p rest ih =>
    obtain ⟨k, v⟩ := p
    by_cases atN : k = n
    · subst atN
      by_cases same : m = k <;> simp [lookup_cons_if, same, ih]
    · by_cases same : m = k
      · subst same
        simp [atN]
      · by_cases atM : m = n
        · subst atM
          simp [lookup_cons_if, atN, same, ih]
        · simp [lookup_cons_if, atN, same, atM, ih]

theorem lookup_setChild : (setChild n e cs).lookup m = if m = n then some e else cs.lookup m := by
  unfold setChild
  split
  · rename_i present
    -- the name is there: every entry under it is replaced
    have replaced : (cs.map fun p => if p.1 = n then (n, e) else p) =
        cs.map fun p => if p.1 = n then (p.1, (fun _ => e) p.2) else p := by
      apply List.map_congr_left
      intro p _
      by_cases atN : p.1 = n <;> simp [atN]
    have found : (cs.lookup n).isSome := by
      obtain ⟨q, inCs, named⟩ := List.any_eq_true.mp present
      exact List.lookup_isSome_iff.mpr ⟨q, inCs, beq_iff_eq.mpr (beq_iff_eq.mp named).symm⟩
    rw [replaced, lookup_map_at (h := fun _ => e)]
    obtain ⟨v, hv⟩ := Option.isSome_iff_exists.mp found
    simp [hv]
  · rename_i absent
    -- the name is new: it goes after the other entries
    have missing : cs.lookup n = none := by
      simp only [List.any_eq_true, not_exists, not_and] at absent
      simp only [List.lookup_eq_none_iff]
      intro p inCs
      rw [bne_iff_ne]
      exact fun named => absent p inCs (beq_iff_eq.mpr named.symm)
    rw [List.lookup_append]
    by_cases same : m = n
    · subst same
      simp [missing]
    · simp [lookup_cons_if, same]

theorem lookup_dropChild : (dropChild n cs).lookup m = if m = n then none else cs.lookup m := by
  induction cs with
  | nil => split <;> rfl
  | cons p rest ih =>
    obtain ⟨k, v⟩ := p
    by_cases atN : k = n
    · subst atN
      have dropped : dropChild k ((k, v) :: rest) = dropChild k rest := by simp [dropChild]
      rw [dropped, ih]
      by_cases same : m = k <;> simp [lookup_cons_if, same]
    · have kept : dropChild n ((k, v) :: rest) = (k, v) :: dropChild n rest := by
        simp [dropChild, atN]
      rw [kept, lookup_cons_if, ih]
      by_cases same : m = k
      · subst same
        simp [atN]
      · by_cases atM : m = n
        · subst atM
          simp [same]
        · simp [lookup_cons_if, same, atM]

/-- Where names are distinct, an entry is found under its own name. -/
theorem lookup_of_mem_of_nodup (distinct : (cs.map Prod.fst).Nodup) (mem : (n, e) ∈ cs) :
    cs.lookup n = some e := by
  induction cs with
  | nil => cases mem
  | cons p rest ih =>
    obtain ⟨k, v⟩ := p
    simp only [List.map_cons, List.nodup_cons] at distinct
    rcases List.mem_cons.mp mem with same | inRest
    · cases same
      simp
    · have other : n ≠ k := by
        rintro rfl
        exact distinct.1 (List.mem_map_of_mem (f := Prod.fst) inRest)
      rw [lookup_cons_if, if_neg other]
      exact ih distinct.2 inRest

theorem mem_of_lookup_eq_some (found : cs.lookup n = some e) : (n, e) ∈ cs := by
  induction cs with
  | nil => cases found
  | cons p rest ih =>
    obtain ⟨k, v⟩ := p
    rw [lookup_cons_if] at found
    split at found
    · rename_i same
      cases found
      subst same
      exact List.mem_cons_self
    · exact List.mem_cons_of_mem _ (ih found)

end Lookup

/-! ## Changing one directory -/

namespace Entry

variable (g : List (String × Entry) → List (String × Entry))

@[simp] theorem node_modifyDir (e : Entry) (P : Location) : (e.modifyDir g P).node = e.node := by
  cases e <;> cases P <;> rfl

@[simp] theorem modifyDir_dir_nil (cs : List (String × Entry)) :
    (Entry.dir cs).modifyDir g [] = .dir (g cs) := rfl

@[simp] theorem modifyDir_file (b : ByteArray) (P : Location) : (Entry.file b).modifyDir g P = .file b := by
  cases P <;> rfl

@[simp] theorem modifyDir_link (target : String) (P : Location) :
    (Entry.link target).modifyDir g P = .link target := by
  cases P <;> rfl

theorem modifyDir_dir_cons (cs : List (String × Entry)) (n : String) (rest : Location) :
    (Entry.dir cs).modifyDir g (n :: rest) =
      .dir (cs.map fun p => if p.1 = n then (p.1, p.2.modifyDir g rest) else p) := rfl

/-- At and below the changed directory, the tree is the changed directory's. -/
theorem get?_modifyDir_append (e : Entry) (P Y : Location) :
    (e.modifyDir g P).get? (P ++ Y) = (e.get? P).bind fun d => (d.modifyDir g []).get? Y := by
  induction P generalizing e with
  | nil => simp
  | cons n rest ih =>
    cases e with
    | file b => simp
    | link target => simp
    | dir cs =>
      rw [modifyDir_dir_cons, List.cons_append, get?_dir_cons, get?_dir_cons,
        lookup_map_at (h := fun c => c.modifyDir g rest)]
      simp only [if_true]
      cases cs.lookup n with
      | none => rfl
      | some c => exact ih c

/-- Away from the changed directory, every location holds the node it held. -/
theorem node_get?_modifyDir_away (e : Entry) {P X : Location} (away : ¬ P <+: X) :
    ((e.modifyDir g P).get? X).map Entry.node = (e.get? X).map Entry.node := by
  induction X generalizing e P with
  | nil =>
    simp
  | cons m rest ih =>
    cases P with
    | nil => exact absurd (List.nil_prefix) away
    | cons n P' =>
      cases e with
      | file b => simp
      | link target => simp
      | dir cs =>
        rw [modifyDir_dir_cons, get?_dir_cons, get?_dir_cons,
          lookup_map_at (h := fun c => c.modifyDir g P')]
        split
        · rename_i same
          subst same
          have away' : ¬ P' <+: rest := fun h => away (List.prefix_cons_inj m |>.mpr h)
          cases cs.lookup m with
          | none => rfl
          | some c => exact ih c away'
        · rfl
end Entry

namespace FileTree

variable {t : FileTree} {g : List (String × Entry) → List (String × Entry)}

theorem get?_modifyDir (t : FileTree) (P : Location) (g : List (String × Entry) → List (String × Entry))
    (X : Location) : (t.modifyDir P g).get? X = (t.root.modifyDir g P).get? X := by
  have stillDir : (t.root.modifyDir g P).node = .dir := by simp [root]
  unfold modifyDir
  split
  · rename_i cs changed
    simp [get?, root, ← changed]
  · rename_i notDir
    cases changed : t.root.modifyDir g P with
    | dir cs => exact (notDir cs changed).elim
    | file b =>
      rw [changed] at stillDir
      cases stillDir
    | link target =>
      rw [changed] at stillDir
      cases stillDir

@[simp] theorem cwd_modifyDir (t : FileTree) (P : Location) (g : List (String × Entry) → List (String × Entry)) :
    (t.modifyDir P g).cwd = t.cwd := by
  unfold modifyDir
  split <;> rfl

theorem nodeAt_modifyDir_away {P X : Location} (away : ¬ P <+: X) :
    (t.modifyDir P g).nodeAt X = t.nodeAt X := by
  simp only [nodeAt, get?_modifyDir]
  exact Entry.node_get?_modifyDir_away g t.root away

theorem get?_modifyDir_append (P Y : Location) :
    (t.modifyDir P g).get? (P ++ Y) = (t.get? P).bind fun d => (d.modifyDir g []).get? Y := by
  rw [get?_modifyDir]
  exact Entry.get?_modifyDir_append g t.root P Y

/-- A change to a place that holds no directory changes nothing. -/
theorem nodeAt_modifyDir_of_not_dir {P : Location} (notDir : t.nodeAt P ≠ some .dir) (X : Location) :
    (t.modifyDir P g).nodeAt X = t.nodeAt X := by
  by_cases below : P <+: X
  · obtain ⟨Y, rfl⟩ := below
    rw [nodeAt, nodeAt, get?_modifyDir_append, get?_append]
    cases atP : t.get? P with
    | none => rfl
    | some d =>
      cases d with
      | file b => simp
      | link target => simp
      | dir cs => exact absurd (nodeAt_eq_some_dir.mpr ⟨cs, atP⟩) notDir
  · exact nodeAt_modifyDir_away below

/-- Putting an entry with nothing below it under a name in a directory: the name holds the
entry, nothing lies below it, and every other location holds what it held. -/
theorem nodeAt_setChild {P : Location} {n : String} {e : Entry} (isDir : t.nodeAt P = some .dir)
    (leaf : ∀ m Y, e.get? (m :: Y) = none) (X : Location) :
    (t.modifyDir P (setChild n e)).nodeAt X =
      if X = P ++ [n] then some e.node else if P ++ [n] <+: X then none else t.nodeAt X := by
  obtain ⟨cs, atP⟩ := nodeAt_eq_some_dir.mp isDir
  by_cases below : P <+: X
  · obtain ⟨Y, rfl⟩ := below
    simp only [nodeAt, get?_modifyDir_append, atP, Option.bind_some, Entry.modifyDir_dir_nil,
      List.append_cancel_left_eq, List.prefix_append_right_inj]
    cases Y with
    | nil => simp [atP]
    | cons m Y' =>
      rw [Entry.get?_dir_cons, lookup_setChild]
      by_cases same : m = n
      · subst same
        cases Y' with
        | nil => simp
        | cons m' Y'' => simp [leaf]
      · simp [same, Ne.symm same, get?_append, atP]
  · have notAt : X ≠ P ++ [n] := fun h => below (h ▸ List.prefix_append P [n])
    have notBelow : ¬ P ++ [n] <+: X := fun h => below ((List.prefix_append P [n]).trans h)
    rw [nodeAt_modifyDir_away below, if_neg notAt, if_neg notBelow]

/-- Dropping a name from a directory: nothing is left at or below it, and every other location
holds what it held. -/
theorem nodeAt_dropChild {P : Location} {n : String} (isDir : t.nodeAt P = some .dir)
    (X : Location) :
    (t.modifyDir P (dropChild n)).nodeAt X = if P ++ [n] <+: X then none else t.nodeAt X := by
  obtain ⟨cs, atP⟩ := nodeAt_eq_some_dir.mp isDir
  by_cases below : P <+: X
  · obtain ⟨Y, rfl⟩ := below
    simp only [nodeAt, get?_modifyDir_append, atP, Option.bind_some, Entry.modifyDir_dir_nil,
      List.prefix_append_right_inj]
    cases Y with
    | nil => simp [atP]
    | cons m Y' =>
      rw [Entry.get?_dir_cons, lookup_dropChild]
      by_cases same : m = n
      · subst same
        simp
      · simp [same, Ne.symm same, get?_append, atP]
  · have notBelow : ¬ P ++ [n] <+: X := fun h => below ((List.prefix_append P [n]).trans h)
    rw [nodeAt_modifyDir_away below, if_neg notBelow]

end FileTree

/-! ## How far an edit reaches -/

/-- What a location holds after an edit that only adds directories: what it held, or a directory
where there was nothing. -/
def Node.Grows (before after : Option Node) : Prop :=
  after = before ∨ (before = none ∧ after = some .dir)

namespace Node.Grows

variable {a b c : Option Node}

theorem refl (a : Option Node) : Node.Grows a a := Or.inl rfl

theorem trans (first : Node.Grows a b) (second : Node.Grows b c) : Node.Grows a c := by
  rcases first with rfl | ⟨rfl, rfl⟩
  · exact second
  · rcases second with rfl | ⟨nothing, -⟩
    · exact Or.inr ⟨rfl, rfl⟩
    · cases nothing

theorem eq_of_isSome (grows : Node.Grows a b) (found : a.isSome) : b = a := by
  rcases grows with same | ⟨rfl, -⟩
  · exact same
  · cases found

theorem dir (grows : Node.Grows a b) (isDir : a = some .dir) : b = some .dir := by
  rw [grows.eq_of_isSome (by simp [isDir]), isDir]

theorem isSome (grows : Node.Grows a b) (found : a.isSome) : b.isSome := by
  rw [grows.eq_of_isSome found]
  exact found

/-- An edit that only adds directories makes no link. -/
theorem ne_link {target : String} (grows : Node.Grows a b) (notLink : a ≠ some (.link target)) :
    b ≠ some (.link target) := by
  rcases grows with rfl | ⟨-, rfl⟩
  · exact notLink
  · simp

/-- A file is there after an edit that only adds directories exactly when it was there before,
with the same bytes. -/
theorem file_iff {bytes : ByteArray} (grows : Node.Grows a b) :
    b = some (.file bytes) ↔ a = some (.file bytes) := by
  rcases grows with rfl | ⟨rfl, rfl⟩
  · exact Iff.rfl
  · simp

end Node.Grows

namespace FileTree

/-- `t'` holds what `t` holds at every location, except that some empty places became
directories; it works in the same place. -/
structure Grows (t t' : FileTree) : Prop where
  cwd : t'.cwd = t.cwd
  everywhere : ∀ X, Node.Grows (t.nodeAt X) (t'.nodeAt X)

/-- `t'` grows from `t` at every location but `L`, and keeps every directory of `t`. -/
structure ChangesOnlyAt (t t' : FileTree) (L : Location) : Prop where
  cwd : t'.cwd = t.cwd
  elsewhere : ∀ X, X ≠ L → Node.Grows (t.nodeAt X) (t'.nodeAt X)
  keepsDirs : ∀ X, t.nodeAt X = some .dir → t'.nodeAt X = some .dir

variable {t t₁ t₂ : FileTree} {L : Location}

theorem Grows.refl (t : FileTree) : t.Grows t := ⟨rfl, fun _ => Node.Grows.refl _⟩

theorem Grows.trans (first : t.Grows t₁) (second : t₁.Grows t₂) : t.Grows t₂ :=
  ⟨second.cwd.trans first.cwd, fun X => (first.everywhere X).trans (second.everywhere X)⟩

/-- A tree that grew from one without links has none: only directories were added. -/
theorem Grows.noLinks (grown : t.Grows t₁) (noLinks : t.NoLinks) : t₁.NoLinks := fun X target atX =>
  (grown.everywhere X).ne_link (mt nodeAt_eq_some_link.mp (noLinks X target))
    (nodeAt_eq_some_link.mpr atX)

theorem Grows.changesOnlyAt (grows : t.Grows t₁) (L : Location) : t.ChangesOnlyAt t₁ L :=
  ⟨grows.cwd, fun X _ => grows.everywhere X, fun X isDir => (grows.everywhere X).dir isDir⟩

theorem ChangesOnlyAt.trans (first : t.ChangesOnlyAt t₁ L) (second : t₁.ChangesOnlyAt t₂ L) :
    t.ChangesOnlyAt t₂ L :=
  ⟨second.cwd.trans first.cwd, fun X away => (first.elsewhere X away).trans (second.elsewhere X away),
    fun X isDir => second.keepsDirs X (first.keepsDirs X isDir)⟩

/-- A change at one place of a tree without links, which puts no link there, leaves none. -/
theorem ChangesOnlyAt.noLinks (changes : t.ChangesOnlyAt t₁ L) (noLinks : t.NoLinks)
    (notLink : ∀ target, t₁.nodeAt L ≠ some (.link target)) : t₁.NoLinks := by
  intro X target atX
  have linked : t₁.nodeAt X = some (.link target) := nodeAt_eq_some_link.mpr atX
  by_cases atL : X = L
  · exact notLink target (atL ▸ linked)
  · exact (changes.elsewhere X atL).ne_link (mt nodeAt_eq_some_link.mp (noLinks X target)) linked

/-- A route followed in a tree without links is followed the same way once the tree has grown. -/
theorem Grows.follow (grown : t.Grows t₁) (noLinks : t.NoLinks) {cur l : Location}
    {steps : List Step} (h : t.follow cur steps = .ok l) : t₁.follow cur steps = .ok l := by
  induction steps generalizing cur with
  | nil => rwa [follow_nil] at h ⊢
  | cons step rest ih =>
    obtain ⟨cs, isDir, next⟩ := (follow_cons_eq_ok noLinks).mp h
    obtain ⟨cs', dirThere⟩ := nodeAt_eq_some_dir.mp
      ((grown.everywhere cur).dir (nodeAt_eq_some_dir.mpr ⟨cs, isDir⟩))
    rw [follow_cons_eq_ok (grown.noLinks noLinks)]
    refine ⟨cs', dirThere, ?_⟩
    cases step with
    | stay => exact ih next
    | up => exact ih next
    | down n =>
      have below : (t₁.nodeAt (cur ++ [n])).isSome :=
        Node.Grows.isSome (grown.everywhere _) (by simpa [nodeAt] using next.1)
      exact ⟨by simpa [nodeAt] using below, ih next.2⟩

end FileTree

/-! ## What each edit reaches -/

namespace FileTree

variable {t t' t₁ : FileTree} {p : String} {l P : Location} {n : String}

theorem nodeAt_eq_none_below_missing {a X : Location} (missing : t.nodeAt a = none) (below : a <+: X) :
    t.nodeAt X = none := by
  obtain ⟨Y, rfl⟩ := below
  rw [nodeAt_eq_none] at missing ⊢
  simp [get?_append, missing]

/-- Nothing lies strictly below a place that holds no directory. -/
theorem nodeAt_eq_none_of_below {a X : Location} (notDir : t.nodeAt a ≠ some .dir)
    (below : a <+: X) (other : X ≠ a) : t.nodeAt X = none := by
  obtain ⟨Y, rfl⟩ := below
  obtain ⟨m, Y', rfl⟩ : ∃ m Y', Y = m :: Y' :=
    List.exists_cons_of_ne_nil (fun empty => other (by simp [empty]))
  rw [nodeAt_eq_none, get?_append]
  cases atA : t.get? a with
  | none => rfl
  | some d =>
    cases d with
    | file b => rfl
    | link target => rfl
    | dir cs => exact absurd (nodeAt_eq_some_dir.mpr ⟨cs, atA⟩) notDir

/-- The place a text makes its last name in: where the route up to that name leads. -/
theorem parentAndName_eq_ok_some (h : t.parentAndName p = .ok (P, some n)) :
    p.isEmpty = false ∧ ∃ init, (Route.ofText p).steps = init ++ [.down n] ∧
      t.follow (t.start (Route.ofText p)) init = .ok P := by
  unfold parentAndName at h
  split at h
  · cases h
  · rename_i notEmpty
    refine ⟨by simpa using notEmpty, ?_⟩
    dsimp only at h
    split at h
    · rename_i m last
      obtain ⟨init, steps⟩ := List.getLast?_eq_some_iff.mp last
      cases walk : t.follow (t.start (Route.ofText p)) (Route.ofText p).steps.dropLast with
      | error e => simp [walk, Except.map] at h
      | ok P' =>
        simp only [walk, Except.map, Except.ok.injEq, Prod.mk.injEq, Option.some.injEq] at h
        obtain ⟨rfl, rfl⟩ := h
        refine ⟨init, steps, ?_⟩
        rw [← walk, steps, List.dropLast_concat]
    · cases walk : t.follow (t.start (Route.ofText p)) (Route.ofText p).steps with
      | error e => simp [walk, Except.map] at h
      | ok P' => simp [walk, Except.map] at h

theorem makeDir_eq_ok (h : t.makeDir p = .ok t') :
    ∃ P n, t.parentAndName p = .ok (P, some n) ∧ t.nodeAt P = some .dir ∧
      t.nodeAt (P ++ [n]) = none ∧ t' = t.modifyDir P (setChild n (.dir [])) := by
  unfold makeDir at h
  split at h
  · cases h
  · cases h
  · rename_i P n named
    -- the parent is a directory, and the name is free in it
    split at h
    · rename_i cs atP
      split at h
      · cases h
      · rename_i free
        cases h
        exact ⟨P, n, named, nodeAt_eq_some_dir.mpr ⟨cs, atP⟩, by simpa [nodeAt_eq_none] using free, rfl⟩
    · cases h

theorem makeDir_grows (h : t.makeDir p = .ok t') : t.Grows t' := by
  obtain ⟨P, n, -, isDir, free, rfl⟩ := makeDir_eq_ok h
  refine ⟨cwd_modifyDir _ _ _, fun X => ?_⟩
  rw [nodeAt_setChild isDir (fun _ _ => rfl) X]
  split
  · rename_i atNew
    subst atNew
    exact Or.inr ⟨free, rfl⟩
  · split
    · rename_i below
      rw [nodeAt_eq_none_below_missing free below]
      exact Node.Grows.refl _
    · exact Node.Grows.refl _

/-- One directory made. -/
def MakesDir (t t' : FileTree) : Prop :=
  ∃ p, t.makeDir p = .ok t'

/-- Making a directory and the missing ones above it is a run of single directories made. -/
theorem makeDirsRev_madeDirs {cs : List Path.Component} (h : t.makeDirsRev cs = .ok t') :
    Relation.ReflTransGen MakesDir t t' := by
  induction cs generalizing t' with
  | nil =>
    simp only [makeDirsRev, Except.ok.injEq] at h
    subst h
    exact .refl
  | cons c up ih =>
    simp only [makeDirsRev] at h
    split at h
    · rename_i made
      cases h
      exact .single ⟨_, made⟩
    · -- the parent is missing: the directories above are made first
      split at h
      · cases h
      · rename_i t₁ parents
        split at h
        · rename_i made
          cases h
          exact (ih parents).tail ⟨_, made⟩
        · split at h
          · cases h
            exact ih parents
          · cases h
    · split at h
      · cases h
        exact .refl
      · cases h

theorem createDirAll_madeDirs (h : t.createDirAll p = .ok t') :
    Relation.ReflTransGen MakesDir t t' := by
  unfold createDirAll at h
  split at h
  · cases h
    exact .refl
  · exact makeDirsRev_madeDirs h

/-- A run of single directories made only adds directories. -/
theorem Grows.of_madeDirs (made : Relation.ReflTransGen MakesDir t t') : t.Grows t' := by
  induction made with
  | refl => exact Grows.refl t
  | tail _ made grown => exact grown.trans (makeDir_grows made.choose_spec)

theorem makeDirsRev_grows {cs : List Path.Component} (h : t.makeDirsRev cs = .ok t') : t.Grows t' :=
  .of_madeDirs (makeDirsRev_madeDirs h)

/-- Making a directory and those above it only adds directories. -/
theorem createDirAll_grows (h : t.createDirAll p = .ok t') : t.Grows t' :=
  .of_madeDirs (createDirAll_madeDirs h)

/-- A place that held a file or nothing held no directory. -/
theorem nodeAt_ne_dir_of_fileOrMissing {F : Location}
    (wasAt : t.nodeAt F = none ∨ ∃ b, t.nodeAt F = some (.file b)) : t.nodeAt F ≠ some .dir := by
  rcases wasAt with missing | ⟨b, isFile⟩
  · simp [missing]
  · simp [isFile]

/-- What a write that succeeds did, in any tree: its text ends in a name, the write's lookup took
the text's steps to a place that held a file or nothing, the text asks for no directory, and the
file was put there. -/
theorem writeFile_cases {bytes : ByteArray} (h : t.writeFile p bytes = .ok t') :
    ∃ n F, p.isEmpty = false ∧ (Route.ofText p).steps.getLast? = some (.down n) ∧
      t.followToWrite (t.start (Route.ofText p)) (Route.ofText p).steps = .ok F ∧
      (t.nodeAt F = none ∨ ∃ b, t.nodeAt F = some (.file b)) ∧
      (Route.ofText p).dirOnly = false ∧ t' = t.putFileAt F bytes := by
  unfold writeFile at h
  split at h
  · cases h
  · rename_i notEmpty
    dsimp only at h
    split at h
    · rename_i n last
      split at h
      · cases h
      · rename_i F walk
        -- the place held a file or nothing, and a text ending in a slash writes neither
        split at h
        · rename_i b atF
          split at h
          · cases h
          · rename_i fileOnly
            cases h
            exact ⟨n, F, by simpa using notEmpty, last, walk, .inr ⟨b, nodeAt_eq_some_file.mpr atF⟩,
              by simpa using fileOnly, rfl⟩
        · rename_i atF
          split at h
          · cases h
          · rename_i fileOnly
            cases h
            exact ⟨n, F, by simpa using notEmpty, last, walk, .inl (nodeAt_eq_none.mpr atF),
              by simpa using fileOnly, rfl⟩
        · cases h
    · split at h <;> cases h

/-- A write in a tree without links puts the file under its name, in the directory its route
leads to. -/
theorem writeFile_eq_ok (noLinks : t.NoLinks) {bytes : ByteArray}
    (h : t.writeFile p bytes = .ok t') :
    ∃ P n, t.parentAndName p = .ok (P, some n) ∧ t.nodeAt P = some .dir ∧
      t.nodeAt (P ++ [n]) ≠ some .dir ∧ (Route.ofText p).dirOnly = false ∧
      t' = t.modifyDir P (setChild n (.file bytes)) := by
  obtain ⟨n, F, notEmpty, last, walk, wasAt, fileOnly, rfl⟩ := writeFile_cases h
  obtain ⟨init, steps⟩ := List.getLast?_eq_some_iff.mp last
  -- without links, the lookup walks to the parent, then names the entry in it
  rw [steps, followToWrite_append_down noLinks] at walk
  obtain ⟨P, cs, toP, atP, rfl⟩ := walk
  have named : t.parentAndName p = .ok (P, some n) := by
    simp [parentAndName, notEmpty, steps, toP, Except.map]
  exact ⟨P, n, named, nodeAt_eq_some_dir.mpr ⟨cs, atP⟩, nodeAt_ne_dir_of_fileOrMissing wasAt,
    fileOnly, by simp [putFileAt]⟩

/-- In a tree without links, a write of a text whose last name lies in a directory, where no
directory has that name, puts the file there. -/
theorem writeFile_of_parentAndName (noLinks : t.NoLinks) {bytes : ByteArray}
    (named : t.parentAndName p = .ok (P, some n)) (isDir : t.nodeAt P = some .dir)
    (notDir : t.nodeAt (P ++ [n]) ≠ some .dir) (fileOnly : (Route.ofText p).dirOnly = false) :
    t.writeFile p bytes = .ok (t.modifyDir P (setChild n (.file bytes))) := by
  obtain ⟨notEmpty, init, steps, toP⟩ := parentAndName_eq_ok_some named
  obtain ⟨cs, atP⟩ := nodeAt_eq_some_dir.mp isDir
  have walk : t.followToWrite (t.start (Route.ofText p)) (init ++ [.down n]) = .ok (P ++ [n]) :=
    (followToWrite_append_down noLinks).mpr ⟨P, cs, toP, atP, rfl⟩
  have put : t.putFileAt (P ++ [n]) bytes = t.modifyDir P (setChild n (.file bytes)) := by
    simp [putFileAt]
  unfold writeFile
  cases atName : t.get? (P ++ [n]) with
  | none => simp [notEmpty, steps, walk, atName, fileOnly, put]
  | some e =>
    cases e with
    | file b => simp [notEmpty, steps, walk, atName, fileOnly, put]
    | dir cs' => exact absurd (nodeAt_eq_some_dir.mpr ⟨cs', atName⟩) notDir
    | link target => exact absurd atName (noLinks _ target)

/-- An edit that clears everything strictly below `L`, and leaves every place that is neither `L`
nor below it as it was, changes only `L`, when `L` held no directory. -/
theorem changesOnlyAt_of_clears {L : Location} (notDir : t.nodeAt L ≠ some .dir)
    (cwd : t'.cwd = t.cwd)
    (outside : ∀ X, X ≠ L → t'.nodeAt X = if L <+: X then none else t.nodeAt X) :
    t.ChangesOnlyAt t' L := by
  refine ⟨cwd, fun X other => ?_, fun X wasDir => ?_⟩
  · rw [outside X other]
    split
    · rename_i below
      rw [nodeAt_eq_none_of_below notDir below other]
      exact Node.Grows.refl _
    · exact Node.Grows.refl _
  · -- a directory is neither `L` nor below it
    have other : X ≠ L := fun h => notDir (h ▸ wasDir)
    have notBelow : ¬ L <+: X := fun below => by
      rw [nodeAt_eq_none_of_below notDir below other] at wasDir
      cases wasDir
    rw [outside X other, if_neg notBelow, wasDir]

/-- Putting a file under a name changes only the place of that name. -/
theorem changesOnlyAt_setChild_file {bytes : ByteArray} (notDir : t.nodeAt (P ++ [n]) ≠ some .dir) :
    t.ChangesOnlyAt (t.modifyDir P (setChild n (.file bytes))) (P ++ [n]) := by
  by_cases isDir : t.nodeAt P = some .dir
  · refine changesOnlyAt_of_clears notDir (cwd_modifyDir _ _ _) fun X other => ?_
    rw [nodeAt_setChild isDir (fun _ _ => rfl) X, if_neg other]
  · -- with no directory to put it in, nothing changes
    have same := nodeAt_modifyDir_of_not_dir (g := setChild n (.file bytes)) isDir
    have grows : t.Grows (t.modifyDir P (setChild n (.file bytes))) :=
      ⟨cwd_modifyDir _ _ _, fun X => by rw [same X]; exact Node.Grows.refl _⟩
    exact grows.changesOnlyAt _

/-- A write into a tree without links leaves none: the file goes in under its name. -/
theorem writeFile_noLinks (noLinks : t.NoLinks) {bytes : ByteArray}
    (h : t.writeFile p bytes = .ok t') : t'.NoLinks := by
  obtain ⟨P, n, -, isDir, notDir, -, rfl⟩ := writeFile_eq_ok noLinks h
  refine (changesOnlyAt_setChild_file notDir).noLinks noLinks fun target => ?_
  rw [nodeAt_setChild isDir (fun _ _ => rfl)]
  simp [Entry.node]

theorem writeFile_changesOnlyAt (noLinks : t.NoLinks) {bytes : ByteArray}
    (h : t.writeFile p bytes = .ok t') :
    ∃ P n, t.parentAndName p = .ok (P, some n) ∧ t.ChangesOnlyAt t' (P ++ [n]) := by
  obtain ⟨P, n, named, -, notDir, -, rfl⟩ := writeFile_eq_ok noLinks h
  exact ⟨P, n, named, changesOnlyAt_setChild_file notDir⟩

/-- Writing a file at a location's text in a tree without links, after making the directories
above it, changes only that location. -/
theorem putFile_text_changesOnlyAt (noLinks : t.NoLinks) {bytes : ByteArray} (proper : l.Proper)
    (h : t.putFile l.text bytes = .ok t') : t.ChangesOnlyAt t' l := by
  unfold FileTree.putFile at h
  split at h
  · rename_i t₁ made
    have noLinks₁ := (createDirAll_grows made).noLinks noLinks
    obtain ⟨P, n, named, changes⟩ := writeFile_changesOnlyAt noLinks₁ h
    obtain ⟨-, init, steps, walk⟩ := parentAndName_eq_ok_some named
    rw [Route.ofText_text proper] at steps walk
    rw [start_of_absolute _ rfl] at walk
    -- the route of the text walks down the names of `l`, the last one being the file's
    obtain ⟨above, last, rfl, rfl, lastStep⟩ := List.map_eq_append_iff.mp steps
    obtain ⟨n', rfl, named'⟩ := List.map_eq_singleton_iff.mp lastStep
    cases named'
    have atP : P = [] ++ above := follow_downs_eq_ok noLinks₁ walk
    rw [List.nil_append] at atP
    subst atP
    exact ((createDirAll_grows made).changesOnlyAt _).trans changes
  · cases h

theorem putFile_noLinks (noLinks : t.NoLinks) {bytes : ByteArray} (h : t.putFile p bytes = .ok t') :
    t'.NoLinks := by
  unfold FileTree.putFile at h
  split at h
  · rename_i t₁ made
    exact writeFile_noLinks ((createDirAll_grows made).noLinks noLinks) h
  · cases h

/-- Removing an entry from a tree without links leaves none: what is left was there before. -/
theorem remove_noLinks (noLinks : t.NoLinks) : (t.remove p).NoLinks := by
  have dropped : ∀ P n, (t.modifyDir P (dropChild n)).NoLinks := by
    intro P n X target atX
    have linked : (t.modifyDir P (dropChild n)).nodeAt X = some (.link target) :=
      nodeAt_eq_some_link.mpr atX
    by_cases isDir : t.nodeAt P = some .dir
    · rw [nodeAt_dropChild isDir] at linked
      split at linked
      · cases linked
      · exact noLinks X target (nodeAt_eq_some_link.mp linked)
    · rw [nodeAt_modifyDir_of_not_dir isDir] at linked
      exact noLinks X target (nodeAt_eq_some_link.mp linked)
  unfold FileTree.remove
  split
  · split
    · exact dropped _ _
    · split
      · exact noLinks
      · exact dropped _ _
    · exact noLinks
  · exact noLinks

/-- The text of a location names its last name in the directory above it, when that directory
is there in a tree without links. -/
theorem parentAndName_text_eq_ok_some (noLinks : t.NoLinks) (proper : l.Proper)
    (h : t.parentAndName l.text = .ok (P, some n)) : l = P ++ [n] := by
  obtain ⟨-, init, steps, walk⟩ := parentAndName_eq_ok_some h
  rw [Route.ofText_text proper] at steps walk
  rw [start_of_absolute _ rfl] at walk
  -- the route of the text walks down the names of `l`, the last one being `n`
  obtain ⟨above, last, rfl, rfl, lastStep⟩ := List.map_eq_append_iff.mp steps
  obtain ⟨n', rfl, named⟩ := List.map_eq_singleton_iff.mp lastStep
  cases named
  have atP : P = [] ++ above := follow_downs_eq_ok noLinks walk
  rw [List.nil_append] at atP
  rw [atP]

/-- Removing what a location's text names in a tree without links, when that is no directory,
changes only that location. -/
theorem remove_text_changesOnlyAt (noLinks : t.NoLinks) (proper : l.Proper)
    (notDir : t.nodeAt l ≠ some .dir) : t.ChangesOnlyAt (t.remove l.text) l := by
  unfold remove
  split
  · rename_i P n named
    obtain rfl := parentAndName_text_eq_ok_some noLinks proper named
    have nonempty : (P ++ [n]).isEmpty = false := by simp
    split
    · rename_i cs isDir
      exact absurd (nodeAt_eq_some_dir.mpr ⟨cs, isDir⟩) notDir
    · rename_i e notDirEntry found
      have below : (t.nodeAt (P ++ n :: [])).isSome := by simp [nodeAt, found]
      have parentDir : t.nodeAt P = some .dir := nodeAt_dir_of_below below
      rw [Route.ofText_text proper, nonempty, if_neg Bool.false_ne_true]
      exact changesOnlyAt_of_clears notDir (cwd_modifyDir _ _ _) fun X _ =>
        nodeAt_dropChild parentDir X
    · exact (Grows.refl t).changesOnlyAt _
  · exact (Grows.refl t).changesOnlyAt l

end FileTree

/-! ## The declaration file -/

theorem properName_directoryName : ProperName Artifact.directoryName := by
  decide

theorem properName_typesFile : ProperName "index.d.ts" := by
  decide

namespace FileTree

variable {t : FileTree}

/-- In a tree grown from one where the root resolves to `R`, the declaration file is named in
`.keywords` inside `R`, and only when `R` is a directory there. -/
theorem parentAndName_typesPath {root : String} {R P : Location} {n : String} (noLinks : t.NoLinks)
    (resolved : t.resolve root = .ok R) (grown : t.Grows t₁)
    (named : t₁.parentAndName (Artifact.typesPath root) = .ok (P, some n)) :
    P = R ++ [Artifact.directoryName] ∧ n = "index.d.ts" ∧ t₁.nodeAt R = some .dir := by
  obtain ⟨rootNotEmpty, walkRoot, -⟩ := follow_of_resolve resolved
  have rootText : root ≠ "" := by simpa [String.isEmpty_iff] using rootNotEmpty
  -- the route to the declaration file is the root's, then two names down
  have dirRoute := Route.ofText_join rootText properName_directoryName
  have fileRoute := Route.ofText_join (Path.join_ne_empty root properName_directoryName)
    properName_typesFile
  rw [dirRoute] at fileRoute
  obtain ⟨-, init, steps, walk⟩ := parentAndName_eq_ok_some named
  rw [Artifact.typesPath, fileRoute] at steps walk
  have lastName : n = "index.d.ts" := by
    simpa using (congrArg List.getLast? steps).symm
  have firstSteps : init = (Route.ofText root).steps ++ [.down Artifact.directoryName] := by
    simpa using (congrArg List.dropLast steps).symm
  subst lastName firstSteps
  rw [start_congr (r := Route.ofText root) grown.cwd (by rfl)] at walk
  have noLinks₁ := grown.noLinks noLinks
  obtain ⟨m, toRoot, down⟩ := (follow_append_eq_ok noLinks₁).mp walk
  rw [grown.follow noLinks walkRoot, Except.ok.injEq] at toRoot
  subst toRoot
  obtain ⟨cs, isDir, -, intoDir⟩ := (follow_cons_eq_ok noLinks₁).mp down
  rw [follow_nil, Except.ok.injEq] at intoDir
  exact ⟨intoDir.symm, rfl, nodeAt_eq_some_dir.mpr ⟨cs, isDir⟩⟩

/-- Writing the declaration file changes only the declaration file, in `.keywords` inside the
root. -/
theorem writeTypes_changesOnlyAt {root : String} {R : Location} {ks : KeywordSet}
    (noLinks : t.NoLinks) (resolved : t.resolve root = .ok R) :
    t.ChangesOnlyAt (writeTypes t root ks).1 (R ++ [Artifact.directoryName, "index.d.ts"]) := by
  unfold writeTypes
  dsimp only
  split
  · exact (Grows.refl t).changesOnlyAt _
  · rename_i t₁ made
    have grown := createDirAll_grows made
    split
    · exact grown.changesOnlyAt _
    · rename_i t₂ written
      obtain ⟨P, n, named, changes⟩ := writeFile_changesOnlyAt (grown.noLinks noLinks) written
      obtain ⟨rfl, rfl, -⟩ := parentAndName_typesPath noLinks resolved grown named
      simpa using (grown.changesOnlyAt _).trans changes

/-- The declaration file is written only into a root that is a directory. -/
theorem writeTypes_noLinks {root : String} {ks : KeywordSet} (noLinks : t.NoLinks) :
    (writeTypes t root ks).1.NoLinks := by
  unfold writeTypes
  dsimp only
  split
  · exact noLinks
  · rename_i t₁ made
    have noLinks₁ := (createDirAll_grows made).noLinks noLinks
    split
    · exact noLinks₁
    · rename_i t₂ written
      exact writeFile_noLinks noLinks₁ written

theorem nodeAt_root_of_writeTypes {root path : String} {R : Location} {ks : KeywordSet}
    (noLinks : t.NoLinks) (resolved : t.resolve root = .ok R)
    (written : (writeTypes t root ks).2 = .ok path) :
    t.nodeAt R = some .dir := by
  unfold writeTypes at written
  dsimp only at written
  split at written
  · cases written
  · rename_i t₁ made
    split at written
    · cases written
    · rename_i t₂ wrote
      have grown := createDirAll_grows made
      obtain ⟨P, n, named, -⟩ := writeFile_changesOnlyAt (grown.noLinks noLinks) wrote
      obtain ⟨-, -, isDir⟩ := parentAndName_typesPath noLinks resolved grown named
      -- the root was there before, so it already was the directory it is now
      obtain ⟨-, -, found⟩ := follow_of_resolve resolved
      rcases grown.everywhere R with same | ⟨missing, -⟩
      · rw [← same]
        exact isDir
      · rw [nodeAt_eq_none] at missing
        simp [missing] at found

end FileTree

/-! ## Well-formed trees -/

/-- The entries of every directory at or below an entry have distinct proper names, and none of
them is a link. -/
inductive Entry.WellFormed : Entry → Prop
  | file (content : ByteArray) : (Entry.file content).WellFormed
  | dir {cs : List (String × Entry)} (distinct : (cs.map Prod.fst).Nodup)
      (named : ∀ p ∈ cs, ProperName p.1) (children : ∀ p ∈ cs, p.2.WellFormed) :
      (Entry.dir cs).WellFormed

/-- A tree as a disk without links holds one: every directory names its entries apart, each by
a proper name, and no entry is a link. -/
def FileTree.WellFormed (t : FileTree) : Prop :=
  t.root.WellFormed

namespace Entry.WellFormed

variable {cs : List (String × Entry)} {n : String} {e : Entry}

/-- In a well-formed directory an entry is found under its own name. -/
theorem lookup_of_mem (wf : (Entry.dir cs).WellFormed) (mem : (n, e) ∈ cs) : cs.lookup n = some e := by
  cases wf with
  | dir distinct _ _ => exact lookup_of_mem_of_nodup distinct mem

theorem setChild (wf : (Entry.dir cs).WellFormed) (name : ProperName n) (entry : e.WellFormed) :
    (Entry.dir (setChild n e cs)).WellFormed := by
  cases wf with
  | dir distinct named children =>
    unfold Files.setChild
    split
    · -- the entries under the name are replaced: the names stay as they were
      have sameNames : (cs.map fun p => if p.1 = n then (n, e) else p).map Prod.fst = cs.map Prod.fst := by
        simp only [List.map_map]
        apply List.map_congr_left
        intro p _
        by_cases atN : p.1 = n <;> simp [atN]
      refine .dir (by rw [sameNames]; exact distinct) ?_ ?_
      · simp only [List.mem_map]
        rintro _ ⟨p, inCs, rfl⟩
        by_cases atN : p.1 = n
        · simpa [atN] using name
        · simpa [atN] using named p inCs
      · simp only [List.mem_map]
        rintro _ ⟨p, inCs, rfl⟩
        by_cases atN : p.1 = n
        · simpa [atN] using entry
        · simpa [atN] using children p inCs
    · -- a new name goes after the others
      rename_i absent
      have fresh : n ∉ cs.map Prod.fst := by
        simp only [List.mem_map, not_exists, not_and]
        intro p inCs named
        exact absent (List.any_eq_true.mpr ⟨p, inCs, by simp [named]⟩)
      refine .dir ?_ ?_ ?_
      · rw [List.map_append, List.nodup_append]
        refine ⟨distinct, by simp, ?_⟩
        intro a inNames b isNew
        simp only [List.map_cons, List.map_nil, List.mem_singleton] at isNew
        subst isNew
        rintro rfl
        exact fresh inNames
      · intro p inNew
        rcases List.mem_append.mp inNew with inCs | isNew
        · exact named p inCs
        · simp only [List.mem_singleton] at isNew
          subst isNew
          exact name
      · intro p inNew
        rcases List.mem_append.mp inNew with inCs | isNew
        · exact children p inCs
        · simp only [List.mem_singleton] at isNew
          subst isNew
          exact entry

theorem dropChild (wf : (Entry.dir cs).WellFormed) : (Entry.dir (dropChild n cs)).WellFormed := by
  cases wf with
  | dir distinct named children =>
    refine .dir ?_ (fun p inNew => named p (List.mem_filter.mp inNew).1)
      (fun p inNew => children p (List.mem_filter.mp inNew).1)
    exact distinct.sublist (List.filter_sublist.map Prod.fst)

/-- A change of one directory that keeps it well formed keeps the whole entry well formed. -/
theorem modifyDir {g : List (String × Entry) → List (String × Entry)}
    (keeps : ∀ cs, (Entry.dir cs).WellFormed → (Entry.dir (g cs)).WellFormed) {P : Location} :
    ∀ {e : Entry}, e.WellFormed → (e.modifyDir g P).WellFormed := by
  induction P with
  | nil =>
    intro e wf
    cases wf with
    | file b => exact .file b
    | dir distinct named children => exact keeps _ (.dir distinct named children)
  | cons n rest ih =>
    intro e wf
    cases wf with
    | file b => simpa using WellFormed.file b
    | @dir cs distinct named children =>
      rw [Entry.modifyDir_dir_cons]
      have sameNames : (cs.map fun p => if p.1 = n then (p.1, p.2.modifyDir g rest) else p).map
          Prod.fst = cs.map Prod.fst := by
        simp only [List.map_map]
        apply List.map_congr_left
        intro p _
        by_cases atN : p.1 = n <;> simp [atN]
      refine .dir (by rw [sameNames]; exact distinct) ?_ ?_
      · simp only [List.mem_map]
        rintro _ ⟨p, inCs, rfl⟩
        by_cases atN : p.1 = n <;> simpa [atN] using named p inCs
      · simp only [List.mem_map]
        rintro _ ⟨p, inCs, rfl⟩
        by_cases atN : p.1 = n
        · simpa [atN] using ih (children p inCs)
        · simpa [atN] using children p inCs

/-- What lies at or below a well-formed entry is well formed. -/
theorem get? {e' : Entry} {l : Location} (wf : e.WellFormed) (found : e.get? l = some e') :
    e'.WellFormed := by
  induction l generalizing e with
  | nil =>
    cases found
    exact wf
  | cons m rest ih =>
    cases wf with
    | file b => cases found
    | @dir cs _ _ children =>
      rw [Entry.get?_dir_cons] at found
      cases child : cs.lookup m with
      | none => simp [child] at found
      | some c =>
        rw [child] at found
        exact ih (children _ (mem_of_lookup_eq_some child)) found

/-- The names down to anything below a well-formed entry are proper. -/
theorem proper {l : Location} (wf : e.WellFormed) (found : (e.get? l).isSome) : l.Proper := by
  induction l generalizing e with
  | nil => exact fun _ inNil => absurd inNil List.not_mem_nil
  | cons m rest ih =>
    cases wf with
    | file b => simp [Entry.get?_file_cons] at found
    | @dir cs _ named children =>
      rw [Entry.get?_dir_cons] at found
      cases child : cs.lookup m with
      | none => simp [child] at found
      | some c =>
        rw [child] at found
        have mem := mem_of_lookup_eq_some child
        intro x inL
        rcases List.mem_cons.mp inL with rfl | inRest
        · exact named _ mem
        · exact ih (children _ mem) found x inRest

end Entry.WellFormed

/-! ### Deciding well-formedness -/

mutual

/-- Checks an entry for well-formedness, so that it can be decided on a given tree. -/
def Entry.isWellFormed : Entry → Bool
  | .file _ => true
  | .link _ => false
  | .dir cs => decide (cs.map Prod.fst).Nodup && Entry.childrenWellFormed cs

/-- Checks the entries of a directory: each has a proper name and is well formed. -/
def Entry.childrenWellFormed : List (String × Entry) → Bool
  | [] => true
  | (n, c) :: rest => decide (ProperName n) && c.isWellFormed && Entry.childrenWellFormed rest

end

mutual

/-- An entry the check accepts is well formed. -/
theorem Entry.WellFormed.of_isWellFormed : ∀ {e : Entry}, e.isWellFormed = true → e.WellFormed
  | .file b, _ => .file b
  | .link _, accepted => by simp [Entry.isWellFormed] at accepted
  | .dir cs, accepted => by
    simp only [Entry.isWellFormed, Bool.and_eq_true, decide_eq_true_eq] at accepted
    obtain ⟨distinct, children⟩ := accepted
    exact .dir distinct (fun p mem => (Entry.WellFormed.of_childrenWellFormed children p mem).1)
      fun p mem => (Entry.WellFormed.of_childrenWellFormed children p mem).2

theorem Entry.WellFormed.of_childrenWellFormed : ∀ {cs : List (String × Entry)},
    Entry.childrenWellFormed cs = true → ∀ p ∈ cs, ProperName p.1 ∧ p.2.WellFormed
  | [], _, _, mem => absurd mem List.not_mem_nil
  | (n, c) :: rest, accepted, p, mem => by
    simp only [Entry.childrenWellFormed, Bool.and_eq_true, decide_eq_true_eq] at accepted
    obtain ⟨⟨name, entry⟩, others⟩ := accepted
    rcases List.mem_cons.mp mem with rfl | inRest
    · exact ⟨name, Entry.WellFormed.of_isWellFormed entry⟩
    · exact Entry.WellFormed.of_childrenWellFormed others p inRest

end

namespace FileTree

variable {t t' : FileTree} {p : String} {g : List (String × Entry) → List (String × Entry)}

/-- A tree the check accepts is well formed. -/
theorem WellFormed.of_isWellFormed (accepted : t.root.isWellFormed = true) : t.WellFormed :=
  Entry.WellFormed.of_isWellFormed accepted

theorem WellFormed.get? {l : Location} {e : Entry} (wf : t.WellFormed) (found : t.get? l = some e) :
    e.WellFormed :=
  Entry.WellFormed.get? wf found

/-- A well-formed tree holds no link. -/
theorem WellFormed.noLinks (wf : t.WellFormed) : t.NoLinks := by
  intro l target found
  cases wf.get? found

/-- A place that holds something in a well-formed tree is a sequence of proper names. -/
theorem WellFormed.proper {l : Location} (wf : t.WellFormed) (found : (t.get? l).isSome) :
    l.Proper :=
  Entry.WellFormed.proper wf found

/-- In a well-formed tree every entry of a directory is found under its own name. -/
theorem WellFormed.get?_child {D : Location} {cs : List (String × Entry)} {p : String × Entry}
    (wf : t.WellFormed) (atD : t.get? D = some (.dir cs)) (mem : p ∈ cs) :
    t.get? (D ++ [p.1]) = some p.2 := by
  rw [get?_append_singleton_of_dir atD]
  exact (wf.get? atD).lookup_of_mem mem

theorem root_modifyDir (t : FileTree) (P : Location) (g : List (String × Entry) → List (String × Entry)) :
    (t.modifyDir P g).root = t.root.modifyDir g P := by
  have atRoot := get?_modifyDir t P g []
  simpa [get?, root] using atRoot

theorem WellFormed.modifyDir (wf : t.WellFormed) {P : Location}
    (keeps : ∀ cs, (Entry.dir cs).WellFormed → (Entry.dir (g cs)).WellFormed) :
    (t.modifyDir P g).WellFormed := by
  unfold FileTree.WellFormed
  rw [root_modifyDir]
  exact Entry.WellFormed.modifyDir keeps wf

theorem properName_of_parentAndName {P : Location} {n : String}
    (h : t.parentAndName p = .ok (P, some n)) : ProperName n := by
  obtain ⟨-, init, steps, -⟩ := parentAndName_eq_ok_some h
  exact properName_of_down_mem (p := p) (by rw [steps]; simp)

theorem WellFormed.makeDir (wf : t.WellFormed) (h : t.makeDir p = .ok t') : t'.WellFormed := by
  obtain ⟨P, n, named, -, -, rfl⟩ := makeDir_eq_ok h
  have empty : (Entry.dir []).WellFormed := .dir List.nodup_nil (by simp) (by simp)
  exact wf.modifyDir fun _ wfDir => wfDir.setChild (properName_of_parentAndName named) empty

theorem WellFormed.createDirAll (wf : t.WellFormed) (h : t.createDirAll p = .ok t') :
    t'.WellFormed := by
  have made := createDirAll_madeDirs h
  clear h
  induction made with
  | refl => exact wf
  | tail _ made wf' => exact wf'.makeDir made.choose_spec

theorem WellFormed.writeFile {bytes : ByteArray} (wf : t.WellFormed)
    (h : t.writeFile p bytes = .ok t') : t'.WellFormed := by
  obtain ⟨P, n, named, -, -, -, rfl⟩ := writeFile_eq_ok wf.noLinks h
  exact wf.modifyDir fun _ wfDir => wfDir.setChild (properName_of_parentAndName named) (.file bytes)

theorem WellFormed.putFile {bytes : ByteArray} (wf : t.WellFormed)
    (h : t.putFile p bytes = .ok t') : t'.WellFormed := by
  unfold FileTree.putFile at h
  split at h
  · rename_i t₁ made
    exact (wf.createDirAll made).writeFile h
  · cases h

theorem WellFormed.remove (wf : t.WellFormed) : (t.remove p).WellFormed := by
  unfold FileTree.remove
  split
  · split
    · exact wf.modifyDir fun _ wfDir => wfDir.dropChild
    · split
      · exact wf
      · exact wf.modifyDir fun _ wfDir => wfDir.dropChild
    · exact wf
  · exact wf

theorem WellFormed.writeTypes {root : String} {ks : KeywordSet} (wf : t.WellFormed) :
    (writeTypes t root ks).1.WellFormed := by
  unfold KeyIntern.writeTypes
  dsimp only
  split
  · exact wf
  · rename_i t₁ made
    split
    · exact wf.createDirAll made
    · rename_i t₂ written
      exact (wf.createDirAll made).writeFile written

end FileTree

end Files

end KeyIntern
