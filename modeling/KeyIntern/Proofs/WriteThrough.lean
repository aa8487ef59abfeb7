import KeyIntern.Proofs.TreeEdits

/-! # Reading back a write, links and all

A write looks its path up as a read does, following links, one at the last name too, with one
budget of links for the whole lookup; only its last step may name a missing entry, the file it is
about to make (`followToWrite`). So in any tree, a file a write made is what a read of the same
path finds. The lookup lands at a file, or at a missing name in a directory (`lands_of_followWith`).
Writing there changes that one place, which held no directory and no link, so the read takes the
steps the write took and ends where it ended (`follow_of_followWith_write`).

Main statement: `readBytes_writeFile`.
-/

namespace KeyIntern.Files.FileTree

variable {t t' : FileTree} {F : Location}

/-! ## Where a write lands -/

/-- A place a write can land at: something is there, or it is a name in a directory. -/
def Lands (t : FileTree) (F : Location) : Prop :=
  (t.get? F).isSome ∨ ∃ P n cs, F = P ++ [n] ∧ t.get? P = some (.dir cs)

/-- The parent of something that is there is there. -/
theorem isSome_get?_dropLast {l : Location} (found : (t.get? l).isSome) :
    (t.get? l.dropLast).isSome := by
  rcases l.eq_nil_or_concat with rfl | ⟨P, n, rfl⟩
  · exact found
  · rw [List.concat_eq_append] at found ⊢
    obtain ⟨e, atL⟩ := Option.isSome_iff_exists.mp found
    obtain ⟨cs, atP⟩ := get?_dir_of_get?_append atL
    simp [atP]

/-- A place to write that holds no directory is a name in a directory: the root is one. -/
theorem Lands.parent (lands : t.Lands F) (notDir : t.nodeAt F ≠ some .dir) :
    ∃ P n cs, F = P ++ [n] ∧ t.get? P = some (.dir cs) := by
  rcases lands with found | named
  · rcases F.eq_nil_or_concat with rfl | ⟨P, n, rfl⟩
    · exact absurd (by simp [nodeAt]) notDir
    · rw [List.concat_eq_append] at found ⊢
      obtain ⟨e, atF⟩ := Option.isSome_iff_exists.mp found
      obtain ⟨cs, atP⟩ := get?_dir_of_get?_append atF
      exact ⟨P, n, cs, rfl, atP⟩
  · exact named

/-- A write's lookup from a place that is there, or with steps to take, lands where something is
or at a name in a directory, when every link it meets does. -/
theorem lands_of_followWith {onLink : Location → List Step → Except IoError Location}
    (linked : ∀ c s, (t.get? c).isSome → onLink c s = .ok F → t.Lands F) :
    ∀ {cur : Location} {steps : List Step}, (steps ≠ [] ∨ (t.get? cur).isSome) →
      t.followWith true onLink cur steps = .ok F → t.Lands F
  | cur, [], start, h => by
    simp only [followWith, Except.ok.injEq] at h
    subst h
    exact .inl (start.resolve_left (by simp))
  | cur, s :: rest, _, h => by
    obtain ⟨cs, atCur⟩ := nodeAt_eq_some_dir.mp (nodeAt_of_followWith_cons h)
    have found : (t.get? cur).isSome := by simp [atCur]
    cases s with
    | stay =>
      simp only [followWith, atCur] at h
      exact lands_of_followWith linked (.inr found) h
    | up =>
      simp only [followWith, atCur] at h
      exact lands_of_followWith linked (.inr (isSome_get?_dropLast found)) h
    | down n =>
      cases below : t.get? (cur ++ [n]) with
      | none =>
        -- a missing name is taken only as the last step, in the directory the lookup is in
        simp only [followWith, atCur, below] at h
        split at h
        · cases h
          exact .inr ⟨cur, n, cs, rfl, atCur⟩
        · cases h
      | some e =>
        cases e with
        | link target =>
          -- the link's path is looked up from the root or from the link's directory
          simp only [followWith, atCur, below] at h
          refine linked _ _ ?_ h
          split <;> simp [atCur]
        | file _ | dir _ =>
          simp only [followWith, atCur, below] at h
          exact lands_of_followWith linked (.inr (by simp [below])) h

theorem lands_of_followLink :
    ∀ (budget : Nat) (c : Location) (s : List Step), (t.get? c).isSome →
      t.followLink true budget c s = .ok F → t.Lands F
  | 0, _, _, _, h => by simp [followLink] at h
  | n + 1, _, _, found, h => lands_of_followWith (lands_of_followLink n) (.inr found) h

theorem lands_of_followToWrite {cur : Location} {steps : List Step} (more : steps ≠ [])
    (h : t.followToWrite cur steps = .ok F) : t.Lands F :=
  lands_of_followWith (lands_of_followLink maxLinks) (.inl more) h

/-! ## The same lookup after the write -/

section Written

variable {b : ByteArray} (atF : t'.get? F = some (.file b))
  (wasAt : t.nodeAt F = none ∨ ∃ b₀, t.nodeAt F = some (.file b₀))
  (same : ∀ X, X ≠ F → t'.nodeAt X = t.nodeAt X)
include atF wasAt same

/-- A write's lookup in `t` that lands at `F` is a lookup in `t'` that ends at `F`, where `t'`
holds a file at `F` and what `t` holds everywhere else, and `t` held no directory and no link at
`F`; each link leads on as it did. -/
theorem follow_of_followWith_write {onLink onLink' : Location → List Step → Except IoError Location}
    (linked : ∀ c s, onLink c s = .ok F → onLink' c s = .ok F) :
    ∀ {cur : Location} {steps : List Step}, t.followWith true onLink cur steps = .ok F →
      t'.followWith false onLink' cur steps = .ok F
  | cur, [], h => by simpa [followWith] using h
  | cur, s :: rest, h => by
    have isDir : t.nodeAt cur = some .dir := nodeAt_of_followWith_cons h
    -- the lookup leaves only directories, so never the written place
    have notWritten : ∀ {X}, t.nodeAt X = some .dir ∨ (∃ target, t.nodeAt X = some (.link target)) →
        X ≠ F := by
      rintro X atX rfl
      rcases wasAt with missing | ⟨b₀, isFile⟩ <;> rcases atX with isDir | ⟨target, isLink⟩ <;>
        simp_all
    obtain ⟨cs, atCur⟩ := nodeAt_eq_some_dir.mp isDir
    obtain ⟨cs', atCur'⟩ := nodeAt_eq_some_dir.mp ((same cur (notWritten (.inl isDir))).trans isDir)
    cases s with
    | stay | up =>
      simp only [followWith, atCur] at h
      simp only [followWith, atCur']
      exact follow_of_followWith_write linked h
    | down n =>
      cases below : t.get? (cur ++ [n]) with
      | none =>
        -- a missing name ends the lookup, at the written place
        simp only [followWith, atCur, below] at h
        split at h
        · rename_i last
          cases h
          have ended : rest = [] := by simpa using last
          subst ended
          simp [followWith, atCur', atF]
        · cases h
      | some e =>
        cases e with
        | link target =>
          have away := notWritten (.inr ⟨target, nodeAt_eq_some_link.mpr below⟩)
          have below' : t'.get? (cur ++ [n]) = some (.link target) :=
            nodeAt_eq_some_link.mp ((same _ away).trans (nodeAt_eq_some_link.mpr below))
          simp only [followWith, atCur, below] at h
          simp only [followWith, atCur', below']
          exact linked _ _ h
        | dir cs₁ =>
          have isDir₁ : t.nodeAt (cur ++ [n]) = some .dir := nodeAt_eq_some_dir.mpr ⟨cs₁, below⟩
          obtain ⟨cs₁', below'⟩ :=
            nodeAt_eq_some_dir.mp ((same _ (notWritten (.inl isDir₁))).trans isDir₁)
          simp only [followWith, atCur, below] at h
          simp only [followWith, atCur', below']
          exact follow_of_followWith_write linked h
        | file b₁ =>
          simp only [followWith, atCur, below] at h
          by_cases written : cur ++ [n] = F
          · -- the written file ends the lookup: no step can leave a file
            subst written
            have ended : rest = [] := by
              cases rest with
              | nil => rfl
              | cons _ _ =>
                have := nodeAt_of_followWith_cons h
                simp [nodeAt, below] at this
            subst ended
            simp [followWith, atCur', atF]
          · have below' : t'.get? (cur ++ [n]) = some (.file b₁) :=
              nodeAt_eq_some_file.mp ((same _ written).trans (nodeAt_eq_some_file.mpr below))
            simp only [followWith, atCur', below']
            exact follow_of_followWith_write linked h

theorem followLink_of_write :
    ∀ (budget : Nat) (c : Location) (s : List Step), t.followLink true budget c s = .ok F →
      t'.followLink false budget c s = .ok F
  | 0, _, _, h => by simp [followLink] at h
  | n + 1, _, _, h => follow_of_followWith_write atF wasAt same (followLink_of_write n) h

theorem follow_of_followToWrite {cur : Location} {steps : List Step}
    (h : t.followToWrite cur steps = .ok F) : t'.follow cur steps = .ok F :=
  follow_of_followWith_write atF wasAt same (followLink_of_write atF wasAt same maxLinks) h

end Written

/-! ## Reading back -/

/-- After a file is put where a write's lookup of a path lands, a read of the path finds it. -/
theorem readBytes_putFileAt {p : String} {bytes : ByteArray} {P : Location} {n : String}
    {cs : List (String × Entry)} (notEmpty : p.isEmpty = false)
    (fileOnly : (Route.ofText p).dirOnly = false)
    (walk : t.followToWrite (t.start (Route.ofText p)) (Route.ofText p).steps = .ok (P ++ [n]))
    (atP : t.get? P = some (.dir cs))
    (wasAt : t.nodeAt (P ++ [n]) = none ∨ ∃ b₀, t.nodeAt (P ++ [n]) = some (.file b₀)) :
    (t.putFileAt (P ++ [n]) bytes).readBytes p = .ok bytes := by
  have put : t.putFileAt (P ++ [n]) bytes = t.modifyDir P (setChild n (.file bytes)) := by
    simp [putFileAt]
  have isDir : t.nodeAt P = some .dir := nodeAt_eq_some_dir.mpr ⟨cs, atP⟩
  have notDir : t.nodeAt (P ++ [n]) ≠ some .dir := nodeAt_ne_dir_of_fileOrMissing wasAt
  have written := nodeAt_setChild (n := n) (e := .file bytes) isDir (fun _ _ => rfl)
  have atF : (t.modifyDir P (setChild n (.file bytes))).get? (P ++ [n]) = some (.file bytes) :=
    nodeAt_eq_some_file.mp (by rw [written]; simp)
  -- nothing was below the written place, and nothing is now
  have same : ∀ X, X ≠ P ++ [n] →
      (t.modifyDir P (setChild n (.file bytes))).nodeAt X = t.nodeAt X := by
    intro X other
    rw [written, if_neg other]
    split
    · rename_i below
      exact (nodeAt_eq_none_of_below notDir below other).symm
    · rfl
  have walk' := follow_of_followToWrite atF wasAt same walk
  have sameStart : (t.modifyDir P (setChild n (.file bytes))).start (Route.ofText p) =
      t.start (Route.ofText p) := start_congr (cwd_modifyDir _ _ _) rfl
  rw [put]
  simp [readBytes, entry?, resolve, notEmpty, sameStart, walk', atF, fileOnly]

/-- What a write put is what a read of the same path finds, in any tree. -/
theorem readBytes_writeFile {p : String} {bytes : ByteArray} (h : t.writeFile p bytes = .ok t') :
    t'.readBytes p = .ok bytes := by
  obtain ⟨n, F, notEmpty, last, walk, wasAt, fileOnly, rfl⟩ := writeFile_cases h
  have more : (Route.ofText p).steps ≠ [] := fun none => by simp [none] at last
  -- the lookup lands at a file, or at a missing name in a directory
  obtain ⟨P, m, cs, rfl, atP⟩ :=
    (lands_of_followToWrite more walk).parent (nodeAt_ne_dir_of_fileOrMissing wasAt)
  exact readBytes_putFileAt notEmpty fileOnly walk atP wasAt

end KeyIntern.Files.FileTree
