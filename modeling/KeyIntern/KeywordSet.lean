/-! # Keyword sets

A finite set of keywords kept as a strictly increasing list, so that the set's order is the
byte order of the names and everything rendered from it is reproducible. Main statements:
`mem_insert` and `mem_union` give membership after each operation.
-/

namespace KeyIntern

/-- Inserts `k` into a strictly increasing list at its place, unless it is there already. -/
def insertSorted (k : String) : List String → List String
  | [] => [k]
  | x :: xs => if k < x then k :: x :: xs else if k = x then x :: xs else x :: insertSorted k xs

theorem mem_insertSorted {k y : String} {xs : List String} :
    y ∈ insertSorted k xs ↔ y = k ∨ y ∈ xs := by
  induction xs with
  | nil => simp [insertSorted]
  | cons x xs ih =>
    simp only [insertSorted]
    split
    · simp
    · split
      · rename_i h; subst h; simp
      · simp only [List.mem_cons, ih]; grind

theorem pairwise_insertSorted {k : String} {xs : List String} (h : xs.Pairwise (· < ·)) :
    (insertSorted k xs).Pairwise (· < ·) := by
  induction xs with
  | nil => simp [insertSorted]
  | cons x xs ih =>
    simp only [insertSorted]
    rw [List.pairwise_cons] at h
    split
    · rename_i hk
      refine List.Pairwise.cons ?_ (List.Pairwise.cons h.1 h.2)
      intro y hy
      simp only [List.mem_cons] at hy
      rcases hy with rfl | hy
      · exact hk
      · exact String.lt_trans hk (h.1 y hy)
    · split
      · exact List.Pairwise.cons h.1 h.2
      · rename_i hk hne
        refine List.Pairwise.cons ?_ (ih h.2)
        intro y hy
        rw [mem_insertSorted] at hy
        rcases hy with rfl | hy
        · have hle := String.not_lt.mp hk
          have hne' : x ≠ y := fun e => hne e.symm
          grind [String.not_lt, String.le_antisymm, String.lt_irrefl]
        · exact h.1 y hy

/-- A set of keywords; `toList` lists them in increasing order. -/
structure KeywordSet where
  toList : List String
  sorted : toList.Pairwise (· < ·)

namespace KeywordSet

/-- The set without keywords. -/
def empty : KeywordSet := ⟨[], List.Pairwise.nil⟩

instance : EmptyCollection KeywordSet := ⟨empty⟩

instance : Membership String KeywordSet := ⟨fun s k => k ∈ s.toList⟩

/-- Adds one keyword. -/
def insert (s : KeywordSet) (k : String) : KeywordSet :=
  ⟨insertSorted k s.toList, pairwise_insertSorted s.sorted⟩

/-- The set of the keywords of a list. -/
def ofList (ks : List String) : KeywordSet :=
  ks.foldl insert empty

/-- The keywords of both sets. -/
def union (a b : KeywordSet) : KeywordSet :=
  b.toList.foldl insert a

/-- Whether a keyword is in the set. -/
def contains (s : KeywordSet) (k : String) : Bool :=
  s.toList.contains k

/-- The number of keywords. -/
def size (s : KeywordSet) : Nat :=
  s.toList.length

/-- Whether the set has no keyword. -/
def isEmpty (s : KeywordSet) : Bool :=
  s.toList.isEmpty

@[simp] theorem mem_def {s : KeywordSet} {k : String} : k ∈ s ↔ k ∈ s.toList := Iff.rfl

@[simp] theorem not_mem_empty (k : String) : k ∉ empty := by
  simp [empty]

@[simp] theorem mem_insert {s : KeywordSet} {k y : String} : y ∈ s.insert k ↔ y = k ∨ y ∈ s := by
  simp [insert, mem_insertSorted]

theorem mem_foldl_insert {s : KeywordSet} {ks : List String} {y : String} :
    y ∈ ks.foldl insert s ↔ y ∈ s ∨ y ∈ ks := by
  induction ks generalizing s with
  | nil => simp
  | cons k ks ih => simp only [List.foldl_cons, ih, mem_insert, List.mem_cons]; grind

@[simp] theorem mem_ofList {ks : List String} {y : String} : y ∈ ofList ks ↔ y ∈ ks := by
  rw [ofList, mem_foldl_insert]
  simp [empty]

@[simp] theorem mem_union {a b : KeywordSet} {y : String} : y ∈ a.union b ↔ y ∈ a ∨ y ∈ b := by
  rw [union, mem_foldl_insert]
  simp

end KeywordSet

end KeyIntern
