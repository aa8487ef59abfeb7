import Mathlib.Data.List.Sort
import Mathlib.Data.String.Basic
import KeyIntern.KeywordSet

/-! # Laws of keyword sets

A keyword set is kept as a strictly increasing list, so two sets with the same keywords are the
same list. Main statement: `KeywordSet.ext`; the laws of insertion and union below follow from
it by comparing members, whatever order the keywords arrived in.
-/

namespace KeyIntern.KeywordSet

/-- Two keyword sets with the same members are equal: a strictly increasing list is determined
by its members. -/
theorem ext {a b : KeywordSet} (same : ∀ k, k ∈ a ↔ k ∈ b) : a = b := by
  obtain ⟨xs, sortedXs⟩ := a
  obtain ⟨ys, sortedYs⟩ := b
  have equal : xs = ys := sortedXs.eq_of_mem_iff sortedYs same
  subst equal
  rfl

theorem insert_comm (s : KeywordSet) (k j : String) :
    (s.insert k).insert j = (s.insert j).insert k := by
  apply ext
  intro y
  simp only [mem_insert]
  tauto

theorem eq_empty_of_forall_not_mem {s : KeywordSet} (none : ∀ k, k ∉ s) : s = empty := by
  apply ext
  intro k
  simp only [not_mem_empty, iff_false]
  exact none k

/-- A union no larger than its left side adds nothing to it. -/
theorem mem_of_size_union {a b : KeywordSet} (same : (a.union b).size = a.size) {k : String}
    (inB : k ∈ b) : k ∈ a := by
  by_contra notInA
  have distinct : a.toList.Nodup := a.sorted.imp ne_of_lt
  -- the union holds `k` besides every keyword of `a`, so it is larger than `a`
  have larger : (k :: a.toList).Subperm (a.union b).toList := by
    refine List.subperm_of_subset (List.nodup_cons.mpr ⟨notInA, distinct⟩) fun x inX => ?_
    rcases List.mem_cons.mp inX with rfl | inA
    · exact mem_union.mpr (.inr inB)
    · exact mem_union.mpr (.inl inA)
  have lengths := larger.length_le
  simp only [size] at same
  simp only [List.length_cons, same] at lengths
  omega

end KeyIntern.KeywordSet
