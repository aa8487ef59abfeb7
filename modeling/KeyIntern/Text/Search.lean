/-! # Searching text

Occurrence of a pattern inside a text, and the split of a text at the first occurrence of a
pattern, both over lists of characters. Main statements: `splitAtFirst_eq_some` says a split
puts the pattern back between its two parts, and `splitAtFirst_append` that a pattern whose first
character does not come back in it is found right after a text that does not hold it.
-/

namespace KeyIntern.Text

/-- Whether `pat` occurs in `s` as a contiguous block; the empty pattern occurs everywhere. -/
def occursIn (pat : List Char) : List Char → Bool
  | [] => pat.isEmpty
  | c :: rest => pat.isPrefixOf (c :: rest) || occursIn pat rest

theorem occursIn_iff {pat s : List Char} : occursIn pat s = true ↔ pat <:+: s := by
  induction s with
  | nil => simp [occursIn, List.isEmpty_iff]
  | cons c rest ih => simp [occursIn, ih, List.infix_cons_iff, List.isPrefixOf_iff_prefix]

/-- Splits `s` at the first occurrence of `pat` into the text before it and the text after it. -/
def splitAtFirst (pat : List Char) : List Char → Option (List Char × List Char)
  | [] => if pat.isEmpty then some ([], []) else none
  | c :: rest =>
    if pat.isPrefixOf (c :: rest) then some ([], (c :: rest).drop pat.length)
    else (splitAtFirst pat rest).map fun (before, after) => (c :: before, after)

theorem splitAtFirst_eq_some {pat s before after : List Char}
    (h : splitAtFirst pat s = some (before, after)) : s = before ++ pat ++ after := by
  induction s generalizing before after with
  | nil =>
    simp only [splitAtFirst] at h
    split at h
    · simp_all
    · simp at h
  | cons c rest ih =>
    simp only [splitAtFirst] at h
    split at h
    · rename_i hp
      simp only [Option.some.injEq, Prod.mk.injEq] at h
      obtain ⟨rfl, rfl⟩ := h
      obtain ⟨t, ht⟩ := List.isPrefixOf_iff_prefix.mp hp
      simp [← ht]
    · obtain ⟨⟨b, a⟩, hs, he⟩ := Option.map_eq_some_iff.mp h
      simp only [Prod.mk.injEq] at he
      obtain ⟨rfl, rfl⟩ := he
      simp [ih hs]

theorem splitAtFirst_eq_none {pat s : List Char} (nonempty : pat ≠ []) (absent : ¬ pat <:+: s) :
    splitAtFirst pat s = none := by
  induction s with
  | nil => simp [splitAtFirst, List.isEmpty_iff, nonempty]
  | cons c rest ih =>
    have notPrefix : pat.isPrefixOf (c :: rest) = false := by
      rw [Bool.eq_false_iff]
      exact fun isPrefix => absent (List.isPrefixOf_iff_prefix.mp isPrefix).isInfix
    have restAbsent : ¬ pat <:+: rest := fun inRest =>
      absent (inRest.trans (List.suffix_cons c rest).isInfix)
    simp [splitAtFirst, notPrefix, ih restAbsent]

/-- A pattern whose first character does not come back in it is found first right after a text
that does not hold it. -/
theorem splitAtFirst_append {c : Char} {rest pre post : List Char} (fresh : c ∉ rest)
    (absent : ¬ (c :: rest) <:+: pre) :
    splitAtFirst (c :: rest) (pre ++ (c :: rest) ++ post) = some (pre, post) := by
  induction pre with
  | nil => simp [splitAtFirst, List.isPrefixOf_iff_prefix]
  | cons x pre ih =>
    -- an occurrence starting inside `x :: pre` would hold `c` again further on
    have notPrefix : (c :: rest).isPrefixOf (x :: (pre ++ (c :: rest) ++ post)) = false := by
      rw [Bool.eq_false_iff]
      intro early
      rw [List.isPrefixOf_iff_prefix, ← List.cons_append, ← List.cons_append,
        List.append_assoc] at early
      rcases List.prefix_or_prefix_of_prefix early
          (List.prefix_append (x :: pre) ((c :: rest) ++ post)) with inside | overlap
      · exact absent inside.isInfix
      · obtain ⟨m, split⟩ := overlap
        have early' : x :: pre ++ m <+: x :: pre ++ ((c :: rest) ++ post) := by
          rw [split]
          exact early
        have rest' := (List.prefix_append_right_inj (x :: pre)).mp early'
        cases m with
        | nil =>
          simp only [List.append_nil, List.cons.injEq] at split
          obtain ⟨rfl, rfl⟩ := split
          exact absent (List.infix_refl _)
        | cons y m =>
          obtain rfl : y = c := by simpa using rest'.head
          simp only [List.cons_append, List.cons.injEq] at split
          exact fresh (split.2 ▸ by simp)
    have restAbsent : ¬ (c :: rest) <:+: pre := fun inPre =>
      absent (inPre.trans (List.suffix_cons x pre).isInfix)
    rw [List.cons_append, List.cons_append, splitAtFirst, if_neg (by rw [notPrefix]; decide),
      ih restAbsent]
    rfl

end KeyIntern.Text
