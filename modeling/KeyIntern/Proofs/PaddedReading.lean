import KeyIntern.Proofs.ReaderSteps

/-! # Reading through inserted blank lines

Two JSON texts are compared that differ only in blank lines: the second has runs of blanks where
a line of the first starts, and may go on after the first ends with a line feed and blanks.
`Padded` says this of the bytes left at two positions, and `Related` of two positions that are
not at a line start.

A reader agrees on the two texts (`Agrees`) when from related positions it answers the same
value at related positions on both, or fails on both. The primitives agree as long as they do
not read a line feed outside the blanks: blanks are only ever skipped all at once
(`Matches.skipBlanks_bind`), and every reader that meets a line feed anywhere else fails, so the
lines inserted after it are never looked at. Loops agree round by round; their budgets differ
on the two texts, but both are enough (`Agrees.loop`).
-/

namespace KeyIntern.Json.Reader

variable {α β σ : Type}

/-! ## Texts with blank lines inserted -/

/-- The second list of bytes is the first with blanks inserted where a line starts, and with a
line feed and blanks after its end. `lineStart` says whether the first list starts a line: after
a line feed, or at the start of the text. -/
inductive Padded : Bool → List UInt8 → List UInt8 → Prop
  | nil (lineStart : Bool) : Padded lineStart [] []
  | tail (lineStart : Bool) {r : List UInt8} (blank : ∀ x ∈ r, isBlank x = true) :
      Padded lineStart [] (0x0A :: r)
  | run {xs ys r : List UInt8} (blank : ∀ x ∈ r, isBlank x = true) (rest : Padded true xs ys) :
      Padded true xs (r ++ ys)
  | byte (lineStart : Bool) (x : UInt8) {xs ys : List UInt8} (rest : Padded (x == 0x0A) xs ys) :
      Padded lineStart (x :: xs) (x :: ys)

theorem dropWhile_blanks_append {r : List UInt8} (blank : ∀ x ∈ r, isBlank x = true)
    (ys : List UInt8) : (r ++ ys).dropWhile isBlank = ys.dropWhile isBlank := by
  induction r with
  | nil => rfl
  | cons x r ih =>
    rw [List.cons_append, List.dropWhile_cons_of_pos (blank x List.mem_cons_self)]
    exact ih fun y mem => blank y (List.mem_cons_of_mem x mem)

theorem dropWhile_eq_cons {p : UInt8 → Bool} {l ys : List UInt8} {y : UInt8}
    (h : l.dropWhile p = y :: ys) : p y = false := by
  induction l with
  | nil => cases h
  | cons x xs ih =>
    cases px : p x with
    | true =>
      rw [List.dropWhile_cons_of_pos px] at h
      exact ih h
    | false =>
      rw [List.dropWhile_cons_of_neg (by simp [px])] at h
      cases h
      exact px

namespace Padded

/-- Away from a line start, nothing is inserted before a byte of the first list. -/
theorem cons_left {s : Bool} {xs ys : List UInt8} (h : Padded s xs ys) (mid : s = false)
    {x : UInt8} {xs' : List UInt8} (shape : xs = x :: xs') :
    ∃ ys', ys = x :: ys' ∧ Padded (x == 0x0A) xs' ys' := by
  cases h with
  | nil => cases shape
  | tail _ _ => cases shape
  | run _ _ => cases mid
  | byte _ y rest =>
    cases shape
    exact ⟨_, rfl, rest⟩

/-- Away from a line start, a byte of the second list other than a line feed is one of the first. -/
theorem cons_right {s : Bool} {xs ys : List UInt8} (h : Padded s xs ys) (mid : s = false)
    {x : UInt8} {ys' : List UInt8} (shape : ys = x :: ys') (notFeed : x ≠ 0x0A) :
    ∃ xs', xs = x :: xs' ∧ Padded false xs' ys' := by
  cases h with
  | nil => cases shape
  | tail _ _ =>
    cases shape
    exact absurd rfl notFeed
  | run _ _ => cases mid
  | byte _ y rest =>
    cases shape
    exact ⟨_, rfl, by rwa [beq_false_of_ne notFeed] at rest⟩

/-- Where the first list has ended, the second has too, or goes on with a line feed. -/
theorem nil_left {s : Bool} {xs ys : List UInt8} (h : Padded s xs ys) (mid : s = false)
    (ended : xs = []) : ys = [] ∨ ∃ r, ys = 0x0A :: r := by
  cases h with
  | nil => exact Or.inl rfl
  | tail _ _ => exact Or.inr ⟨_, rfl⟩
  | run _ _ => cases mid
  | byte _ _ _ => cases ended

/-- Skipping blanks on both lists leaves them padded, away from a line start. -/
theorem dropBlanks {s : Bool} {xs ys : List UInt8} (h : Padded s xs ys) :
    Padded false (xs.dropWhile isBlank) (ys.dropWhile isBlank) := by
  induction h with
  | nil => exact .nil false
  | @tail _ r blank =>
    have allBlank : ∀ x ∈ (0x0A : UInt8) :: r, isBlank x = true := by
      intro x mem
      rcases List.mem_cons.mp mem with feed | inside
      · rw [feed]; rfl
      · exact blank x inside
    have gone := dropWhile_blanks_append allBlank []
    rw [List.append_nil, List.dropWhile_nil] at gone
    rw [List.dropWhile_nil, gone]
    exact .nil false
  | run blank _ ih => rwa [dropWhile_blanks_append blank]
  | byte _ x rest ih =>
    cases blank : isBlank x with
    | true => rwa [List.dropWhile_cons_of_pos blank, List.dropWhile_cons_of_pos blank]
    | false =>
      rw [List.dropWhile_cons_of_neg (by simp [blank]), List.dropWhile_cons_of_neg (by simp [blank])]
      exact .byte false x rest

end Padded

/-! ## Related positions -/

/-- Positions of the two texts whose rests are padded, away from a line start. -/
def Related (b1 b2 : ByteArray) (i1 i2 : Nat) : Prop :=
  Padded false (rest b1 i1) (rest b2 i2)

section Related

variable {b1 b2 : ByteArray} {i1 i2 : Nat}

theorem rest_eq_cons {b : ByteArray} {i : Nat} {x : UInt8} (here : b[i]? = some x) :
    rest b i = x :: rest b (i + 1) := by
  rw [rest_succ]
  rw [getElem?_eq_head?_rest] at here
  cases listed : rest b i with
  | nil => rw [listed] at here; cases here
  | cons y ys => rw [listed] at here; cases here; rfl

theorem rest_eq_nil {b : ByteArray} {i : Nat} (atEnd : b[i]? = none) : rest b i = [] := by
  rw [getElem?_eq_head?_rest, List.head?_eq_none_iff] at atEnd
  exact atEnd

/-- A byte other than a line feed is the same on both texts and is stepped over on both. -/
theorem Related.step (related : Related b1 b2 i1 i2) {x : UInt8} (here : b1[i1]? = some x)
    (notFeed : x ≠ 0x0A) : b2[i2]? = some x ∧ Related b1 b2 (i1 + 1) (i2 + 1) := by
  obtain ⟨ys, listed, rest⟩ := related.cons_left rfl (rest_eq_cons here)
  refine ⟨by rw [getElem?_eq_head?_rest, listed]; rfl, ?_⟩
  rw [Related, rest_succ, rest_succ, rest_eq_cons here, listed]
  rwa [beq_false_of_ne notFeed] at rest

theorem Related.step_right (related : Related b1 b2 i1 i2) {x : UInt8} (here : b2[i2]? = some x)
    (notFeed : x ≠ 0x0A) : b1[i1]? = some x := by
  obtain ⟨xs, listed, _⟩ := related.cons_right rfl (rest_eq_cons here) notFeed
  rw [getElem?_eq_head?_rest, listed]
  rfl

/-- Both texts show the same next byte, or the first has ended where the second goes on with a
line feed. -/
theorem Related.peek (related : Related b1 b2 i1 i2) :
    b1[i1]? = b2[i2]? ∨ (b1[i1]? = none ∧ b2[i2]? = some 0x0A) := by
  cases here : b1[i1]? with
  | some x =>
    obtain ⟨ys, listed, _⟩ := related.cons_left rfl (rest_eq_cons here)
    left
    rw [getElem?_eq_head?_rest b2, listed]
    rfl
  | none =>
    rcases related.nil_left rfl (rest_eq_nil here) with ended | ⟨r, listed⟩
    · left
      rw [getElem?_eq_head?_rest b2, ended]
      rfl
    · right
      rw [getElem?_eq_head?_rest b2, listed]
      exact ⟨rfl, rfl⟩

end Related

/-! ## Readers that agree on the two texts -/

/-- Two outcomes of a reader on the two texts agree: the same answer at related positions, or a
failure on both. -/
inductive Matches (b1 b2 : ByteArray) : Outcome α → Outcome α → Prop
  | ok (a : α) {j1 j2 : Nat} (related : Related b1 b2 j1 j2) : Matches b1 b2 (.ok a j1) (.ok a j2)
  | err (e1 e2 : JsonError) (j1 j2 : Nat) : Matches b1 b2 (.err e1 j1) (.err e2 j2)

/-- A reader that agrees on the two texts from related positions. -/
def Agrees (b1 b2 : ByteArray) (p : Reader α) : Prop :=
  ∀ i1 i2, Related b1 b2 i1 i2 → Matches b1 b2 (p b1 i1) (p b2 i2)

/-- The same, from related positions where the next byte is `c` on both texts. -/
def AgreesAt (b1 b2 : ByteArray) (c : Option UInt8) (p : Reader α) : Prop :=
  ∀ i1 i2, Related b1 b2 i1 i2 → b1[i1]? = c → b2[i2]? = c → Matches b1 b2 (p b1 i1) (p b2 i2)

section Agreement

variable {b1 b2 : ByteArray}

namespace Matches

theorem of_fails {p q : Reader α} (hp : Fails p) (hq : Fails q) (i1 i2 : Nat) :
    Matches b1 b2 (p b1 i1) (q b2 i2) := by
  cases first : p b1 i1 with
  | ok a j => exact absurd first (hp b1 i1 a j)
  | err e1 j1 =>
    cases second : q b2 i2 with
    | ok a j => exact absurd second (hq b2 i2 a j)
    | err e2 j2 => exact .err e1 e2 j1 j2

theorem bind {p : Reader α} {f : α → Reader β} {i1 i2 : Nat}
    (first : Matches b1 b2 (p b1 i1) (p b2 i2)) (hf : ∀ a, Agrees b1 b2 (f a)) :
    Matches b1 b2 ((p >>= f) b1 i1) ((p >>= f) b2 i2) := by
  simp only [bind_apply]
  generalize p b1 i1 = o1 at first ⊢
  generalize p b2 i2 = o2 at first ⊢
  cases first with
  | ok a related => exact hf a _ _ related
  | err e1 e2 j1 j2 => exact .err e1 e2 j1 j2

theorem placing {p : Reader α} {i1 i2 : Nat} (first : Matches b1 b2 (p b1 i1) (p b2 i2)) :
    Matches b1 b2 (placing p b1 i1) (placing p b2 i2) := by
  unfold Reader.placing
  generalize p b1 i1 = o1 at first ⊢
  generalize p b2 i2 = o2 at first ⊢
  cases first with
  | ok a related => exact .ok a related
  | err e1 e2 j1 j2 => exact .err _ _ j1 j2

/-- Readers run from the starts of the two texts answer alike. -/
theorem run {p : Reader α} (first : Matches b1 b2 (p b1 0) (p b2 0)) :
    (p.run b1).toOption = (p.run b2).toOption := by
  unfold Reader.run
  generalize p b1 0 = o1 at first ⊢
  generalize p b2 0 = o2 at first ⊢
  cases first <;> rfl

/-- Skipping blanks agrees from any padded positions, at a line start or not. -/
theorem skipBlanks_bind {f : Option UInt8 → Reader α} {s : Bool} {i1 i2 : Nat}
    (padded : Padded s (rest b1 i1) (rest b2 i2)) (hf : ∀ c, AgreesAt b1 b2 c (f c)) :
    Matches b1 b2 ((skipBlanks >>= f) b1 i1) ((skipBlanks >>= f) b2 i2) := by
  simp only [bind_apply, skipBlanks_eq]
  have dropped := padded.dropBlanks
  have related : Related b1 b2 (i1 + ((rest b1 i1).takeWhile isBlank).length)
      (i2 + ((rest b2 i2).takeWhile isBlank).length) := by
    rw [Related, rest_add, rest_add, drop_length_takeWhile, drop_length_takeWhile]
    exact dropped
  -- both texts stop at the same byte, since a line feed would have been skipped
  have same : ((rest b1 i1).dropWhile isBlank).head? = ((rest b2 i2).dropWhile isBlank).head? := by
    rcases related.peek with same | ⟨_, feed⟩
    · rwa [getElem?_eq_head?_rest, getElem?_eq_head?_rest b2, rest_add, rest_add,
        drop_length_takeWhile, drop_length_takeWhile] at same
    · rw [getElem?_eq_head?_rest, rest_add, drop_length_takeWhile] at feed
      cases listed : (rest b2 i2).dropWhile isBlank with
      | nil => rw [listed] at feed; cases feed
      | cons y ys =>
        rw [listed] at feed
        cases feed
        exact absurd (dropWhile_eq_cons listed) (by decide)
  rw [← same]
  exact hf _ _ _ related (by rw [getElem?_eq_head?_rest, rest_add, drop_length_takeWhile])
    (by rw [getElem?_eq_head?_rest, rest_add, drop_length_takeWhile, same])

end Matches

namespace Agrees

theorem of_fails {p : Reader α} (h : Fails p) : Agrees b1 b2 p :=
  fun i1 i2 _ => Matches.of_fails h h i1 i2

theorem pure (a : α) : Agrees b1 b2 (pure a : Reader α) :=
  fun _ _ related => .ok a related

theorem agreesAt {p : Reader α} (h : Agrees b1 b2 p) (c : Option UInt8) : AgreesAt b1 b2 c p :=
  fun i1 i2 related _ _ => h i1 i2 related

theorem bind {p : Reader α} {f : α → Reader β} (hp : Agrees b1 b2 p) (hf : ∀ a, Agrees b1 b2 (f a)) :
    Agrees b1 b2 (p >>= f) :=
  fun i1 i2 related => (hp i1 i2 related).bind hf

theorem placing {p : Reader α} (hp : Agrees b1 b2 p) : Agrees b1 b2 (placing p) :=
  fun i1 i2 related => (hp i1 i2 related).placing

theorem thenRegardless {p : Reader α} {q : Reader Unit} (hp : Agrees b1 b2 p)
    (hq : Agrees b1 b2 q) : Agrees b1 b2 (thenRegardless p q) := by
  intro i1 i2 related
  unfold Reader.thenRegardless
  have first := hp i1 i2 related
  generalize p b1 i1 = o1 at first ⊢
  generalize p b2 i2 = o2 at first ⊢
  cases first with
  | ok a related' =>
    have second := hq _ _ related'
    dsimp only
    generalize q b1 _ = o1 at second ⊢
    generalize q b2 _ = o2 at second ⊢
    cases second with
    | ok u related'' => exact .ok a related''
    | err e1 e2 k1 k2 => exact .err e1 e2 k1 k2
  | err e1 e2 j1 j2 =>
    dsimp only
    split <;> split <;> exact .err _ _ _ _

theorem skipBlanks_bind {f : Option UInt8 → Reader α} (hf : ∀ c, AgreesAt b1 b2 c (f c)) :
    Agrees b1 b2 (skipBlanks >>= f) :=
  fun _ _ related => Matches.skipBlanks_bind related hf

/-- Looking at the next byte agrees when the reader that goes on agrees at every byte, and where
the first text has ended agrees with itself at a line feed of the second. -/
theorem peek_bind {f : Option UInt8 → Reader α} (hf : ∀ c, AgreesAt b1 b2 c (f c))
    (ends : ∀ i1 i2, Related b1 b2 i1 i2 → b1[i1]? = none → b2[i2]? = some 0x0A →
      Matches b1 b2 (f none b1 i1) (f (some 0x0A) b2 i2)) :
    Agrees b1 b2 (peek >>= f) := by
  intro i1 i2 related
  simp only [bind_apply, peek_apply]
  rcases related.peek with same | ⟨atEnd, feed⟩
  · rw [← same]
    exact hf _ i1 i2 related rfl same.symm
  · rw [atEnd, feed]
    exact ends i1 i2 related atEnd feed

/-- Taking the next byte agrees when every reader that goes on after a line feed or the end fails. -/
theorem next_bind {f : Option UInt8 → Reader α} (hf : ∀ x, x ≠ 0x0A → Agrees b1 b2 (f (some x)))
    (atEnd : Fails (f none)) (afterFeed : Fails (f (some 0x0A))) : Agrees b1 b2 (next >>= f) := by
  intro i1 i2 related
  simp only [bind_apply, next_apply]
  cases here : b1[i1]? with
  | some x =>
    by_cases feed : x = 0x0A
    · cases feed
      rcases related.peek with same | ⟨ended, _⟩
      · rw [← same, here]
        exact Matches.of_fails afterFeed afterFeed _ _
      · rw [here] at ended
        cases ended
    · obtain ⟨there, stepped⟩ := related.step here feed
      rw [there]
      exact hf x feed _ _ stepped
  | none =>
    rcases related.peek with same | ⟨_, feed⟩
    · rw [← same, here]
      exact Matches.of_fails atEnd atEnd _ _
    · rw [feed]
      exact Matches.of_fails atEnd afterFeed _ _

/-- A loop agrees when its rounds agree: both texts run within their own budgets, and each is
enough for the other's. -/
theorem go {step : σ → Reader (σ ⊕ α)} (agree : ∀ s, Agrees b1 b2 (step s)) :
    ∀ n s, Agrees b1 b2 (loop.go step n s)
  | 0, s => fun i1 i2 _ => .err _ _ i1 i2
  | n + 1, s => by
    intro i1 i2 related
    have round := agree s i1 i2 related
    generalize first : step s b1 i1 = o1 at round
    generalize second : step s b2 i2 = o2 at round
    cases round with
    | ok r related' =>
      cases r with
      | inl s' =>
        rw [go_inl first, go_inl second]
        exact go agree n s' _ _ related'
      | inr a =>
        rw [go_inr first, go_inr second]
        exact .ok a related'
    | err e1 e2 j1 j2 =>
      rw [go_err first, go_err second]
      exact .err e1 e2 j1 j2

theorem loop {rounds : Nat → Nat} {step : σ → Reader (σ ⊕ α)} (μ : σ → Nat → Nat)
    (progress : ∀ s b i s' j, step s b i = .ok (.inl s') j → μ s' (b.size - j) < μ s (b.size - i))
    {init : σ} (enough : ∀ left, μ init left < rounds left) (agree : ∀ s, Agrees b1 b2 (step s)) :
    Agrees b1 b2 (loop rounds step init) := by
  intro i1 i2 related
  have budget1 : μ init (b1.size - i1) < μ init (b1.size - i1) + μ init (b2.size - i2) + 1 := by
    omega
  have budget2 : μ init (b2.size - i2) < μ init (b1.size - i1) + μ init (b2.size - i2) + 1 := by
    omega
  rw [loop_stable μ progress enough b1 i1 budget1, loop_stable μ progress enough b2 i2 budget2]
  exact go agree _ init i1 i2 related

theorem loop_of_stepsOver {step : σ → Reader (σ ⊕ α)} (stepping : StepsOver step)
    (agree : ∀ s, Agrees b1 b2 (step s)) (init : σ) :
    Agrees b1 b2 (Reader.loop (· + 1) step init) :=
  Agrees.loop (fun _ left => left) stepping.progress (fun left => Nat.lt_succ_self left) agree

end Agrees

namespace AgreesAt

theorem of_fails {p : Reader α} (h : Fails p) (c : Option UInt8) : AgreesAt b1 b2 c p :=
  (Agrees.of_fails h).agreesAt c

theorem bind {c : Option UInt8} {p : Reader α} {f : α → Reader β} (hp : AgreesAt b1 b2 c p)
    (hf : ∀ a, Agrees b1 b2 (f a)) : AgreesAt b1 b2 c (p >>= f) :=
  fun i1 i2 related here there => (hp i1 i2 related here there).bind hf

theorem pure_bind {c : Option UInt8} {a : β} {f : β → Reader α} (h : AgreesAt b1 b2 c (f a)) :
    AgreesAt b1 b2 c ((Pure.pure a : Reader β) >>= f) := h

/-- Stepping over a byte other than a line feed agrees. -/
theorem eat_bind {x : UInt8} (notFeed : x ≠ 0x0A) {f : Unit → Reader α}
    (hf : Agrees b1 b2 (f ())) : AgreesAt b1 b2 (some x) (eat >>= f) := by
  intro i1 i2 related here _
  exact hf _ _ (related.step here notFeed).2

end AgreesAt

end Agreement

end KeyIntern.Json.Reader
