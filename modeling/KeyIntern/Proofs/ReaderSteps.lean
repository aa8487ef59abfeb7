import KeyIntern.Config

/-! # How far a JSON reader moves, and why its rounds never run out

A reader answers with the index it stopped at. Every reader the settings use only moves forward
(`Forward`), and some answers come only after stepping over at least one byte of the text
(`Strict`): a string after its quote, a key, an element, a number.

A loop runs its rounds on a budget that the bytes left decide. The budget is only a bound: when
every round that goes on lowers a measure of the state and the bytes left, a budget above the
measure gives the same answer as any other budget above it (`go_stable`). For the loops that
step over a byte in every round the measure is the number of bytes left; skipping a value takes
up to three rounds per byte, by the rank of its state (`SkipState.rank`, `skipStep_progress`).

The bytes left at an index (`rest`) make the readers' positions lists: skipping blanks drops the
blanks at the front of them (`skipBlanks_eq`).
-/

namespace KeyIntern.Json

/-- The rank of a state of skipping a value. A round may lower it without reading anything: after
a value it may go on to the next member, and before a member of an array to its value. To keep
or raise it, a round has to step over a byte. -/
def SkipState.rank : SkipState → Nat
  | .value _ _ => 0
  | .member _ _ => 1
  | .after _ _ _ => 2

/-- Whether a round from `s` goes on to a state of no lower rank. -/
def SkipState.keepsRank (s : SkipState) : SkipState ⊕ Unit → Bool
  | .inl s' => decide (s.rank ≤ s'.rank)
  | .inr _ => false

theorem SkipState.rank_le (s : SkipState) : s.rank ≤ 2 := by
  cases s <;> simp [rank]

end KeyIntern.Json

namespace KeyIntern.Json.Reader

variable {α β σ : Type}

/-! ## Running the primitives -/

@[simp] theorem bind_apply (p : Reader α) (f : α → Reader β) (b : ByteArray) (i : Nat) :
    (p >>= f) b i = match p b i with
      | .ok a j => f a b j
      | .err e j => .err e j := rfl

@[simp] theorem pure_apply (a : α) (b : ByteArray) (i : Nat) :
    (pure a : Reader α) b i = .ok a i := rfl

@[simp] theorem peek_apply (b : ByteArray) (i : Nat) : peek b i = .ok b[i]? i := rfl

@[simp] theorem eat_apply (b : ByteArray) (i : Nat) : eat b i = .ok () (i + 1) := rfl

@[simp] theorem next_apply (b : ByteArray) (i : Nat) :
    next b i = match b[i]? with
      | some c => .ok (some c) (i + 1)
      | none => .ok none i := rfl

@[simp] theorem fail_apply (k : ErrorKind) (b : ByteArray) (i : Nat) :
    (fail k : Reader α) b i = .err ⟨k, some (positionOf b i)⟩ i := rfl

@[simp] theorem failAhead_apply (k : ErrorKind) (b : ByteArray) (i : Nat) :
    (failAhead k : Reader α) b i = .err ⟨k, some (positionOf b (min b.size (i + 1)))⟩ i := rfl

@[simp] theorem failUnplaced_apply (k : ErrorKind) (b : ByteArray) (i : Nat) :
    (failUnplaced k : Reader α) b i = .err ⟨k, none⟩ i := rfl

theorem loop_apply (rounds : Nat → Nat) (step : σ → Reader (σ ⊕ α)) (init : σ) (b : ByteArray)
    (i : Nat) : loop rounds step init b i = loop.go step (rounds (b.size - i)) init b i := rfl

theorem go_zero (step : σ → Reader (σ ⊕ α)) (s : σ) (b : ByteArray) (i : Nat) :
    loop.go step 0 s b i = .err ⟨.eofWhileParsingValue, some (positionOf b i)⟩ i := rfl

theorem go_inl {step : σ → Reader (σ ⊕ α)} {n : Nat} {s s' : σ} {b : ByteArray} {i j : Nat}
    (round : step s b i = .ok (.inl s') j) : loop.go step (n + 1) s b i = loop.go step n s' b j := by
  rw [loop.go]
  simp only [round]

theorem go_inr {step : σ → Reader (σ ⊕ α)} {n : Nat} {s : σ} {a : α} {b : ByteArray} {i j : Nat}
    (round : step s b i = .ok (.inr a) j) : loop.go step (n + 1) s b i = .ok a j := by
  rw [loop.go]
  simp only [round]

theorem go_err {step : σ → Reader (σ ⊕ α)} {n : Nat} {s : σ} {e : JsonError} {b : ByteArray}
    {i j : Nat} (round : step s b i = .err e j) : loop.go step (n + 1) s b i = .err e j := by
  rw [loop.go]
  simp only [round]

theorem placing_eq_ok {p : Reader α} {b : ByteArray} {i j : Nat} {a : α} :
    placing p b i = .ok a j ↔ p b i = .ok a j := by
  unfold placing
  cases p b i <;> simp

theorem thenRegardless_eq_ok {p : Reader α} {q : Reader Unit} {b : ByteArray} {i k : Nat} {a : α} :
    thenRegardless p q b i = .ok a k ↔ ∃ j, p b i = .ok a j ∧ ∃ u, q b j = .ok u k := by
  unfold thenRegardless
  constructor
  · intro h
    split at h
    · rename_i a' j first
      split at h
      · rename_i u k' second
        cases h
        exact ⟨j, first, u, second⟩
      · cases h
    · split at h <;> cases h
  · rintro ⟨j, first, u, second⟩
    simp only [first, second]

/-- A byte that exists lies before the end. -/
theorem lt_size_of_getElem? {b : ByteArray} {i : Nat} {c : UInt8} (h : b[i]? = some c) :
    i < b.size := by
  rcases Nat.lt_or_ge i b.size with inside | outside
  · exact inside
  · rw [getElem?_neg b i (Nat.not_lt.mpr outside)] at h
    cases h

/-! ## The bytes left -/

/-- The bytes of a text from an index on. -/
def rest (b : ByteArray) (i : Nat) : List UInt8 :=
  b.data.toList.drop i

theorem getElem?_eq_head?_rest (b : ByteArray) (i : Nat) : b[i]? = (rest b i).head? := by
  rw [rest, List.head?_drop, Array.getElem?_toList]
  rfl

theorem rest_succ (b : ByteArray) (i : Nat) : rest b (i + 1) = (rest b i).tail := by
  simp [rest, List.tail_drop]

theorem rest_add (b : ByteArray) (i k : Nat) : rest b (i + k) = (rest b i).drop k := by
  simp [rest, List.drop_drop]

theorem size_sub_eq_length_rest (b : ByteArray) (i : Nat) : b.size - i = (rest b i).length := by
  rw [rest, List.length_drop, Array.length_toList]
  rfl

theorem drop_length_takeWhile (p : UInt8 → Bool) (l : List UInt8) :
    l.drop (l.takeWhile p).length = l.dropWhile p :=
  calc l.drop (l.takeWhile p).length
      = (l.takeWhile p ++ l.dropWhile p).drop (l.takeWhile p).length := by
        rw [List.takeWhile_append_dropWhile]
    _ = l.dropWhile p := List.drop_left

/-! ## Blanks -/

/-- Whether a byte is a blank between tokens: a space, line feed, tab or carriage return. -/
def isBlank (c : UInt8) : Bool :=
  c == 0x20 || c == 0x0A || c == 0x09 || c == 0x0D

theorem isBlank_iff {c : UInt8} : isBlank c = true ↔ c = 0x20 ∨ c = 0x0A ∨ c = 0x09 ∨ c = 0x0D := by
  simp [isBlank, or_assoc]

/-- One round of skipping blanks, deciding by `isBlank`. -/
def blankRound (_ : Unit) : Reader (Unit ⊕ Option UInt8) := do
  match ← peek with
  | some c => if isBlank c then eat; return .inl () else return .inr (some c)
  | none => return .inr none

theorem skipBlanks_eq_loop : skipBlanks = loop (· + 1) blankRound () := by
  unfold skipBlanks
  congr
  funext u
  -- the reader matches the four blank bytes one by one; unapplied, its cases can be split
  refine congrArg (peek >>= ·) (funext fun c => ?_)
  split
  case h_5 =>
    cases c with
    | none => rfl
    | some c => simp_all [isBlank]
  all_goals simp [isBlank]

theorem blankRound_blank {b : ByteArray} {i : Nat} {c : UInt8} (here : b[i]? = some c)
    (blank : isBlank c = true) : blankRound () b i = .ok (.inl ()) (i + 1) := by
  simp [blankRound, here, blank]

theorem blankRound_stop {b : ByteArray} {i : Nat} (stop : ∀ c, b[i]? = some c → isBlank c = false) :
    blankRound () b i = .ok (.inr b[i]?) i := by
  cases here : b[i]? with
  | none => simp [blankRound, here]
  | some c => simp [blankRound, here, stop c here]

/-- Skipping blanks stops at the first byte that is no blank, and answers it. -/
theorem skipBlanks_eq (b : ByteArray) (i : Nat) :
    skipBlanks b i = .ok ((rest b i).dropWhile isBlank).head?
      (i + ((rest b i).takeWhile isBlank).length) := by
  rw [skipBlanks_eq_loop, loop_apply, size_sub_eq_length_rest]
  generalize listed : rest b i = l
  induction l generalizing i with
  | nil =>
    have atEnd : b[i]? = none := by rw [getElem?_eq_head?_rest, listed]; rfl
    rw [go_inr (blankRound_stop fun c here => by simp [atEnd] at here), atEnd]
    rfl
  | cons c t ih =>
    have here : b[i]? = some c := by rw [getElem?_eq_head?_rest, listed]; rfl
    by_cases blank : isBlank c = true
    · have after : rest b (i + 1) = t := by rw [rest_succ, listed]; rfl
      rw [List.length_cons, go_inl (blankRound_blank here blank), ih (i + 1) after]
      simp [blank, Nat.add_assoc, Nat.add_comm 1]
    · rw [go_inr (blankRound_stop fun c' here' => by simp_all), here]
      simp [blank]

/-! ## Readers that never move back -/

/-- A reader that answers only at or after where it started. -/
def Forward (p : Reader α) : Prop :=
  ∀ b i a j, p b i = .ok a j → i ≤ j

/-- A reader that never answers. -/
def Fails (p : Reader α) : Prop :=
  ∀ b i a j, p b i ≠ .ok a j

namespace Forward

theorem pure (a : α) : Forward (pure a : Reader α) := by
  intro b i a' j h
  cases h
  exact Nat.le_refl i

theorem peek : Forward peek := by
  intro b i a j h
  cases h
  exact Nat.le_refl i

theorem eat : Forward eat := by
  intro b i a j h
  cases h
  exact Nat.le_succ i

theorem next : Forward next := by
  intro b i a j h
  simp only [next_apply] at h
  split at h <;> cases h
  · exact Nat.le_succ i
  · exact Nat.le_refl i

theorem of_fails {p : Reader α} (h : Fails p) : Forward p :=
  fun b i a j answered => absurd answered (h b i a j)

theorem bind {p : Reader α} {f : α → Reader β} (hp : Forward p) (hf : ∀ a, Forward (f a)) :
    Forward (p >>= f) := by
  intro b i c k h
  simp only [bind_apply] at h
  split at h
  · rename_i a j first
    exact Nat.le_trans (hp b i a j first) (hf a b j c k h)
  · cases h

theorem placing {p : Reader α} (hp : Forward p) : Forward (placing p) :=
  fun b i a j h => hp b i a j (placing_eq_ok.mp h)

theorem thenRegardless {p : Reader α} {q : Reader Unit} (hp : Forward p) (hq : Forward q) :
    Forward (thenRegardless p q) := by
  intro b i a k h
  obtain ⟨j, first, u, second⟩ := thenRegardless_eq_ok.mp h
  exact Nat.le_trans (hp b i a j first) (hq b j u k second)

theorem go {step : σ → Reader (σ ⊕ α)} (hstep : ∀ s, Forward (step s)) :
    ∀ n s, Forward (loop.go step n s)
  | 0, s => fun b i a j h => by cases h
  | n + 1, s => by
    intro b i a k h
    cases round : step s b i with
    | ok r j =>
      cases r with
      | inl s' =>
        rw [go_inl round] at h
        exact Nat.le_trans (hstep s b i _ j round) (go hstep n s' b j a k h)
      | inr a' =>
        rw [go_inr round] at h
        cases h
        exact hstep s b i _ _ round
    | err e j =>
      rw [go_err round] at h
      cases h

theorem loop {rounds : Nat → Nat} {step : σ → Reader (σ ⊕ α)} (hstep : ∀ s, Forward (step s))
    (init : σ) : Forward (loop rounds step init) :=
  fun b i a j h => go hstep _ init b i a j h

end Forward

namespace Fails

theorem fail (k : ErrorKind) : Fails (fail k : Reader α) := by
  intro b i a j h
  cases h

theorem failAhead (k : ErrorKind) : Fails (failAhead k : Reader α) := by
  intro b i a j h
  cases h

theorem failUnplaced (k : ErrorKind) : Fails (failUnplaced k : Reader α) := by
  intro b i a j h
  cases h

theorem bind_right {p : Reader α} {f : α → Reader β} (hf : ∀ a, Fails (f a)) :
    Fails (p >>= f) := by
  intro b i c k h
  simp only [bind_apply] at h
  split at h
  · rename_i a j _
    exact hf a b j c k h
  · cases h

theorem bind_left {p : Reader α} (hp : Fails p) (f : α → Reader β) : Fails (p >>= f) := by
  intro b i c k h
  simp only [bind_apply] at h
  split at h
  · rename_i a j first
    exact hp b i a j first
  · cases h

theorem placing {p : Reader α} (hp : Fails p) : Fails (placing p) :=
  fun b i a j h => hp b i a j (placing_eq_ok.mp h)

end Fails

theorem Forward.skipBlanks : Forward skipBlanks := by
  intro b i a j h
  rw [skipBlanks_eq] at h
  cases h
  exact Nat.le_add_right _ _

/-! ## Readers that step over a byte -/

/-- A reader that never moves back, and whose answers of the kind `keep` come only after stepping
over a byte of the text. -/
def Strict (keep : α → Bool) (p : Reader α) : Prop :=
  Forward p ∧ ∀ b i a j, keep a = true → p b i = .ok a j → i < b.size ∧ i < j

/-- The same, for a reader started where the next byte is `c`. -/
def StrictAt (c : Option UInt8) (keep : α → Bool) (p : Reader α) : Prop :=
  Forward p ∧ ∀ b i a j, b[i]? = c → keep a = true → p b i = .ok a j → i < b.size ∧ i < j

namespace Strict

variable {keep : α → Bool}

theorem of_fails {p : Reader α} (h : Fails p) : Strict keep p :=
  ⟨Forward.of_fails h, fun b i a j _ answered => absurd answered (h b i a j)⟩

theorem pure {a : α} (other : keep a = false) : Strict keep (pure a : Reader α) := by
  refine ⟨Forward.pure a, fun b i a' j kept h => ?_⟩
  cases h
  rw [other] at kept
  cases kept

theorem strictAt {p : Reader α} (h : Strict keep p) (c : Option UInt8) : StrictAt c keep p :=
  ⟨h.1, fun b i a j _ kept answered => h.2 b i a j kept answered⟩

theorem placing {p : Reader α} (hp : Strict keep p) : Strict keep (placing p) :=
  ⟨hp.1.placing, fun b i a j kept h => hp.2 b i a j kept (placing_eq_ok.mp h)⟩

theorem bind_right {p : Reader α} {f : α → Reader β} {keep : β → Bool} (hp : Forward p)
    (hf : ∀ a, Strict keep (f a)) : Strict keep (p >>= f) := by
  refine ⟨hp.bind fun a => (hf a).1, fun b i c k kept h => ?_⟩
  simp only [bind_apply] at h
  split at h
  · rename_i a j first
    have moved := hp b i a j first
    have stepped := (hf a).2 b j c k kept h
    omega
  · cases h

theorem bind_left {p : Reader α} {f : α → Reader β} {keep : β → Bool}
    (hp : Strict (fun _ => true) p) (hf : ∀ a, Forward (f a)) : Strict keep (p >>= f) := by
  refine ⟨hp.1.bind hf, fun b i c k _ h => ?_⟩
  simp only [bind_apply] at h
  split at h
  · rename_i a j first
    have stepped := hp.2 b i a j rfl first
    have moved := hf a b j c k h
    omega
  · cases h

/-- A reader that goes on only with what the first reader answered after stepping over a byte. -/
theorem bind_some {p : Reader (Option α)} {f : Option α → Reader β} {keep : β → Bool}
    (hp : Strict Option.isSome p) (hsome : ∀ a, Forward (f (some a))) (hnone : Strict keep (f none))
    (never : ∀ b i r j, f none b i = .ok r j → keep r = false) : Strict keep (p >>= f) := by
  refine ⟨hp.1.bind fun a => ?_, fun b i c k kept h => ?_⟩
  · cases a with
    | none => exact hnone.1
    | some a => exact hsome a
  simp only [bind_apply] at h
  split at h
  · rename_i a j first
    cases a with
    | none => rw [never b j c k h] at kept; cases kept
    | some a =>
      have stepped := hp.2 b i (some a) j rfl first
      have moved := hsome a b j c k h
      omega
  · cases h

theorem pure_bind {a : β} {f : β → Reader α} (h : Strict keep (f a)) :
    Strict keep ((Pure.pure a : Reader β) >>= f) := h

theorem peek_bind {f : Option UInt8 → Reader α} (hf : ∀ c, StrictAt c keep (f c)) :
    Strict keep (peek >>= f) :=
  ⟨Forward.peek.bind fun c => (hf c).1, fun b i a j kept h => (hf b[i]?).2 b i a j rfl kept h⟩

/-- A reader that goes on only after taking a byte. -/
theorem next_bind {f : Option UInt8 → Reader α} (hnone : Fails (f none))
    (hsome : ∀ x, Forward (f (some x))) : Strict keep (next >>= f) := by
  refine ⟨Forward.next.bind fun c => ?_, fun b i a k _ h => ?_⟩
  · cases c with
    | none => exact Forward.of_fails hnone
    | some x => exact hsome x
  cases here : b[i]? with
  | none =>
    simp only [bind_apply, next_apply, here] at h
    exact absurd h (hnone b i a k)
  | some x =>
    simp only [bind_apply, next_apply, here] at h
    exact ⟨lt_size_of_getElem? here, hsome x b (i + 1) a k h⟩

theorem skipBlanks_bind {f : Option UInt8 → Reader α} (hf : ∀ c, StrictAt c keep (f c)) :
    Strict keep (skipBlanks >>= f) := by
  refine ⟨Forward.skipBlanks.bind fun c => (hf c).1, fun b i a k kept h => ?_⟩
  simp only [bind_apply, skipBlanks_eq] at h
  have stopped := (hf _).2 b _ a k (by rw [getElem?_eq_head?_rest, rest_add, drop_length_takeWhile])
    kept h
  omega

end Strict

namespace StrictAt

variable {keep : α → Bool}

theorem of_fails {p : Reader α} (h : Fails p) (c : Option UInt8) : StrictAt c keep p :=
  (Strict.of_fails h).strictAt c

theorem eat_bind {x : UInt8} {f : Unit → Reader α} (hf : ∀ u, Forward (f u)) :
    StrictAt (some x) keep (eat >>= f) := by
  refine ⟨Forward.eat.bind hf, fun b i a j here _ h => ?_⟩
  exact ⟨lt_size_of_getElem? here, hf () b (i + 1) a j h⟩

theorem pure_bind {c : Option UInt8} {a : β} {f : β → Reader α} (h : StrictAt c keep (f a)) :
    StrictAt c keep (pure a >>= f) := h

end StrictAt

/-! ## Budgets that are enough -/

/-- Once the budget of a loop exceeds a measure that every round going on lowers, the budget no
longer matters. -/
theorem go_stable {step : σ → Reader (σ ⊕ α)} (μ : σ → Nat → Nat)
    (progress : ∀ s b i s' j, step s b i = .ok (.inl s') j → μ s' (b.size - j) < μ s (b.size - i)) :
    ∀ n m s b i, μ s (b.size - i) < n → μ s (b.size - i) < m →
      loop.go step n s b i = loop.go step m s b i
  | 0, _, _, _, _, enough, _ => absurd enough (Nat.not_lt_zero _)
  | _ + 1, 0, _, _, _, _, enough => absurd enough (Nat.not_lt_zero _)
  | n + 1, m + 1, s, b, i, enoughN, enoughM => by
    cases round : step s b i with
    | ok r j =>
      cases r with
      | inl s' =>
        have lower := progress s b i s' j round
        rw [go_inl round, go_inl round]
        exact go_stable μ progress n m s' b j (by omega) (by omega)
      | inr a => rw [go_inr round, go_inr round]
    | err e j => rw [go_err round, go_err round]

/-- A round that goes on only after stepping over a byte of the text. -/
def StepsOver (step : σ → Reader (σ ⊕ α)) : Prop :=
  ∀ s, Strict Sum.isLeft (step s)

/-- A loop runs as if on any budget above the measure of its start, when its own budget is. -/
theorem loop_stable {rounds : Nat → Nat} {step : σ → Reader (σ ⊕ α)} (μ : σ → Nat → Nat)
    (progress : ∀ s b i s' j, step s b i = .ok (.inl s') j → μ s' (b.size - j) < μ s (b.size - i))
    {init : σ} (enough : ∀ left, μ init left < rounds left) (b : ByteArray) (i : Nat) {m : Nat}
    (above : μ init (b.size - i) < m) : loop rounds step init b i = loop.go step m init b i := by
  rw [loop_apply]
  exact go_stable μ progress _ _ init b i (enough _) above

/-- Each round of such a loop that goes on leaves fewer bytes than it found. -/
theorem StepsOver.progress {step : σ → Reader (σ ⊕ α)} (stepping : StepsOver step) (s : σ)
    (b : ByteArray) (i : Nat) (s' : σ) (j : Nat) (round : step s b i = .ok (.inl s') j) :
    b.size - j < b.size - i := by
  obtain ⟨inside, moved⟩ := (stepping s).2 b i (.inl s') j rfl round
  omega

/-- A round that looks at the next byte goes on only after stepping over it. -/
theorem StepsOver.peek_bind {f : σ → Option UInt8 → Reader (σ ⊕ α)}
    (hf : ∀ s c, StrictAt c Sum.isLeft (f s c)) : StepsOver fun s => peek >>= f s :=
  fun s => Strict.peek_bind (hf s)

/-! ## The readers move forward -/

section Forward

open Config

theorem Forward.hexEscape : Forward hexEscape := by
  intro b i a j h
  unfold Json.hexEscape at h
  split at h
  · cases h
  · dsimp only at h
    split at h
    · cases h
      exact Nat.le_add_right _ _
    · cases h

theorem Forward.unicodeEscape : Forward unicodeEscape := by
  unfold Json.unicodeEscape
  refine Forward.bind Forward.hexEscape fun n => ?_
  split
  · exact Forward.of_fails (Fails.fail _)
  split
  · exact Forward.pure _
  refine Forward.bind Forward.peek fun c => ?_
  split
  · exact Forward.of_fails (Fails.fail _)
  · refine Forward.bind Forward.eat fun _ => Forward.bind Forward.peek fun c => ?_
    split
    · exact Forward.of_fails (Fails.fail _)
    · refine Forward.bind Forward.eat fun _ => Forward.bind Forward.hexEscape fun n2 => ?_
      split
      · exact Forward.of_fails (Fails.fail _)
      · exact Forward.pure _
    · exact Forward.bind Forward.eat fun _ => Forward.of_fails (Fails.fail _)
  · exact Forward.bind Forward.eat fun _ => Forward.of_fails (Fails.fail _)

theorem Forward.escape : Forward escape := by
  unfold Json.escape
  refine Forward.bind Forward.next fun c => ?_
  split <;> first
    | exact Forward.pure _
    | exact Forward.of_fails (Fails.fail _)
    | exact Forward.unicodeEscape

theorem Forward.stringBody : Forward stringBody := by
  refine Forward.loop (fun acc => Forward.bind Forward.peek fun c => ?_) _
  split
  · exact Forward.of_fails (Fails.fail _)
  · exact Forward.bind Forward.eat fun _ => Forward.pure _
  · exact Forward.bind Forward.eat fun _ => Forward.bind Forward.escape fun _ => Forward.pure _
  · refine Forward.bind Forward.eat fun _ => ?_
    split
    · exact Forward.of_fails (Fails.fail _)
    · exact Forward.pure _

theorem Forward.skipEscape : Forward skipEscape := by
  unfold Json.skipEscape
  refine Forward.bind Forward.next fun c => ?_
  split <;> first
    | exact Forward.pure _
    | exact Forward.of_fails (Fails.fail _)
    | exact Forward.bind Forward.hexEscape fun _ => Forward.pure _

theorem Forward.skipStringBody : Forward skipStringBody := by
  refine Forward.loop (fun _ => Forward.bind Forward.peek fun c => ?_) _
  split
  · exact Forward.of_fails (Fails.fail _)
  · exact Forward.bind Forward.eat fun _ => Forward.pure _
  · exact Forward.bind Forward.eat fun _ => Forward.bind Forward.skipEscape fun _ => Forward.pure _
  · split
    · exact Forward.of_fails (Fails.fail _)
    · exact Forward.bind Forward.eat fun _ => Forward.pure _

theorem Forward.word (expected : List UInt8) : Forward (word expected) := by
  induction expected with
  | nil => exact Forward.pure _
  | cons x xs ih =>
    refine Forward.bind (Forward.bind Forward.next fun c => ?_) fun _ => ih
    split
    · exact Forward.of_fails (Fails.fail _)
    · split
      · exact Forward.pure _
      · exact Forward.of_fails (Fails.fail _)

/-- The rounds over the digits of a number. -/
theorem forward_digits {σ : Type} (more : σ → σ) (done : σ → α) (init : σ) :
    Forward (loop (· + 1) (fun s => do
      match ← peek with
      | some c => if isDigit c then eat; return .inl (more s) else return .inr (done s)
      | none => return .inr (done s)) init) := by
  refine Forward.loop (fun s => Forward.bind Forward.peek fun c => ?_) _
  split
  · split
    · exact Forward.bind Forward.eat fun _ => Forward.pure _
    · exact Forward.pure _
  · exact Forward.pure _

theorem Forward.skipExponent : Forward skipExponent := by
  refine Forward.bind Forward.eat fun _ => Forward.bind Forward.peek fun c => ?_
  extract_lets jp
  have afterSign : ∀ u, Forward (jp u) := by
    intro u
    refine Forward.bind Forward.next fun c => ?_
    split
    · split
      · exact forward_digits (fun _ => ()) (fun _ => ()) ()
      · exact Forward.of_fails (Fails.fail _)
    · exact Forward.of_fails (Fails.fail _)
  split
  · exact Forward.bind Forward.eat afterSign
  · exact Forward.bind Forward.eat afterSign
  · exact afterSign ()

theorem Forward.skipFraction : Forward skipFraction := by
  refine Forward.bind Forward.eat fun _ => Forward.bind (forward_digits (fun _ => true) id false)
    fun any => ?_
  split
  · exact Forward.of_fails (Fails.failAhead _)
  · refine Forward.bind Forward.peek fun c => ?_
    split
    · exact Forward.skipExponent
    · exact Forward.skipExponent
    · exact Forward.pure _

/-- A number is read from its first byte on. -/
theorem Strict.skipNumber : Strict (fun _ => true) skipNumber := by
  refine Strict.next_bind (Fails.bind_left (Fails.fail _) _) fun c => ?_
  extract_lets jp
  have afterDigits : ∀ u, Forward (jp u) := by
    intro u
    refine Forward.bind Forward.peek fun c => ?_
    split
    · exact Forward.skipFraction
    · exact Forward.skipExponent
    · exact Forward.skipExponent
    · exact Forward.pure _
  split
  · refine Forward.bind Forward.peek fun c => ?_
    split
    · split
      · exact Forward.bind (Forward.of_fails (Fails.failAhead _)) afterDigits
      · exact afterDigits ()
    · exact afterDigits ()
  · split
    · exact Forward.bind (forward_digits (fun _ => ()) (fun _ => ()) ()) afterDigits
    · exact Forward.bind (Forward.of_fails (Fails.fail _)) afterDigits
  · exact Forward.bind (Forward.of_fails (Fails.fail _)) afterDigits

theorem Forward.skipNumber : Forward skipNumber :=
  Strict.skipNumber.1

theorem Strict.skipStep (s : SkipState) : Strict s.keepsRank (skipStep s) := by
  cases s with
  | value enclosing stack =>
    refine Strict.skipBlanks_bind fun c => ?_
    split
    · exact StrictAt.of_fails (Fails.failAhead _) _
    extract_lets jp
    have framed : ∀ f, Forward (jp f) := by
      intro f
      dsimp only [jp]
      split
      · exact Forward.pure _
      · split <;> exact Forward.pure _
    -- a scalar opens no frame, and the state after it comes from the enclosing frames
    have scalar : ∀ {q : Reader Unit}, Forward q →
        Forward (q >>= fun _ => Pure.pure none >>= jp) :=
      fun hq => Forward.bind hq fun _ => Forward.bind (Forward.pure _) framed
    -- every value but a number starts with a byte stepped over here
    split
    · exact StrictAt.eat_bind fun _ => scalar (Forward.word _)
    · exact StrictAt.eat_bind fun _ => scalar (Forward.word _)
    · exact StrictAt.eat_bind fun _ => scalar (Forward.word _)
    · exact StrictAt.eat_bind fun _ => scalar Forward.skipNumber
    · exact StrictAt.eat_bind fun _ => scalar Forward.skipStringBody
    · exact StrictAt.eat_bind fun _ => Forward.bind (Forward.pure _) framed
    · exact StrictAt.eat_bind fun _ => Forward.bind (Forward.pure _) framed
    split
    · exact (Strict.bind_left Strict.skipNumber fun _ =>
        Forward.bind (Forward.pure _) framed).strictAt _
    · exact StrictAt.of_fails (Fails.bind_left (Fails.failAhead _) _) _
  | after acceptComma frame stack =>
    refine Strict.skipBlanks_bind fun c => ?_
    split
    · split
      · exact StrictAt.eat_bind fun _ => Forward.pure _
      · exact (Strict.pure rfl).strictAt _
    · split
      · refine StrictAt.eat_bind fun _ => ?_
        split <;> exact Forward.pure _
      · split
        · exact StrictAt.of_fails (Fails.failAhead _) _
        · exact (Strict.pure rfl).strictAt _
    · exact StrictAt.of_fails (Fails.failAhead _) _
  | member frame stack =>
    dsimp only [Json.skipStep]
    split
    · refine Strict.bind_right Forward.skipBlanks fun c => ?_
      split
      · refine Strict.bind_right Forward.eat fun _ => Strict.bind_right Forward.skipStringBody
          fun _ => Strict.bind_right Forward.skipBlanks fun c => ?_
        split
        · exact Strict.bind_right Forward.eat fun _ => Strict.pure rfl
        · exact Strict.of_fails (Fails.bind_left (Fails.failAhead _) _)
        · exact Strict.of_fails (Fails.bind_left (Fails.failAhead _) _)
      · exact Strict.of_fails (Fails.bind_left (Fails.failAhead _) _)
      · exact Strict.of_fails (Fails.bind_left (Fails.failAhead _) _)
    · exact Strict.pure rfl

theorem Forward.skipStep (s : SkipState) : Forward (skipStep s) :=
  (Strict.skipStep s).1

/-- Every round of skipping a value that goes on lowers three times the bytes left plus the
rank of its state. -/
theorem skipStep_progress (s : SkipState) (b : ByteArray) (i : Nat) (s' : SkipState) (j : Nat)
    (round : skipStep s b i = .ok (.inl s') j) :
    3 * (b.size - j) + s'.rank < 3 * (b.size - i) + s.rank := by
  have moved := Forward.skipStep s b i _ j round
  have bounded := s'.rank_le
  by_cases kept : s.rank ≤ s'.rank
  · have stepped := (Strict.skipStep s).2 b i (.inl s') j (decide_eq_true kept) round
    omega
  · omega

theorem Forward.skipValue : Forward skipValue :=
  Forward.loop Forward.skipStep _

/-- Reading a value of the wrong kind only names what it found before failing. -/
theorem Fails.invalidType (expected : String) : Fails (invalidType expected : Reader α) := by
  refine Fails.bind_right fun c => ?_
  extract_lets jp
  have placed : ∀ found, Fails (jp found) := fun _ => Fails.placing (Fails.failUnplaced _)
  -- every way of naming what was found ends in the failure
  split <;> (try split) <;> repeat (first | exact placed _ | refine Fails.bind_right fun _ => ?_)

/-- A string is read from its opening quote on. -/
theorem Strict.readString : Strict (fun _ => true) readString := by
  refine Strict.placing (Strict.skipBlanks_bind fun c => ?_)
  split
  · exact StrictAt.of_fails (Fails.failAhead _) _
  · exact StrictAt.eat_bind fun _ => Forward.stringBody
  · exact StrictAt.of_fails (Fails.invalidType _) _

theorem Forward.readString : Forward readString :=
  Strict.readString.1

theorem Forward.nextElement {item : Reader α} (first : Bool) (hitem : Forward item) :
    Forward (nextElement first item) := by
  refine Forward.bind Forward.skipBlanks fun c => ?_
  extract_lets jp
  have element : ∀ c, Forward (jp c) := by
    intro c
    dsimp only [jp]
    split
    · exact Forward.of_fails (Fails.failAhead _)
    · exact Forward.bind hitem fun _ => Forward.pure _
    · exact Forward.of_fails (Fails.failAhead _)
  split
  · exact Forward.pure _
  · split
    · exact Forward.bind (Forward.pure _) element
    · exact Forward.bind Forward.eat fun _ => Forward.bind Forward.skipBlanks element
  · split
    · exact Forward.bind (Forward.pure _) element
    · exact Forward.bind (Forward.of_fails (Fails.failAhead _)) element
  · exact Forward.bind (Forward.of_fails (Fails.failAhead _)) element

theorem Forward.closeArray : Forward closeArray := by
  refine Forward.bind Forward.skipBlanks fun c => ?_
  split
  · exact Forward.eat
  · refine Forward.bind Forward.eat fun _ => Forward.bind Forward.skipBlanks fun c => ?_
    split <;> exact Forward.of_fails (Fails.failAhead _)
  · exact Forward.of_fails (Fails.failAhead _)
  · exact Forward.of_fails (Fails.failAhead _)

theorem Forward.closeObject : Forward closeObject := by
  refine Forward.bind Forward.skipBlanks fun c => ?_
  split
  · exact Forward.eat
  all_goals exact Forward.of_fails (Fails.failAhead _)

theorem Forward.readStrings : Forward readStrings := by
  refine Forward.placing (Forward.bind Forward.skipBlanks fun c => ?_)
  split
  · exact Forward.of_fails (Fails.failAhead _)
  · refine Forward.bind Forward.eat fun _ =>
      Forward.thenRegardless (Forward.loop (fun s => ?_) _) Forward.closeArray
    refine Forward.bind (Forward.nextElement _ Forward.readString) fun x => ?_
    split <;> exact Forward.pure _
  · exact Forward.of_fails (Fails.invalidType _)

theorem Forward.nextKey (first : Bool) : Forward (nextKey first) := by
  refine Forward.bind Forward.skipBlanks fun c => ?_
  extract_lets jp
  have key : ∀ c, Forward (jp c) := by
    intro c
    dsimp only [jp]
    split
    · exact Forward.bind Forward.eat fun _ => Forward.bind Forward.stringBody fun _ => Forward.pure _
    all_goals exact Forward.of_fails (Fails.failAhead _)
  split
  · exact Forward.pure _
  · split
    · exact Forward.bind (Forward.pure _) key
    · exact Forward.bind Forward.eat fun _ => Forward.bind Forward.skipBlanks key
  · split
    · exact Forward.bind (Forward.pure _) key
    · exact Forward.bind (Forward.of_fails (Fails.failAhead _)) key
  · exact Forward.bind (Forward.of_fails (Fails.failAhead _)) key

theorem Forward.colon : Forward colon := by
  refine Forward.bind Forward.skipBlanks fun c => ?_
  split
  · exact Forward.eat
  all_goals exact Forward.of_fails (Fails.failAhead _)

/-- An element is read from its first byte on. -/
theorem Strict.nextElement {item : Reader α} (first : Bool) (hitem : Strict (fun _ => true) item) :
    Strict Option.isSome (nextElement first item) := by
  refine Strict.bind_right Forward.skipBlanks fun c => ?_
  extract_lets jp
  have element : ∀ c, Strict Option.isSome (jp c) := by
    intro c
    dsimp only [jp]
    split
    · exact Strict.of_fails (Fails.failAhead _)
    · exact Strict.bind_left hitem fun _ => Forward.pure _
    · exact Strict.of_fails (Fails.failAhead _)
  split
  · exact Strict.pure rfl
  · split
    · exact Strict.pure_bind (element (some 0x2C))
    · exact Strict.bind_right Forward.eat fun _ => Strict.bind_right Forward.skipBlanks element
  · split
    · exact Strict.pure_bind (element _)
    · exact Strict.bind_right (Forward.of_fails (Fails.failAhead _)) element
  · exact Strict.bind_right (Forward.of_fails (Fails.failAhead _)) element

/-- A key is read from its opening quote on. -/
theorem Strict.nextKey (first : Bool) : Strict Option.isSome (nextKey first) := by
  refine Strict.skipBlanks_bind fun c => ?_
  extract_lets jp
  have key : ∀ c, StrictAt c Option.isSome (jp c) := by
    intro c
    dsimp only [jp]
    split
    · exact StrictAt.eat_bind fun _ => Forward.bind Forward.stringBody fun _ => Forward.pure _
    all_goals exact StrictAt.of_fails (Fails.failAhead _) _
  have keyAnywhere : ∀ c, Forward (jp c) := fun c => (key c).1
  split
  · exact (Strict.pure rfl).strictAt _
  · split
    · exact StrictAt.pure_bind (key _)
    · exact (Strict.bind_right Forward.eat fun _ => Strict.skipBlanks_bind key).strictAt _
  · split
    · exact StrictAt.pure_bind (key _)
    · exact StrictAt.of_fails (Fails.bind_left (Fails.failAhead _) _) _
  · exact StrictAt.of_fails (Fails.bind_left (Fails.failAhead _) _) _

end Forward

end KeyIntern.Json.Reader
