import KeyIntern.Proofs.PaddedReading

/-! # The settings read through inserted blank lines

Every reader the settings use agrees on a text and on the same text with blank lines inserted
(`Agrees`, from `PaddedReading`). The readers are taken bottom up: escapes and strings, words
and numbers, skipped values, and the settings object; the main statement is
`readDocument_padded`, for the two texts from their starts.

A reader may read a line feed outside the blanks only to fail: inside a string it is a control
character, and in a word, a number or an escape it is no byte that may stand there.
-/

namespace KeyIntern.Json.Reader

open Config

variable {α σ : Type} {b1 b2 : ByteArray}

/-! ## Escapes and strings -/

/-- The value of four hex digit bytes. -/
def hexQuad (x0 x1 x2 x3 : UInt8) : Option Nat := do
  let d0 ← hexValue x0
  let d1 ← hexValue x1
  let d2 ← hexValue x2
  let d3 ← hexValue x3
  return ((d0 * 16 + d1) * 16 + d2) * 16 + d3

theorem ne_lineFeed_of_hexValue {x : UInt8} {d : Nat} (digit : hexValue x = some d) :
    x ≠ 0x0A := by
  rintro rfl
  cases digit

theorem hexQuad_digits {x0 x1 x2 x3 : UInt8} {n : Nat} (value : hexQuad x0 x1 x2 x3 = some n) :
    x0 ≠ 0x0A ∧ x1 ≠ 0x0A ∧ x2 ≠ 0x0A ∧ x3 ≠ 0x0A := by
  simp only [hexQuad, Option.bind_eq_bind, Option.bind_eq_some_iff] at value
  obtain ⟨d0, e0, d1, e1, d2, e2, d3, e3, _⟩ := value
  exact ⟨ne_lineFeed_of_hexValue e0, ne_lineFeed_of_hexValue e1, ne_lineFeed_of_hexValue e2,
    ne_lineFeed_of_hexValue e3⟩

/-- A hex escape answers exactly where the next four bytes are hex digits. -/
theorem hexEscape_eq_ok {b : ByteArray} {i n j : Nat} (h : hexEscape b i = .ok n j) :
    j = i + 4 ∧ ∃ x0 x1 x2 x3, b[i]? = some x0 ∧ b[i + 1]? = some x1 ∧ b[i + 2]? = some x2 ∧
      b[i + 3]? = some x3 ∧ hexQuad x0 x1 x2 x3 = some n := by
  unfold hexEscape at h
  split at h
  · cases h
  · rename_i long
    dsimp only at h
    have g0 := getElem?_pos b i (by omega)
    have g1 := getElem?_pos b (i + 1) (by omega)
    have g2 := getElem?_pos b (i + 2) (by omega)
    have g3 := getElem?_pos b (i + 3) (by omega)
    rw [g0, g1, g2, g3] at h
    split at h
    · rename_i d0 d1 d2 d3 digits
      cases h
      simp only [List.map_cons, List.map_nil, Option.getD_some, List.cons.injEq, and_true] at digits
      obtain ⟨h0, h1, h2, h3⟩ := digits
      exact ⟨rfl, _, _, _, _, g0, g1, g2, g3, by simp [hexQuad, h0, h1, h2, h3]⟩
    · cases h

theorem hexEscape_of_bytes {b : ByteArray} {i n : Nat} {x0 x1 x2 x3 : UInt8}
    (h0 : b[i]? = some x0) (h1 : b[i + 1]? = some x1) (h2 : b[i + 2]? = some x2)
    (h3 : b[i + 3]? = some x3) (value : hexQuad x0 x1 x2 x3 = some n) :
    hexEscape b i = .ok n (i + 4) := by
  have long := lt_size_of_getElem? h3
  unfold hexEscape
  rw [if_neg (by omega)]
  dsimp only
  rw [h0, h1, h2, h3]
  simp only [hexQuad, Option.bind_eq_bind, Option.bind_eq_some_iff, Option.pure_def,
    Option.some.injEq] at value
  obtain ⟨d0, e0, d1, e1, d2, e2, d3, e3, rfl⟩ := value
  simp [e0, e1, e2, e3]

/-- Four hex digits on one text are four hex digits on the other: none is a line feed. -/
theorem Related.hexDigits {i1 i2 : Nat} (related : Related b1 b2 i1 i2) {x0 x1 x2 x3 : UInt8}
    (h0 : b1[i1]? = some x0) (h1 : b1[i1 + 1]? = some x1) (h2 : b1[i1 + 2]? = some x2)
    (h3 : b1[i1 + 3]? = some x3) {n : Nat} (value : hexQuad x0 x1 x2 x3 = some n) :
    b2[i2]? = some x0 ∧ b2[i2 + 1]? = some x1 ∧ b2[i2 + 2]? = some x2 ∧ b2[i2 + 3]? = some x3 ∧
      Related b1 b2 (i1 + 4) (i2 + 4) := by
  obtain ⟨f0, f1, f2, f3⟩ := hexQuad_digits value
  obtain ⟨g0, r1⟩ := related.step h0 f0
  obtain ⟨g1, r2⟩ := r1.step h1 f1
  obtain ⟨g2, r3⟩ := r2.step h2 f2
  obtain ⟨g3, r4⟩ := r3.step h3 f3
  exact ⟨g0, g1, g2, g3, r4⟩

theorem Related.hexDigits_right {i1 i2 : Nat} (related : Related b1 b2 i1 i2)
    {x0 x1 x2 x3 : UInt8} (h0 : b2[i2]? = some x0) (h1 : b2[i2 + 1]? = some x1)
    (h2 : b2[i2 + 2]? = some x2) (h3 : b2[i2 + 3]? = some x3) {n : Nat}
    (value : hexQuad x0 x1 x2 x3 = some n) :
    b1[i1]? = some x0 ∧ b1[i1 + 1]? = some x1 ∧ b1[i1 + 2]? = some x2 ∧ b1[i1 + 3]? = some x3 := by
  obtain ⟨f0, f1, f2, f3⟩ := hexQuad_digits value
  have g0 := related.step_right h0 f0
  have r1 := (related.step g0 f0).2
  have g1 := r1.step_right h1 f1
  have r2 := (r1.step g1 f1).2
  have g2 := r2.step_right h2 f2
  have r3 := (r2.step g2 f2).2
  exact ⟨g0, g1, g2, r3.step_right h3 f3⟩

theorem Agrees.hexEscape : Agrees b1 b2 hexEscape := by
  intro i1 i2 related
  cases first : Json.hexEscape b1 i1 with
  | ok n j1 =>
    obtain ⟨rfl, x0, x1, x2, x3, h0, h1, h2, h3, value⟩ := hexEscape_eq_ok first
    obtain ⟨g0, g1, g2, g3, related'⟩ := related.hexDigits h0 h1 h2 h3 value
    rw [hexEscape_of_bytes g0 g1 g2 g3 value]
    exact .ok n related'
  | err e1 j1 =>
    cases second : Json.hexEscape b2 i2 with
    | ok n j2 =>
      -- four hex digits on the second text stand on the first too
      obtain ⟨rfl, x0, x1, x2, x3, h0, h1, h2, h3, value⟩ := hexEscape_eq_ok second
      obtain ⟨g0, g1, g2, g3⟩ := related.hexDigits_right h0 h1 h2 h3 value
      rw [hexEscape_of_bytes g0 g1 g2 g3 value] at first
      cases first
    | err e2 j2 => exact .err e1 e2 j1 j2

/-- A reader that steps over a byte and then fails. -/
theorem Fails.eat_fail {k : ErrorKind} : Fails (eat >>= fun _ => (Reader.fail k : Reader α)) :=
  Fails.bind_right fun _ => Fails.fail k

theorem Agrees.unicodeEscape : Agrees b1 b2 unicodeEscape := by
  refine Agrees.bind Agrees.hexEscape fun n => ?_
  split
  · exact Agrees.of_fails (Fails.fail _)
  split
  · exact Agrees.pure _
  refine Agrees.peek_bind (fun c => ?_)
    fun i1 i2 _ _ _ => Matches.of_fails (Fails.fail _) Fails.eat_fail i1 i2
  split
  · exact AgreesAt.of_fails (Fails.fail _) _
  · refine AgreesAt.eat_bind (by decide) (Agrees.peek_bind (fun c => ?_)
      fun i1 i2 _ _ _ => Matches.of_fails (Fails.fail _) Fails.eat_fail i1 i2)
    split
    · exact AgreesAt.of_fails (Fails.fail _) _
    · refine AgreesAt.eat_bind (by decide) (Agrees.bind Agrees.hexEscape fun n2 => ?_)
      split
      · exact Agrees.of_fails (Fails.fail _)
      · exact Agrees.pure _
    · exact AgreesAt.of_fails Fails.eat_fail _
  · exact AgreesAt.of_fails Fails.eat_fail _

theorem Agrees.escape : Agrees b1 b2 escape := by
  refine Agrees.next_bind (fun c _ => ?_) (Fails.fail _) (Fails.fail _)
  split <;> first
    | exact Agrees.pure _
    | exact Agrees.of_fails (Fails.fail _)
    | exact Agrees.unicodeEscape

/-- A control character in a string fails once stepped over. -/
theorem Fails.control {c : UInt8} (control : c < 0x20) {k : ErrorKind} {a : α} :
    Fails (eat >>= fun _ => if c < 0x20 then (Reader.fail k : Reader α) else Pure.pure a) :=
  Fails.bind_right fun _ => by
    rw [if_pos control]
    exact Fails.fail k

theorem Agrees.stringBody : Agrees b1 b2 stringBody := by
  refine Agrees.loop_of_stepsOver (StepsOver.peek_bind fun acc c => ?_) (fun acc => ?_) _
  · split
    · exact StrictAt.of_fails (Fails.fail _) _
    · exact StrictAt.eat_bind fun _ => Forward.pure _
    · exact StrictAt.eat_bind fun _ => Forward.bind Forward.escape fun _ => Forward.pure _
    · refine StrictAt.eat_bind fun _ => ?_
      split
      · exact Forward.of_fails (Fails.fail _)
      · exact Forward.pure _
  refine Agrees.peek_bind (fun c => ?_)
    fun i1 i2 _ _ _ => Matches.of_fails (Fails.fail _)
      (Fails.control (show (0x0A : UInt8) < 0x20 by decide)) i1 i2
  split
  · exact AgreesAt.of_fails (Fails.fail _) _
  · exact AgreesAt.eat_bind (by decide) (Agrees.pure _)
  · exact AgreesAt.eat_bind (by decide) (Agrees.bind Agrees.escape fun _ => Agrees.pure _)
  · rename_i c _ _
    by_cases control : c < 0x20
    · exact AgreesAt.of_fails (Fails.control control) _
    · refine AgreesAt.eat_bind (fun feed => control (by rw [feed]; decide)) ?_
      rw [if_neg control]
      exact Agrees.pure _

theorem Agrees.skipEscape : Agrees b1 b2 skipEscape := by
  refine Agrees.next_bind (fun c _ => ?_) (Fails.fail _) (Fails.fail _)
  split <;> first
    | exact Agrees.pure _
    | exact Agrees.of_fails (Fails.fail _)
    | exact Agrees.bind Agrees.hexEscape fun _ => Agrees.pure _

theorem Agrees.skipStringBody : Agrees b1 b2 skipStringBody := by
  refine Agrees.loop_of_stepsOver (StepsOver.peek_bind fun _ c => ?_) (fun _ => ?_) _
  · split
    · exact StrictAt.of_fails (Fails.fail _) _
    · exact StrictAt.eat_bind fun _ => Forward.pure _
    · exact StrictAt.eat_bind fun _ => Forward.bind Forward.skipEscape fun _ => Forward.pure _
    · split
      · exact StrictAt.of_fails (Fails.fail _) _
      · exact StrictAt.eat_bind fun _ => Forward.pure _
  refine Agrees.peek_bind (fun c => ?_)
    fun i1 i2 _ _ _ => Matches.of_fails (Fails.fail _) (Fails.fail _) i1 i2
  split
  · exact AgreesAt.of_fails (Fails.fail _) _
  · exact AgreesAt.eat_bind (by decide) (Agrees.pure _)
  · exact AgreesAt.eat_bind (by decide)
      (Agrees.bind Agrees.skipEscape fun _ => Agrees.pure _)
  · rename_i c _ _
    split
    · exact AgreesAt.of_fails (Fails.fail _) _
    · rename_i printable
      exact AgreesAt.eat_bind (fun feed => printable (by rw [feed]; decide)) (Agrees.pure _)

/-- A literal word agrees: none of its letters is a line feed. -/
theorem Agrees.word {expected : List UInt8} (letters : (0x0A : UInt8) ∉ expected) :
    Agrees b1 b2 (word expected) := by
  induction expected with
  | nil => exact Agrees.pure _
  | cons e rest ih =>
    have notFeed : e ≠ 0x0A := fun same => letters (same ▸ List.mem_cons_self)
    refine Agrees.bind (Agrees.next_bind (fun c _ => ?_) (Fails.fail _) ?_)
      fun _ => ih fun inRest => letters (List.mem_cons_of_mem e inRest)
    · dsimp only
      split
      · exact Agrees.pure _
      · exact Agrees.of_fails (Fails.fail _)
    · dsimp only
      rw [beq_false_of_ne (Ne.symm notFeed)]
      exact Fails.fail _

/-! ## Numbers -/

theorem ne_lineFeed_of_isDigit {c : UInt8} (digit : isDigit c = true) : c ≠ 0x0A := by
  rintro rfl
  cases digit

/-- The rounds over the digits of a number agree: a line feed is no digit, and ends them as the
end of the text does. -/
theorem Agrees.digits {σ : Type} (more : σ → σ) (done : σ → α) (init : σ) :
    Agrees b1 b2 (Reader.loop (· + 1) (fun s => do
      match ← peek with
      | some c => if isDigit c then eat; return .inl (more s) else return .inr (done s)
      | none => return .inr (done s)) init) := by
  refine Agrees.loop_of_stepsOver (StepsOver.peek_bind fun s c => ?_) (fun s => ?_) _
  · split
    · split
      · exact StrictAt.eat_bind fun _ => Forward.pure _
      · exact (Strict.pure rfl).strictAt _
    · exact (Strict.pure rfl).strictAt _
  refine Agrees.peek_bind (fun c => ?_) fun i1 i2 related _ _ => .ok _ related
  split
  · split
    · rename_i digit
      exact AgreesAt.eat_bind (ne_lineFeed_of_isDigit digit) (Agrees.pure _)
    · exact (Agrees.pure _).agreesAt _
  · exact (Agrees.pure _).agreesAt _

theorem AgreesAt.skipExponent {x : UInt8} (notFeed : x ≠ 0x0A) :
    AgreesAt b1 b2 (some x) skipExponent := by
  unfold Json.skipExponent
  lift_lets
  extract_lets afterSign
  have digits : ∀ u, Agrees b1 b2 (afterSign u) := by
    intro u
    refine Agrees.next_bind (fun c _ => ?_) (Fails.fail _) (Fails.fail _)
    dsimp only
    split
    · exact Agrees.digits (fun _ => ()) (fun _ => ()) ()
    · exact Agrees.of_fails (Fails.fail _)
  refine AgreesAt.eat_bind notFeed (Agrees.peek_bind (fun c => ?_)
    fun i1 i2 related _ _ => digits () i1 i2 related)
  split
  · exact AgreesAt.eat_bind (by decide) (digits ())
  · exact AgreesAt.eat_bind (by decide) (digits ())
  · exact (digits ()).agreesAt _

theorem AgreesAt.skipFraction : AgreesAt b1 b2 (some 0x2E) skipFraction := by
  refine AgreesAt.eat_bind (by decide)
    (Agrees.bind (Agrees.digits (fun _ => true) id false) fun any => ?_)
  split
  · exact Agrees.of_fails (Fails.failAhead _)
  · refine Agrees.peek_bind (fun c => ?_) fun i1 i2 related _ _ => .ok _ related
    split
    · exact AgreesAt.skipExponent (by decide)
    · exact AgreesAt.skipExponent (by decide)
    · exact (Agrees.pure _).agreesAt _

theorem Agrees.skipNumber : Agrees b1 b2 skipNumber := by
  unfold Json.skipNumber
  lift_lets
  extract_lets afterDigits
  have after : ∀ u, Agrees b1 b2 (afterDigits u) := by
    intro u
    refine Agrees.peek_bind (fun c => ?_) fun i1 i2 related _ _ => .ok _ related
    split
    · exact AgreesAt.skipFraction
    · exact AgreesAt.skipExponent (by decide)
    · exact AgreesAt.skipExponent (by decide)
    · exact (Agrees.pure _).agreesAt _
  refine Agrees.next_bind (fun c _ => ?_) (Fails.bind_left (Fails.fail _) _)
    (Fails.bind_left (Fails.fail _) _)
  split
  · refine Agrees.peek_bind (fun c => ?_) fun i1 i2 related _ _ => after () i1 i2 related
    split
    · split
      · exact AgreesAt.of_fails (Fails.bind_left (Fails.failAhead _) _) _
      · exact (after ()).agreesAt _
    · exact (after ()).agreesAt _
  · split
    · exact Agrees.bind (Agrees.digits (fun _ => ()) (fun _ => ()) ()) after
    · exact Agrees.of_fails (Fails.bind_left (Fails.fail _) _)
  · exact Agrees.of_fails (Fails.bind_left (Fails.fail _) _)

/-! ## Skipped values -/

theorem Agrees.skipStep (s : SkipState) : Agrees b1 b2 (skipStep s) := by
  cases s with
  | value enclosing stack =>
    refine Agrees.skipBlanks_bind fun c => ?_
    split
    · exact AgreesAt.of_fails (Fails.failAhead _) _
    extract_lets framed
    have after : ∀ f, Agrees b1 b2 (framed f) := by
      intro f
      dsimp only [framed]
      split
      · exact Agrees.pure _
      · split <;> exact Agrees.pure _
    have scalar : ∀ {q : Reader Unit}, Agrees b1 b2 q →
        Agrees b1 b2 (q >>= fun _ => Pure.pure none >>= framed) :=
      fun hq => Agrees.bind hq fun _ => Agrees.bind (Agrees.pure _) after
    -- the words' letters are no line feed, so padding cannot split them
    split
    · exact AgreesAt.eat_bind (by decide) (scalar (Agrees.word (by decide)))
    · exact AgreesAt.eat_bind (by decide) (scalar (Agrees.word (by decide)))
    · exact AgreesAt.eat_bind (by decide) (scalar (Agrees.word (by decide)))
    · exact AgreesAt.eat_bind (by decide) (scalar Agrees.skipNumber)
    · exact AgreesAt.eat_bind (by decide) (scalar Agrees.skipStringBody)
    · exact AgreesAt.eat_bind (by decide) (Agrees.bind (Agrees.pure _) after)
    · exact AgreesAt.eat_bind (by decide) (Agrees.bind (Agrees.pure _) after)
    · split
      · exact (scalar Agrees.skipNumber).agreesAt _
      · exact AgreesAt.of_fails (Fails.bind_left (Fails.failAhead _) _) _
  | after acceptComma frame stack =>
    dsimp only [Json.skipStep]
    refine Agrees.skipBlanks_bind fun c => ?_
    split
    · split
      · exact AgreesAt.eat_bind (by decide) (Agrees.pure _)
      · exact (Agrees.pure _).agreesAt _
    · split
      · rename_i c _ closing
        -- only a closing bracket closes
        have notFeed : c ≠ 0x0A := by
          rintro rfl
          simp at closing
        refine AgreesAt.eat_bind notFeed ?_
        split <;> exact Agrees.pure _
      · split
        · exact AgreesAt.of_fails (Fails.failAhead _) _
        · exact (Agrees.pure _).agreesAt _
    · exact AgreesAt.of_fails (Fails.failAhead _) _
  | member frame stack =>
    dsimp only [Json.skipStep]
    split
    · refine Agrees.skipBlanks_bind fun c => ?_
      split
      · refine AgreesAt.eat_bind (by decide)
          (Agrees.bind Agrees.skipStringBody fun _ => Agrees.skipBlanks_bind fun c => ?_)
        split
        · exact AgreesAt.eat_bind (by decide) (Agrees.pure _)
        · exact AgreesAt.of_fails (Fails.bind_left (Fails.failAhead _) _) _
        · exact AgreesAt.of_fails (Fails.bind_left (Fails.failAhead _) _) _
      · exact AgreesAt.of_fails (Fails.bind_left (Fails.failAhead _) _) _
      · exact AgreesAt.of_fails (Fails.bind_left (Fails.failAhead _) _) _
    · exact Agrees.pure _

theorem Agrees.skipValue : Agrees b1 b2 skipValue :=
  Agrees.loop (fun s left => 3 * left + s.rank) skipStep_progress
    (fun left => show 3 * left + 0 < 3 * left + 3 by omega) Agrees.skipStep

/-! ## The settings -/

theorem Agrees.readString : Agrees b1 b2 readString := by
  refine Agrees.placing (Agrees.skipBlanks_bind fun c => ?_)
  split
  · exact AgreesAt.of_fails (Fails.failAhead _) _
  · exact AgreesAt.eat_bind (by decide) Agrees.stringBody
  · exact AgreesAt.of_fails (Fails.invalidType _) _

theorem Agrees.nextElement {item : Reader α} (first : Bool) (hitem : Agrees b1 b2 item) :
    Agrees b1 b2 (nextElement first item) := by
  refine Agrees.skipBlanks_bind fun c => ?_
  extract_lets element
  have read : ∀ c, Agrees b1 b2 (element c) := by
    intro c
    dsimp only [element]
    split
    · exact Agrees.of_fails (Fails.failAhead _)
    · exact Agrees.bind hitem fun _ => Agrees.pure _
    · exact Agrees.of_fails (Fails.failAhead _)
  split
  · exact (Agrees.pure _).agreesAt _
  · split
    · exact (Agrees.bind (Agrees.pure _) read).agreesAt _
    · exact AgreesAt.eat_bind (by decide) (Agrees.skipBlanks_bind fun c => (read c).agreesAt c)
  · split
    · exact (Agrees.bind (Agrees.pure _) read).agreesAt _
    · exact AgreesAt.of_fails (Fails.bind_left (Fails.failAhead _) _) _
  · exact AgreesAt.of_fails (Fails.bind_left (Fails.failAhead _) _) _

theorem Agrees.closeArray : Agrees b1 b2 closeArray := by
  refine Agrees.skipBlanks_bind fun c => ?_
  split
  · exact AgreesAt.eat_bind (by decide) (Agrees.pure _)
  · refine AgreesAt.eat_bind (by decide) (Agrees.skipBlanks_bind fun c => ?_)
    split <;> exact AgreesAt.of_fails (Fails.failAhead _) _
  · exact AgreesAt.of_fails (Fails.failAhead _) _
  · exact AgreesAt.of_fails (Fails.failAhead _) _

theorem Agrees.closeObject : Agrees b1 b2 closeObject := by
  refine Agrees.skipBlanks_bind fun c => ?_
  split
  · exact AgreesAt.eat_bind (by decide) (Agrees.pure _)
  all_goals exact AgreesAt.of_fails (Fails.failAhead _) _

theorem Agrees.colon : Agrees b1 b2 colon := by
  refine Agrees.skipBlanks_bind fun c => ?_
  split
  · exact AgreesAt.eat_bind (by decide) (Agrees.pure _)
  all_goals exact AgreesAt.of_fails (Fails.failAhead _) _

theorem Agrees.readStrings : Agrees b1 b2 readStrings := by
  refine Agrees.placing (Agrees.skipBlanks_bind fun c => ?_)
  split
  · exact AgreesAt.of_fails (Fails.failAhead _) _
  · refine AgreesAt.eat_bind (by decide)
      (Agrees.thenRegardless ?_ Agrees.closeArray)
    -- a round goes on only after an element, which is read from its opening quote on
    refine Agrees.loop_of_stepsOver (fun ⟨first, acc⟩ => ?_) (fun ⟨first, acc⟩ => ?_) _
    · refine Strict.bind_some (Strict.nextElement first Strict.readString) (fun _ => Forward.pure _)
        (Strict.pure rfl) fun b i r j answered => ?_
      cases answered
      rfl
    · refine Agrees.bind (Agrees.nextElement first Agrees.readString) fun x => ?_
      split <;> exact Agrees.pure _
  · exact AgreesAt.of_fails (Fails.invalidType _) _

theorem Agrees.nextKey (first : Bool) : Agrees b1 b2 (nextKey first) := by
  refine Agrees.skipBlanks_bind fun c => ?_
  extract_lets key
  have read : ∀ c, AgreesAt b1 b2 c (key c) := by
    intro c
    dsimp only [key]
    split
    · exact AgreesAt.eat_bind (by decide) (Agrees.bind Agrees.stringBody fun _ => Agrees.pure _)
    all_goals exact AgreesAt.of_fails (Fails.failAhead _) _
  split
  · exact (Agrees.pure _).agreesAt _
  · split
    · exact AgreesAt.pure_bind (read _)
    · exact AgreesAt.eat_bind (by decide) (Agrees.skipBlanks_bind read)
  · split
    · exact AgreesAt.pure_bind (read _)
    · exact AgreesAt.of_fails (Fails.bind_left (Fails.failAhead _) _) _
  · exact AgreesAt.of_fails (Fails.bind_left (Fails.failAhead _) _) _

theorem Agrees.members : Agrees b1 b2 members := by
  -- a round goes on only after a key, which is read from its opening quote on
  refine Agrees.loop_of_stepsOver (fun ⟨first, seen⟩ => ?_) (fun ⟨first, seen⟩ => ?_) _
  · refine Strict.bind_some (Strict.nextKey first) (fun key => ?_) (Strict.pure rfl)
      fun b i r j answered => ?_
    · dsimp only
      split
      · split
        · exact Forward.of_fails (Fails.failUnplaced _)
        · exact Forward.bind Forward.colon fun _ =>
            Forward.bind Forward.readStrings fun _ => Forward.pure _
      · exact Forward.bind Forward.colon fun _ => Forward.bind Forward.skipValue fun _ =>
          Forward.pure _
    · cases answered
      rfl
  · refine Agrees.bind (Agrees.nextKey first) fun key => ?_
    split
    · exact Agrees.pure _
    · split
      · split
        · exact Agrees.of_fails (Fails.failUnplaced _)
        · exact Agrees.bind Agrees.colon fun _ => Agrees.bind Agrees.readStrings fun _ =>
            Agrees.pure _
      · exact Agrees.bind Agrees.colon fun _ => Agrees.bind Agrees.skipValue fun _ =>
          Agrees.pure _

/-- The settings agree from the starts of the two texts, where blank lines may already be
inserted. -/
theorem readDocument_padded (padded : Padded true (rest b1 0) (rest b2 0)) :
    Matches b1 b2 (readDocument b1 0) (readDocument b2 0) := by
  refine Matches.bind (Matches.placing (Matches.skipBlanks_bind padded fun c => ?_)) fun config =>
    Agrees.skipBlanks_bind fun c => ?_
  · split
    · exact AgreesAt.of_fails (Fails.failAhead _) _
    · exact AgreesAt.eat_bind (by decide) (Agrees.thenRegardless
        (Agrees.bind (Agrees.nextElement true Agrees.readStrings) fun _ => Agrees.pure _)
        Agrees.closeArray)
    · exact AgreesAt.eat_bind (by decide) (Agrees.thenRegardless Agrees.members Agrees.closeObject)
    · exact AgreesAt.of_fails (Fails.invalidType _) _
  · split
    · exact AgreesAt.of_fails (Fails.failAhead _) _
    · exact (Agrees.pure _).agreesAt _

end KeyIntern.Json.Reader
