import DocSync.Text.Lines

/-! # Positions

A position names a place by its line and the UTF-16 code units before it on that line. `resolve`
turns it into offsets from the start of the text or says why it names no place; `ofByte?` goes the
other way. Both are index arithmetic on the line table: `resolve?` keeps every look-up and every
difference partial, and `isSome_resolve?` shows that none of them ever fails.
-/

namespace DocSync

structure Position where
  line : UInt32
  character : UInt32
  deriving DecidableEq, Repr, Inhabited

/-- From `start` up to `stop`. -/
structure Range where
  start : Position
  stop : Position
  deriving DecidableEq, Repr, Inhabited

namespace Position

/-- Lines first, then characters. -/
instance : LT Position where
  lt p q := p.line < q.line ∨ p.line = q.line ∧ p.character < q.character

instance (p q : Position) : Decidable (p < q) :=
  inferInstanceAs (Decidable (_ ∨ _ ∧ _))

theorem lt_def {p q : Position} :
    p < q ↔ p.line < q.line ∨ p.line = q.line ∧ p.character < q.character := Iff.rfl

end Position

/-- Why a position names no place in a text. -/
inductive PositionError where
  | lineOutOfBounds (lineCount : Nat)
  | characterOutOfBounds (lineLength : Nat)
  | insideSurrogatePair
  deriving DecidableEq, Repr

/-- A place in a text, in each of the three units, from the start of the text. -/
structure Offsets where
  char : Nat
  byte : Nat
  unit : Nat
  deriving DecidableEq, Repr

namespace Text

def resolve? (t : Text) (p : Position) : Option (Except PositionError Offsets) :=
  if lineCount t ≤ p.line.toNat then some (.error (.lineOutOfBounds (lineCount t)))
  else do
    let width ← lineUnits? t p.line.toNat
    if width < p.character.toNat then return .error (.characterOutOfBounds width)
    let start ← offsetOf? unitSize t (← lineStart? t p.line.toNat)
    let unit := start + p.character.toNat
    let char ← charOf? unitSize t unit
    if (← offsetOf? unitSize t char) ≠ unit then return .error .insideSurrogatePair
    return .ok ⟨char, ← offsetOf? Char.utf8Size t char, unit⟩

section Resolve
variable {t : Text} {p q : Position} {x y : Offsets}

/-- What `resolve?` answers on a line of the table, given the length of that line. -/
theorem resolve?_of_lt (h : p.line.toNat < lineCount t) :
    ∃ n, lineUnits? t p.line.toNat = some n ∧ resolve? t p = some
      (if n < p.character.toNat then .error (.characterOutOfBounds n)
       else
        let unit := weight unitSize (t.take (charsBefore (lines t) p.line.toNat)) +
          p.character.toNat
        let char := charsWithin unitSize t unit
        if weight unitSize (t.take char) ≠ unit then .error .insideSurrogatePair
        else .ok ⟨char, byteLength (t.take char), unit⟩) := by
  obtain ⟨n, hn, hle⟩ := lineUnits?_of_lt h
  refine ⟨n, hn, ?_⟩
  have hend := weight_take_le (w := unitSize) t (charsBefore (lines t) (p.line.toNat + 1))
  simp only [resolve?, Nat.not_le.2 h, if_false, hn, Option.bind_eq_bind, Option.bind_some,
    lineStart?_of_le (Nat.le_of_lt h), offsetOf?_of_le (charsBefore_le_length t _)]
  split
  · rfl
  · rw [charOf?_of_le (by omega)]
    simp only [Option.bind_some, offsetOf?_of_le (charsWithin_le_length t _)]
    split <;> rfl

theorem isSome_resolve? (t : Text) (p : Position) : (resolve? t p).isSome := by
  by_cases h : p.line.toNat < lineCount t
  · obtain ⟨_, _, hr⟩ := resolve?_of_lt h
    simp [hr]
  · simp [resolve?, Nat.not_lt.1 h]

def resolve (t : Text) (p : Position) : Except PositionError Offsets :=
  (resolve? t p).get (isSome_resolve? t p)

theorem resolve?_eq (t : Text) (p : Position) : resolve? t p = some (resolve t p) :=
  (Option.some_get _).symm

/-- The line of an accepted position exists, its character is within the line, and its offsets
belong to one character. -/
theorem of_resolve_eq_ok (h : resolve t p = .ok x) :
    p.line.toNat < lineCount t ∧
    x.unit = weight unitSize (t.take (charsBefore (lines t) p.line.toNat)) + p.character.toNat ∧
    x.unit ≤ weight unitSize (t.take (charsBefore (lines t) (p.line.toNat + 1))) ∧
    x.char = charsWithin unitSize t x.unit ∧
    x.byte = byteLength (t.take x.char) ∧ x.unit = unitLength (t.take x.char) := by
  have hr := resolve?_eq t p
  rw [h] at hr
  by_cases hl : p.line.toNat < lineCount t
  · obtain ⟨n, hn, he⟩ := resolve?_of_lt hl
    obtain ⟨n', hn', hle⟩ := lineUnits?_of_lt hl
    obtain rfl : n = n' := Option.some.inj (hn ▸ hn')
    rw [he] at hr
    simp only [Option.some.injEq] at hr
    split at hr
    · simp at hr
    · split at hr
      · simp at hr
      · next hu =>
        cases hr
        simp only [ne_eq, Decidable.not_not] at hu
        exact ⟨hl, rfl, by simp only; omega, rfl, rfl, hu.symm⟩
  · simp [resolve?, Nat.not_lt.1 hl] at hr

theorem char_le_length (h : resolve t p = .ok x) : x.char ≤ t.length := by
  rw [(of_resolve_eq_ok h).2.2.2.1]
  exact charsWithin_le_length t _

/-- Offsets keep the order of the positions they come from. -/
theorem char_le_char (hpq : ¬ q < p) (hp : resolve t p = .ok x) (hq : resolve t q = .ok y) :
    x.char ≤ y.char := by
  obtain ⟨_, hpu, hpe, hpc, _⟩ := of_resolve_eq_ok hp
  obtain ⟨_, hqu, _, hqc, _⟩ := of_resolve_eq_ok hq
  rw [hpc, hqc]
  apply charsWithin_mono
  simp only [Position.lt_def, UInt32.lt_iff_toNat_lt, ← UInt32.toNat_inj] at hpq
  by_cases hl : p.line.toNat = q.line.toNat
  · rw [hpu, hqu, hl]; omega
  · have := weight_take_mono (w := unitSize) t
      (charsBefore_mono (lines t) (show p.line.toNat + 1 ≤ q.line.toNat by omega))
    omega

end Resolve

/-- The position of a byte; an offset inside a character is the place of that character. Line and
character are cut to 32 bits. There is no position past the end of the text. -/
def ofByte? (t : Text) (b : Nat) : Option Position := do
  let line ← lineOfByte? t b
  let start ← offsetOf? unitSize t (← lineStart? t line)
  let unit ← offsetOf? unitSize t (← charOf? Char.utf8Size t b)
  some ⟨.ofNat line, .ofNat (← sub? unit start)⟩

theorem ofByte?_of_le {t : Text} {b : Nat} (h : b ≤ byteLength t) :
    let c := charsWithin Char.utf8Size t b
    let l := lineOf (lines t) c
    ofByte? t b = some ⟨.ofNat l, .ofNat
      (unitLength (t.take c) - unitLength (t.take (charsBefore (lines t) l)))⟩ := by
  have hl := lineOf_lt (lines_ne_nil t) (charsWithin Char.utf8Size t b)
  simp [ofByte?, lineOfByte?, charOf?_of_le h, lineStart?_of_le (Nat.le_of_lt hl),
    offsetOf?_of_le (charsBefore_le_length t _), offsetOf?_of_le (charsWithin_le_length t b),
    sub?_of_le (weight_take_mono (w := unitSize) t (charsBefore_lineOf_le (lines t) _))]

end DocSync.Text
