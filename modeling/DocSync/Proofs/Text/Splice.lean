import DocSync.Proofs.Text.Addressing
import DocSync.Proofs.Text.Encoding

/-! # Edits in characters, bytes and code units

A range is turned into an edit by resolving both of its ends, and the edit is carried out on
characters. `edit_exact` says which check refuses a range, and that an edit that is made replaces the
same part of the text in each of the three units.
-/

namespace DocSync.Text

section Checks
variable {t w : Text} {r : Range}

theorem edit_of_lt (h : r.stop < r.start) : edit t r w = .error (.invalidRange r) := by
  simp [edit, h, throw, throwThe, MonadExceptOf.throw, bind, Except.bind]

/-- A range in order is refused for its start first, and then for its end. -/
theorem edit_of_not_lt (h : ¬ r.stop < r.start) : edit t r w =
    (resolveIn t r.start).bind fun x => (resolveIn t r.stop).map fun y => ⟨x.char, y.char, w⟩ := by
  simp only [edit, h, if_false, bind, Except.bind, pure, Except.pure]
  cases resolveIn t r.start with
  | error e => rfl
  | ok x => cases resolveIn t r.stop <;> rfl

theorem resolveIn_ne_invalidRange {p : Position} {q : Range} :
    resolveIn t p ≠ .error (.invalidRange q) := by
  unfold resolveIn
  split <;> simp

theorem edit_eq_invalidRange : edit t r w = .error (.invalidRange r) ↔ r.stop < r.start := by
  constructor
  · intro h
    by_contra hr
    rw [edit_of_not_lt hr] at h
    cases hx : resolveIn t r.start with
    | error e =>
      rw [hx] at h
      cases h
      exact resolveIn_ne_invalidRange hx
    | ok x =>
      rw [hx] at h
      cases hy : resolveIn t r.stop with
      | error e =>
        rw [hy] at h
        cases h
        exact resolveIn_ne_invalidRange hy
      | ok y =>
        rw [hy] at h
        cases h
  · exact edit_of_lt

end Checks

section Parts
variable {t : Text} {x y : Offsets} {p q : Position}

/-- Within the text, offsets of accepted positions are in one order in all three units. -/
theorem offsets_le (h : ¬ q < p) (hx : resolve t p = .ok x) (hy : resolve t q = .ok y) :
    x.char ≤ y.char ∧ x.byte ≤ y.byte ∧ x.unit ≤ y.unit := by
  have hchar := char_le_char h hx hy
  rw [byte_of_resolve hx, byte_of_resolve hy, unit_of_resolve hx, unit_of_resolve hy]
  exact ⟨hchar, weight_take_mono t hchar, weight_take_mono t hchar⟩

theorem offsets_le_length (hy : resolve t q = .ok y) :
    y.char ≤ t.length ∧ y.byte ≤ (bytes t).length ∧ y.unit ≤ (units t).length := by
  rw [length_bytes, length_units, byte_of_resolve hy, unit_of_resolve hy]
  exact ⟨char_le_length hy, weight_take_le t _, weight_take_le t _⟩

theorem bytes_splice (hx : resolve t p = .ok x) (hy : resolve t q = .ok y) (w : Text) :
    bytes (t.take x.char ++ w ++ t.drop y.char) =
      (bytes t).take x.byte ++ bytes w ++ (bytes t).drop y.byte := by
  rw [byte_of_resolve hx, byte_of_resolve hy]
  exact flatMap_splice String.length_utf8EncodeChar t w x.char y.char

theorem units_splice (hx : resolve t p = .ok x) (hy : resolve t q = .ok y) (w : Text) :
    units (t.take x.char ++ w ++ t.drop y.char) =
      (units t).take x.unit ++ units w ++ (units t).drop y.unit := by
  rw [unit_of_resolve hx, unit_of_resolve hy]
  exact flatMap_splice length_charUnits t w x.char y.char

end Parts

/-- **An edit is one splice in all three units.** A range is refused for its order first, even where
neither end exists, then for its start, and then for its end. Any other range gives an edit that
fits its text, and the edited text has the new characters, bytes and code units in place of those
between the offsets of the two ends. -/
theorem edit_exact (t w : Text) (r : Range) :
    (edit t r w = .error (.invalidRange r) ↔ r.stop < r.start) ∧
    (¬ r.stop < r.start →
      (∀ e, resolveIn t r.start = .error e → edit t r w = .error e) ∧
      (∀ x e, resolveIn t r.start = .ok x → resolveIn t r.stop = .error e →
        edit t r w = .error e) ∧
      ∀ x y, resolveIn t r.start = .ok x → resolveIn t r.stop = .ok y →
        ∃ e u, edit t r w = .ok e ∧ e.splice? t = some u ∧
          (x.char ≤ y.char ∧ y.char ≤ t.length ∧
            u = t.take x.char ++ w ++ t.drop y.char) ∧
          (x.byte ≤ y.byte ∧ y.byte ≤ (bytes t).length ∧
            bytes u = (bytes t).take x.byte ++ bytes w ++ (bytes t).drop y.byte) ∧
          (x.unit ≤ y.unit ∧ y.unit ≤ (units t).length ∧
            units u = (units t).take x.unit ++ units w ++ (units t).drop y.unit)) := by
  refine ⟨edit_eq_invalidRange, ?_⟩
  intro hr
  rw [edit_of_not_lt hr]
  refine ⟨?_, ?_, ?_⟩
  · intro e hx
    rw [hx]
    rfl
  · intro x e hx hy
    rw [hx, hy]
    rfl
  · intro x y hx hy
    have hedit : edit t r w = .ok ⟨x.char, y.char, w⟩ := by
      rw [edit_of_not_lt hr, hx, hy]
      rfl
    rw [resolveIn_eq_ok] at hx hy
    obtain ⟨hchar, hbyte, hunit⟩ := offsets_le hr hx hy
    obtain ⟨hchar', hbyte', hunit'⟩ := offsets_le_length hy
    refine ⟨_, t.take x.char ++ w ++ t.drop y.char, ?_, splice?_of_edit hedit,
      ⟨hchar, hchar', rfl⟩, ⟨hbyte, hbyte', bytes_splice hx hy w⟩,
      ⟨hunit, hunit', units_splice hx hy w⟩⟩
    rw [← edit_of_not_lt hr, hedit]

end DocSync.Text
