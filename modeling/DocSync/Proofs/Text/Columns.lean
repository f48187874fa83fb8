import DocSync.Document
import DocSync.Proofs.Editor.Address
import DocSync.Proofs.Text.Splice

/-! # Lines and columns of a range

A position says a line and a column. If its line exists, then only the column decides whether the
position is accepted: it has to be within the line and to split no pair. A range in order with both
ends on lines that exist is refused for a column or not at all.
-/

namespace DocSync.Text

/-- Line `k` exists, and `l` stands on it. -/
def HasLine (t : Text) (k : Nat) (l : Text) : Prop :=
  ∃ line, line? t k = some line ∧ content line = l

/-- Column `n` is within a line and splits no pair. -/
def HasColumn (l : Text) (n : Nat) : Prop :=
  n ≤ (units l).length ∧ Editor.splitsPair (units l) n = false

instance (l : Text) (n : Nat) : Decidable (HasColumn l n) := inferInstanceAs (Decidable (_ ∧ _))

theorem hasColumn_iff {l : Text} {n : Nat} :
    HasColumn l n ↔ ∃ a, a <+: l ∧ unitLength a = n := by
  rw [HasColumn, length_units]
  constructor
  · rintro ⟨hn, hsplit⟩
    exact (Editor.splitsPair_units hn).1 hsplit
  · rintro ⟨a, ha, rfl⟩
    have hle : unitLength a ≤ unitLength l := weight_le_weight ha
    exact ⟨hle, (Editor.splitsPair_units hle).2 ⟨a, ha, rfl⟩⟩

section Positions
variable {t l : Text} {p : Position}

theorem HasLine.exists_resolve_iff (h : HasLine t p.line.toNat l) :
    (∃ x, resolve t p = .ok x) ↔ HasColumn l p.character.toNat := by
  obtain ⟨line, hline, rfl⟩ := h
  rw [hasColumn_iff]
  constructor
  · rintro ⟨x, hx⟩
    obtain ⟨line', a, hline', ha, hn, -⟩ := resolve_eq_ok.1 hx
    obtain rfl : line = line' := Option.some.inj (hline.symm.trans hline')
    exact ⟨a, ha, hn⟩
  · rintro ⟨a, ha, hn⟩
    exact ⟨_, resolve_eq_ok.2 ⟨line, a, hline, ha, hn, rfl⟩⟩

theorem HasLine.resolve_ne (h : HasLine t p.line.toNat l) (n : Nat) :
    resolve t p ≠ .error (.lineOutOfBounds n) := by
  obtain ⟨line, hline, -⟩ := h
  rw [resolve_of_line hline]
  split
  · simp
  · split <;> simp

end Positions

section Ranges
variable {t l l' w : Text} {r : Range}

theorem exists_edit_iff (hr : ¬ r.stop < r.start) (hstart : HasLine t r.start.line.toNat l)
    (hstop : HasLine t r.stop.line.toNat l') : (∃ e, edit t r w = .ok e) ↔
      HasColumn l r.start.character.toNat ∧ HasColumn l' r.stop.character.toNat := by
  rw [← hstart.exists_resolve_iff, ← hstop.exists_resolve_iff]
  simp only [edit_eq_ok]
  constructor
  · rintro ⟨e, -, x, y, hx, hy, -⟩
    exact ⟨⟨x, hx⟩, y, hy⟩
  · rintro ⟨⟨x, hx⟩, y, hy⟩
    exact ⟨_, hr, x, y, hx, hy, rfl⟩

/-- A range in order is refused for one of its ends. -/
theorem exists_resolve_of_edit_eq_error {e : EditError} (hr : ¬ r.stop < r.start)
    (h : edit t r w = .error e) : ∃ p reason, (p = r.start ∨ p = r.stop) ∧
      resolve t p = .error reason ∧ e = .invalidPosition p reason := by
  rw [edit_of_not_lt hr, resolveIn, resolveIn] at h
  cases hx : resolve t r.start with
  | error reason =>
    rw [hx] at h
    exact ⟨r.start, reason, .inl rfl, hx, (Except.error.inj h).symm⟩
  | ok x =>
    rw [hx] at h
    cases hy : resolve t r.stop with
    | error reason =>
      rw [hy] at h
      exact ⟨r.stop, reason, .inr rfl, hy, (Except.error.inj h).symm⟩
    | ok y =>
      rw [hy] at h
      cases h

theorem edit_ne_lineOutOfBounds (hstart : HasLine t r.start.line.toNat l)
    (hstop : HasLine t r.stop.line.toNat l') (w : Text) (p : Position) (n : Nat) :
    edit t r w ≠ .error (.invalidPosition p (.lineOutOfBounds n)) := by
  intro h
  by_cases hr : r.stop < r.start
  · rw [edit_of_lt hr] at h
    cases h
  · obtain ⟨q, reason, hq, hresolve, he⟩ := exists_resolve_of_edit_eq_error hr h
    cases he
    rcases hq with rfl | rfl
    · exact hstart.resolve_ne n hresolve
    · exact hstop.resolve_ne n hresolve

theorem edit_ne_invalidRange (hr : ¬ r.stop < r.start) (t w : Text) (q : Range) :
    edit t r w ≠ .error (.invalidRange q) := by
  intro h
  obtain ⟨p, reason, -, -, he⟩ := exists_resolve_of_edit_eq_error hr h
  cases he

/-- A batch of one change is that change. -/
theorem changes_singleton (t : Text) (c : Change) : changes t [c] = change t c := by
  rw [changes_cons]
  cases change t c <;> rfl

theorem changes_ranged (t w : Text) (r : Range) :
    changes t [.ranged r w] = (edit t r w).map (·.splice t) := by
  rw [changes_singleton, change, replace_eq]

end Ranges

end DocSync.Text
