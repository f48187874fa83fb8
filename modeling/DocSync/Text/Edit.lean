import DocSync.Text.Position

/-! # Edits

An edit replaces the characters from `start` to `stop`. It comes from a range of positions, which
is checked before anything is done; an edit with any other offsets may not fit its text, and then
there is no result. `replace` takes a range to the edited text, or says why the range is refused.
-/

namespace DocSync

/-- A replacement of the characters from `start` to `stop`. -/
structure Edit where
  start : Nat
  stop : Nat
  text : Text
  deriving DecidableEq, Repr

/-- Why a range cannot be edited. -/
inductive EditError where
  | invalidPosition (position : Position) (reason : PositionError)
  | invalidRange (range : Range)
  deriving DecidableEq, Repr

namespace Edit

/-- The number of characters that the edit takes out. -/
def removed? (e : Edit) : Option Nat := Text.sub? e.stop e.start

/-- Takes the characters out and then puts the new ones in. -/
def splice? (e : Edit) (t : Text) : Option Text := do
  let rest ← remove? t
  if e.text = [] then return rest
  insert? rest
where
  remove? (t : Text) : Option Text :=
    if e.start ≤ e.stop ∧ e.stop ≤ t.length then some (t.take e.start ++ t.drop e.stop) else none
  insert? (t : Text) : Option Text :=
    if e.start ≤ t.length then some (t.take e.start ++ e.text ++ t.drop e.start) else none

/-- The edited text. -/
def splice (e : Edit) (t : Text) : Text := t.take e.start ++ e.text ++ t.drop e.stop

theorem splice?_eq {e : Edit} {t : Text} (h : e.start ≤ e.stop) (h' : e.stop ≤ t.length) :
    e.splice? t = some (e.splice t) := by
  have hl : e.start ≤ t.length := Nat.le_trans h h'
  unfold splice? splice?.remove? splice?.insert? splice
  simp only [h, h', and_self, if_true, Option.bind_eq_bind, Option.bind_some]
  by_cases he : e.text = []
  · simp [he]
  · rw [if_neg he, if_pos (by simp [Nat.min_eq_left hl])]
    simp [Nat.min_eq_left hl]

end Edit

namespace Text

def resolveIn (t : Text) (p : Position) : Except EditError Offsets :=
  match resolve t p with
  | .ok x => .ok x
  | .error reason => .error (.invalidPosition p reason)

/-- The edit that puts `w` in place of a range. Its order is checked first, then its start, then
its end. -/
def edit (t : Text) (r : Range) (w : Text) : Except EditError Edit := do
  if r.stop < r.start then throw (.invalidRange r)
  let start ← resolveIn t r.start
  let stop ← resolveIn t r.stop
  return ⟨start.char, stop.char, w⟩

theorem resolveIn_eq_ok {t : Text} {p : Position} {x : Offsets} :
    resolveIn t p = .ok x ↔ resolve t p = .ok x := by
  unfold resolveIn
  split <;> simp_all

theorem edit_eq_ok {t w : Text} {r : Range} {e : Edit} :
    edit t r w = .ok e ↔ ¬ r.stop < r.start ∧ ∃ x y,
      resolve t r.start = .ok x ∧ resolve t r.stop = .ok y ∧ e = ⟨x.char, y.char, w⟩ := by
  unfold edit
  by_cases h : r.stop < r.start
  · simp [h, throw, throwThe, MonadExceptOf.throw, bind, Except.bind]
  · cases hx : resolveIn t r.start <;> cases hy : resolveIn t r.stop <;>
      simp only [h, if_false, hx, hy, bind, Except.bind, pure, Except.pure,
        ← resolveIn_eq_ok] <;>
      simp [eq_comm]

/-- `edit`, with the look-ups of both ends partial. -/
def edit? (t : Text) (r : Range) (w : Text) : Option (Except EditError Edit) :=
  if r.stop < r.start then some (.error (.invalidRange r))
  else do
    match ← resolve? t r.start with
    | .error reason => return .error (.invalidPosition r.start reason)
    | .ok start =>
      match ← resolve? t r.stop with
      | .error reason => return .error (.invalidPosition r.stop reason)
      | .ok stop => return .ok ⟨start.char, stop.char, w⟩

theorem edit?_eq (t : Text) (r : Range) (w : Text) : edit? t r w = some (edit t r w) := by
  by_cases hr : r.stop < r.start
  · simp [edit?, edit, hr, throw, throwThe, MonadExceptOf.throw, bind, Except.bind]
  · simp only [edit?, edit, hr, if_false, resolve?_eq, resolveIn, Option.bind_some, bind,
      Except.bind, pure, Except.pure]
    cases resolve t r.start with
    | error reason => rfl
    | ok x => cases resolve t r.stop <;> rfl

/-- Replaces a range, with every step on the text partial. -/
def replace? (t : Text) (r : Range) (w : Text) : Option (Except EditError Text) := do
  match ← edit? t r w with
  | .error e => return .error e
  | .ok e => return .ok (← e.splice? t)

theorem splice?_of_edit {t w : Text} {r : Range} {e : Edit} (h : edit t r w = .ok e) :
    e.splice? t = some (e.splice t) := by
  obtain ⟨hr, x, y, hx, hy, rfl⟩ := edit_eq_ok.1 h
  exact Edit.splice?_eq (char_le_char hr hx hy) (char_le_length hy)

theorem isSome_replace? (t : Text) (r : Range) (w : Text) : (replace? t r w).isSome := by
  rw [replace?, edit?_eq]
  cases h : edit t r w with
  | error e => rfl
  | ok e => simp [splice?_of_edit h]

def replace (t : Text) (r : Range) (w : Text) : Except EditError Text :=
  (replace? t r w).get (isSome_replace? t r w)

theorem replace?_eq (t : Text) (r : Range) (w : Text) : replace? t r w = some (replace t r w) :=
  (Option.some_get _).symm

theorem replace_eq (t : Text) (r : Range) (w : Text) :
    replace t r w = (edit t r w).map (·.splice t) := by
  have h := replace?_eq t r w
  rw [replace?, edit?_eq] at h
  cases he : edit t r w with
  | error e => simpa [he, Except.map, eq_comm] using h
  | ok e => simpa [he, splice?_of_edit he, Except.map, eq_comm] using h

end DocSync.Text
