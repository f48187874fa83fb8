import DocSync.Text.Position
import Mathlib.Data.List.TakeWhile
import Mathlib.Tactic.Common

/-! # Lines and what ends them

A line is its content, which has no break in it, and then a terminator; the last line of a text has
none. `lines_induction` takes the lines of a text off its front one by one, and `line_split` says
where the line of a number stands in its text.
-/

namespace DocSync.Text

def isBreak (c : Char) : Bool := c = '\n' || c = '\r'

/-- No character ends a line. -/
def Unbroken (t : Text) : Prop := ∀ c ∈ t, isBreak c = false

/-- A line without its terminator. -/
def content (l : Text) : Text := l.takeWhile (! isBreak ·)

/-- What ends a line that `u` comes after. A return with a feed after it is not all of it. -/
def IsTerminator (w u : Text) : Prop :=
  w = ['\n'] ∨ w = ['\r', '\n'] ∨ w = ['\r'] ∧ u.head? ≠ some '\n'

/-- The text in front of line `k`. -/
def before (t : Text) (k : Nat) : Text := ((lines t).take k).flatten

theorem unbroken_cons {c : Char} {t : Text} :
    Unbroken (c :: t) ↔ isBreak c = false ∧ Unbroken t := by
  simp [Unbroken]

theorem isBreak_eq_false {c : Char} : isBreak c = false ↔ c ≠ '\n' ∧ c ≠ '\r' := by
  simp [isBreak]

theorem IsTerminator.ne_nil {w u : Text} (h : IsTerminator w u) : w ≠ [] := by
  rcases h with rfl | rfl | ⟨rfl, -⟩ <;> simp

theorem lines_cons {c : Char} {t : Text} (h : isBreak c = false) :
    lines (c :: t) = (lines t).modifyHead (c :: ·) := by
  obtain ⟨hn, hr⟩ := isBreak_eq_false.1 h
  rw [lines.eq_3 _ _ (fun _ hc _ => hr hc), if_neg (by simp [hn, hr])]

theorem lines_terminator {w u : Text} (h : IsTerminator w u) : lines (w ++ u) = w :: lines u := by
  rcases h with rfl | rfl | ⟨rfl, hu⟩
  · rw [List.singleton_append, lines.eq_3 _ _ (fun _ hc _ => by simp at hc), if_pos (.inl rfl)]
  · rfl
  · rw [List.singleton_append, lines.eq_3 _ _ (fun _ _ ht => hu (by rw [ht]; rfl)),
      if_pos (.inr rfl)]

/-- A line comes off the front of a text. -/
theorem lines_append {a w u : Text} (ha : Unbroken a) (hw : IsTerminator w u) :
    lines (a ++ (w ++ u)) = (a ++ w) :: lines u := by
  induction a with
  | nil => exact lines_terminator hw
  | cons c a ih =>
    obtain ⟨hc, ha⟩ := unbroken_cons.1 ha
    rw [List.cons_append, lines_cons hc, ih ha]
    rfl

theorem lines_of_unbroken {a : Text} (ha : Unbroken a) : lines a = [a] := by
  induction a with
  | nil => rfl
  | cons c a ih =>
    obtain ⟨hc, ha⟩ := unbroken_cons.1 ha
    rw [lines_cons hc, ih ha]
    rfl

/-- A text is one line without a terminator, or a line and its terminator stand at its front. -/
theorem unbroken_or_split (t : Text) :
    Unbroken t ∨ ∃ a w u, Unbroken a ∧ IsTerminator w u ∧ t = a ++ (w ++ u) := by
  induction t with
  | nil => exact .inl (by simp [Unbroken])
  | cons c t ih =>
    by_cases hc : isBreak c = false
    · rcases ih with h | ⟨a, w, u, ha, hw, rfl⟩
      · exact .inl (unbroken_cons.2 ⟨hc, h⟩)
      · exact .inr ⟨c :: a, w, u, unbroken_cons.2 ⟨hc, ha⟩, hw, rfl⟩
    · refine .inr ?_
      have hc : c = '\n' ∨ c = '\r' := by
        by_contra hn
        exact hc (isBreak_eq_false.2 (not_or.1 hn))
      rcases hc with rfl | rfl
      · exact ⟨[], ['\n'], t, by simp [Unbroken], .inl rfl, rfl⟩
      · by_cases ht : t.head? = some '\n'
        · obtain ⟨u, rfl⟩ := List.head?_eq_some_iff.1 ht
          exact ⟨[], ['\r', '\n'], u, by simp [Unbroken], .inr (.inl rfl), rfl⟩
        · exact ⟨[], ['\r'], t, by simp [Unbroken], .inr (.inr ⟨rfl, ht⟩), rfl⟩

/-- Induction on the lines of a text, from its last one. -/
@[elab_as_elim]
theorem lines_induction {motive : Text → Prop} (last : ∀ a, Unbroken a → motive a)
    (line : ∀ a w u, Unbroken a → IsTerminator w u → motive u → motive (a ++ (w ++ u)))
    (t : Text) : motive t := by
  induction h : t.length using Nat.strongRecOn generalizing t with
  | ind n ih =>
    rcases unbroken_or_split t with ht | ⟨a, w, u, ha, hw, rfl⟩
    · exact last t ht
    · have hlen : u.length < n := by
        have := List.length_pos_iff.2 hw.ne_nil
        simp only [List.length_append] at h
        omega
      exact line a w u ha hw (ih _ hlen u rfl)

theorem content_of_unbroken {a : Text} (ha : Unbroken a) : content a = a := by
  rw [content, List.takeWhile_eq_self_iff]
  simpa [Unbroken] using ha

/-- The content of a line does not depend on what comes after its terminator. -/
theorem content_append {a w u : Text} (ha : Unbroken a) (hw : IsTerminator w u) (r : Text) :
    content (a ++ (w ++ r)) = a := by
  rw [content, List.takeWhile_append_of_pos (by simpa [Unbroken] using ha)]
  rcases hw with rfl | rfl | ⟨rfl, -⟩ <;> simp [isBreak]

theorem unbroken_content (l : Text) : Unbroken (content l) := by
  intro c hc
  simpa using List.mem_takeWhile_imp hc

theorem before_append {a w u : Text} (ha : Unbroken a) (hw : IsTerminator w u) (k : Nat) :
    before (a ++ (w ++ u)) (k + 1) = a ++ (w ++ before u k) := by
  simp [before, lines_append ha hw]

/-- Line `k` in its text: `w` is its terminator, and `u` the text that comes after it. The lines of
`u` are the next ones, and only the last line ends with the text. -/
theorem line_split {t l : Text} {k : Nat} (h : (lines t)[k]? = some l) :
    ∃ w u, l = content l ++ w ∧ t = before t k ++ (l ++ u) ∧
      (k + 1 < lineCount t ∧ IsTerminator w u ∨ k + 1 = lineCount t ∧ w = [] ∧ u = []) := by
  induction t using lines_induction generalizing k with
  | last a ha =>
    rw [lines_of_unbroken ha] at h
    obtain ⟨rfl, rfl⟩ : k = 0 ∧ a = l := by
      cases k <;> simp_all
    exact ⟨[], [], by simp [content_of_unbroken ha], by simp [before],
      .inr ⟨by simp [lineCount, lines_of_unbroken ha], rfl, rfl⟩⟩
  | line a w u ha hw ih =>
    rw [lines_append ha hw] at h
    have hcount : lineCount (a ++ (w ++ u)) = lineCount u + 1 := by
      simp [lineCount, lines_append ha hw]
    cases k with
    | zero =>
      obtain rfl : a ++ w = l := by simpa using h
      have hpos := lineCount_pos u
      have hcontent : content (a ++ w) = a := by simpa using content_append ha hw []
      exact ⟨w, u, by rw [hcontent], by simp [before], .inl ⟨by omega, hw⟩⟩
    | succ k =>
      obtain ⟨v, r, hl, hu, hend⟩ := ih (k := k) (by simpa using h)
      refine ⟨v, r, hl, ?_, ?_⟩
      · rw [before_append ha hw, List.append_assoc, List.append_assoc, ← hu]
      · rw [hcount]
        rcases hend with ⟨hlt, hv⟩ | ⟨heq, hv⟩
        · exact .inl ⟨by omega, hv⟩
        · exact .inr ⟨by omega, hv⟩

end DocSync.Text
