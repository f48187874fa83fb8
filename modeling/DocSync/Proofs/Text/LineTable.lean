import DocSync.Proofs.Text.Addressing
import DocSync.Proofs.Text.Tiling
import DocSync.Text.Encoding
import Mathlib.Data.Set.Card

/-! # The line table tiles its text

Cut at every start and every end that the table gives, a text falls apart into contents and
terminators, in turn and with nothing left over. `EndsLine` finds the terminators in the text alone:
a feed ends a line, a return ends one unless a feed is next, and no other character does.
-/

namespace DocSync.Text

/-- Character `i` is the last one of a terminator. -/
def EndsLine (t : Text) (i : Nat) : Prop :=
  t[i]? = some '\n' ∨ t[i]? = some '\r' ∧ t[i + 1]? ≠ some '\n'

section EndsLine
variable {a w u : Text} {i : Nat}

theorem Unbroken.getElem?_ne (ha : Unbroken a) {c : Char} (hc : isBreak c = true) (i : Nat) :
    a[i]? ≠ some c := by
  intro h
  rw [ha c (List.mem_of_getElem? h)] at hc
  cases hc

theorem Unbroken.not_endsLine (ha : Unbroken a) (i : Nat) : ¬ EndsLine a i := by
  rintro (h | ⟨h, -⟩)
  · exact ha.getElem?_ne rfl i h
  · exact ha.getElem?_ne rfl i h

theorem endsLine_append_right (s u : Text) (i : Nat) :
    EndsLine (s ++ u) (s.length + i) ↔ EndsLine u i := by
  have hbehind (j : Nat) : (s ++ u)[s.length + j]? = u[j]? := by
    rw [List.getElem?_append_right (Nat.le_add_right _ _), Nat.add_sub_cancel_left]
  rw [EndsLine, EndsLine, Nat.add_assoc, hbehind, hbehind]

/-- Nothing in the content ends a line, whatever comes after it. -/
theorem Unbroken.not_endsLine_append (ha : Unbroken a) (u : Text) (hi : i < a.length) :
    ¬ EndsLine (a ++ u) i := by
  rw [EndsLine, List.getElem?_append_left hi]
  rintro (h | ⟨h, -⟩)
  · exact ha.getElem?_ne rfl i h
  · exact ha.getElem?_ne rfl i h

/-- Only the last character of a terminator ends its line. -/
theorem IsTerminator.endsLine_iff (hw : IsTerminator w u) (hi : i < w.length) :
    EndsLine (w ++ u) i ↔ i + 1 = w.length := by
  rcases hw with rfl | rfl | ⟨rfl, hu⟩
  · obtain rfl : i = 0 := by simpa using hi
    simp [EndsLine]
  · have hcases : i = 0 ∨ i = 1 := by
      simp only [List.length_cons, List.length_nil] at hi
      omega
    rcases hcases with rfl | rfl <;> simp [EndsLine]
  · obtain rfl : i = 0 := by simpa using hi
    simpa [EndsLine, List.head?_eq_getElem?] using hu

/-- The line at the front of a text ends with its terminator, and all others behind it. -/
theorem endsLine_line (ha : Unbroken a) (hw : IsTerminator w u) :
    EndsLine (a ++ (w ++ u)) i ↔
      i + 1 = (a ++ w).length ∨ ∃ j, i = (a ++ w).length + j ∧ EndsLine u j := by
  have hpos := List.length_pos_iff.2 hw.ne_nil
  have hsum : (a ++ w).length = a.length + w.length := List.length_append
  by_cases hcontent : i < a.length
  · constructor
    · intro h
      exact absurd h (ha.not_endsLine_append _ hcontent)
    · rintro (h | ⟨j, h, -⟩) <;> omega
  obtain ⟨k, rfl⟩ := Nat.exists_eq_add_of_le (not_lt.1 hcontent)
  rw [endsLine_append_right]
  by_cases hterminator : k < w.length
  · rw [hw.endsLine_iff hterminator]
    constructor
    · intro h
      exact .inl (by omega)
    · rintro (h | ⟨j, h, -⟩) <;> omega
  obtain ⟨j, rfl⟩ := Nat.exists_eq_add_of_le (not_lt.1 hterminator)
  rw [endsLine_append_right]
  constructor
  · intro h
    exact .inr ⟨j, by omega, h⟩
  · rintro (h | ⟨j', h, hj⟩)
    · omega
    · obtain rfl : j = j' := by omega
      exact hj

end EndsLine

section Lines
variable {t : Text} {k : Nat}

theorem lineCount_of_unbroken {a : Text} (ha : Unbroken a) : lineCount a = 1 := by
  rw [lineCount, lines_of_unbroken ha, List.length_singleton]

theorem lineCount_line {a w u : Text} (ha : Unbroken a) (hw : IsTerminator w u) :
    lineCount (a ++ (w ++ u)) = lineCount u + 1 := by
  rw [lineCount, lines_append ha hw, List.length_cons, lineCount]

theorem length_before_line {a w u : Text} (ha : Unbroken a) (hw : IsTerminator w u) (k : Nat) :
    (before (a ++ (w ++ u)) (k + 1)).length = (a ++ w).length + (before u k).length := by
  rw [before_append ha hw, ← List.append_assoc, List.length_append]

/-- Every line but the first one has something in front of it. -/
theorem length_before_pos (hk : k + 1 < lineCount t) : 0 < (before t (k + 1)).length := by
  rcases unbroken_or_split t with ht | ⟨a, w, u, ha, hw, rfl⟩
  · rw [lineCount_of_unbroken ht] at hk
    omega
  · have hpos := List.length_pos_iff.2 hw.ne_nil
    rw [length_before_line ha hw, List.length_append]
    omega

/-- A line ends where the next one starts, and nowhere else. -/
theorem endsLine_iff (t : Text) (i : Nat) :
    EndsLine t i ↔ ∃ k, k + 1 < lineCount t ∧ (before t (k + 1)).length = i + 1 := by
  induction t using lines_induction generalizing i with
  | last a ha =>
    rw [lineCount_of_unbroken ha]
    constructor
    · intro h
      exact absurd h (ha.not_endsLine i)
    · rintro ⟨k, hk, -⟩
      omega
  | line a w u ha hw ih =>
    have hpos := lineCount_pos u
    rw [endsLine_line ha hw, lineCount_line ha hw]
    simp only [length_before_line ha hw]
    constructor
    · rintro (h | ⟨j, rfl, hj⟩)
      · exact ⟨0, by omega, by rw [h]; rfl⟩
      · obtain ⟨k, hk, hlength⟩ := (ih j).1 hj
        exact ⟨k + 1, by omega, by omega⟩
    · rintro ⟨k, hk, hi⟩
      cases k with
      | zero => exact .inl hi.symm
      | succ k =>
        have hk' : k + 1 < lineCount u := by omega
        obtain ⟨j, hj⟩ := Nat.exists_eq_add_of_lt (length_before_pos hk')
        rw [Nat.zero_add] at hj
        exact .inr ⟨j, by omega, (ih j).2 ⟨k, hk', hj⟩⟩

/-- There is one line more than there are characters that end one. -/
theorem encard_endsLine (t : Text) : {i | EndsLine t i}.encard + 1 = lineCount t := by
  induction t using lines_induction with
  | last a ha =>
    have hnone : {i | EndsLine a i} = ∅ := by
      ext i
      simp [ha.not_endsLine i]
    rw [hnone, Set.encard_empty, zero_add, lineCount_of_unbroken ha]
    rfl
  | line a w u ha hw ih =>
    have hpos := List.length_pos_iff.2 hw.ne_nil
    have hsum : (a ++ w).length = a.length + w.length := List.length_append
    have hcons : {i | EndsLine (a ++ (w ++ u)) i} =
        insert ((a ++ w).length - 1) (((a ++ w).length + ·) '' {j | EndsLine u j}) := by
      ext i
      simp only [Set.mem_ofPred_eq, Set.mem_insert_iff, Set.mem_image, endsLine_line ha hw]
      constructor
      · rintro (h | ⟨j, rfl, hj⟩)
        · exact .inl (by omega)
        · exact .inr ⟨j, hj, rfl⟩
      · rintro (h | ⟨j, hj, rfl⟩)
        · exact .inl (by omega)
        · exact .inr ⟨j, rfl, hj⟩
    have hnew : (a ++ w).length - 1 ∉ ((a ++ w).length + ·) '' {j | EndsLine u j} := by
      rintro ⟨j, -, hj⟩
      simp only at hj
      omega
    rw [hcons, Set.encard_insert_of_notMem hnew, (add_right_injective _).encard_image, ih,
      lineCount_line ha hw]
    rfl

end Lines

section Cuts
variable {t l : Text} {k : Nat}

/-- The text up to the end of line `k`, without its terminator. -/
def upto (t : Text) (k : Nat) : Text := before t k ++ content ((lines t).getD k [])

theorem upto_eq (h : (lines t)[k]? = some l) : upto t k = before t k ++ content l := by
  rw [upto, List.getD_eq_getElem?_getD, h, Option.getD_some]

theorem extract_of_eq_append {t a b c : Text} (h : t = a ++ (b ++ c)) :
    t.extract a.length (a ++ b).length = b := by
  rw [h, List.extract_eq_take_drop, List.drop_left, List.length_append, Nat.add_sub_cancel_left,
    List.take_left]

theorem drop_of_eq_append {t a b : Text} (h : t = a ++ b) : t.drop a.length = b := by
  rw [h, List.drop_left]

/-- The table cuts a line out of its text, first the content and then the terminator. -/
theorem extract_line (h : (lines t)[k]? = some l) : ∃ w, l = content l ++ w ∧
    t.extract (before t k).length (upto t k).length = content l ∧
    t.extract (upto t k).length (before t (k + 1)).length = w ∧
    (k + 1 < lineCount t → IsTerminator w (t.drop (before t (k + 1)).length)) := by
  obtain ⟨w, u, hl, ht, hend⟩ := line_split h
  have hcontent : t = before t k ++ (content l ++ (w ++ u)) := by
    rw [← List.append_assoc (content l), ← hl]
    exact ht
  have hterminator : t = upto t k ++ (w ++ u) := by
    rw [upto_eq h, List.append_assoc]
    exact hcontent
  have hnext : before t (k + 1) = upto t k ++ w := by
    rw [before_succ h, upto_eq h, List.append_assoc, ← hl]
  refine ⟨w, hl, ?_, ?_, ?_⟩
  · rw [upto_eq h]
    exact extract_of_eq_append hcontent
  · rw [hnext]
    exact extract_of_eq_append hterminator
  · intro hk
    have hrest : t = before t (k + 1) ++ u := by
      rw [hnext, List.append_assoc]
      exact hterminator
    rw [drop_of_eq_append hrest]
    rcases hend with ⟨-, hw⟩ | ⟨hlast, -⟩
    · exact hw
    · omega

/-- The first lines, put together again from what the table cuts out. -/
theorem flatMap_extract {m : Nat} (hm : m ≤ lineCount t) :
    (List.range m).flatMap (fun k => t.extract (before t k).length (upto t k).length ++
      t.extract (upto t k).length (before t (k + 1)).length) = before t m := by
  induction m with
  | zero => rfl
  | succ m ih =>
    obtain ⟨l, hl⟩ := exists_line (t := t) hm
    obtain ⟨w, hlw, hcontent, hterminator, -⟩ := extract_line hl
    rw [List.range_succ, List.flatMap_append, ih (Nat.le_of_succ_le hm), List.flatMap_singleton,
      hcontent, hterminator, ← hlw, before_succ hl]

theorem before_lineCount (t : Text) : before t (lineCount t) = t := by
  rw [before, lineCount, List.take_length, flatten_lines]

theorem upto_last {l : Text} (h : (lines t)[k]? = some l) (hk : k + 1 = lineCount t) :
    upto t k = t := by
  obtain ⟨w, u, hl, -, hend⟩ := line_split h
  rcases hend with ⟨hlt, -⟩ | ⟨-, rfl, -⟩
  · omega
  · rw [List.append_nil] at hl
    rw [upto_eq h, ← hl, ← before_succ h, hk, before_lineCount]

end Cuts

/-- **The line table tiles its text.** From its start to its end a line has no break, and its length
is that of these characters in code units. From there to the start of the next line stands one
terminator, and the last line ends with the text. All of it put together again is the text. A line
ends at a feed or at a return that no feed follows, at no other character, and there is one line
more than there are such places. -/
theorem lineTable_tiles (t : Text) : ∃ start stop : Nat → Nat,
    (∀ k ≤ lineCount t, lineStart? t k = some (start k)) ∧
    (∀ k < lineCount t, lineEnd? t k = some (stop k)) ∧
    start 0 = 0 ∧ stop (lineCount t - 1) = t.length ∧
    (∀ k < lineCount t, start k ≤ stop k ∧ Unbroken (t.extract (start k) (stop k)) ∧
      lineUnits? t k = some (units (t.extract (start k) (stop k))).length) ∧
    (∀ k, k + 1 < lineCount t →
      IsTerminator (t.extract (stop k) (start (k + 1))) (t.drop (start (k + 1)))) ∧
    (List.range (lineCount t)).flatMap (fun k =>
      t.extract (start k) (stop k) ++ t.extract (stop k) (start (k + 1))) = t ∧
    (∀ i, EndsLine t i ↔ ∃ k, k + 1 < lineCount t ∧ start (k + 1) = i + 1) ∧
    {i | EndsLine t i}.encard + 1 = lineCount t := by
  refine ⟨fun k => (before t k).length, fun k => (upto t k).length, ?_, ?_, rfl, ?_, ?_, ?_, ?_,
    endsLine_iff t, encard_endsLine t⟩
  · intro k hk
    exact lineStart?_of_le hk
  · intro k hk
    obtain ⟨l, hl⟩ := exists_line hk
    dsimp only
    rw [lineEnd?_eq hl, upto_eq hl]
  · have hlast : lineCount t - 1 + 1 = lineCount t := Nat.sub_add_cancel (lineCount_pos t)
    obtain ⟨l, hl⟩ := exists_line (t := t) (k := lineCount t - 1) (by omega)
    exact congrArg List.length (upto_last hl hlast)
  · intro k hk
    obtain ⟨l, hl⟩ := exists_line hk
    obtain ⟨w, -, hcontent, -, -⟩ := extract_line hl
    rw [hcontent, length_units]
    dsimp only
    rw [upto_eq hl, List.length_append]
    exact ⟨Nat.le_add_right _ _, unbroken_content l, lineUnits?_eq hl⟩
  · intro k hk
    obtain ⟨l, hl⟩ := exists_line (Nat.lt_of_succ_lt hk)
    obtain ⟨w, -, -, hterminator, hw⟩ := extract_line hl
    rw [hterminator]
    exact hw hk
  · rw [flatMap_extract le_rfl, before_lineCount]

/-- A return in front of a pair ends a line of its own. Other separators are part of the content. -/
example : lines ['a', '\r', '\r', '\n', '\u2028', '\x85', '\x0b', '\x0c', '\n', '\r'] =
    [['a', '\r'], ['\r', '\n'], ['\u2028', '\x85', '\x0b', '\x0c', '\n'], ['\r'], []] := by
  decide

end DocSync.Text
