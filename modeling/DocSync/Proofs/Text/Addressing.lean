import DocSync.Proofs.Text.Content
import DocSync.Text.Edit

/-! # What positions resolve to

The line table is index arithmetic, and a position is resolved by adding up code units and rounding
down to a character. `resolve_eq_ok` says the same about texts: an accepted position stands after
all lines in front of its own and a part of the content of that line, and its offsets are the
lengths of the text up to there.
-/

namespace DocSync

theorem Position.lt_iff_toNat {p q : Position} : p < q ↔ p.line.toNat < q.line.toNat ∨
    p.line.toNat = q.line.toNat ∧ p.character.toNat < q.character.toNat := by
  simp only [lt_def, UInt32.lt_iff_toNat_lt, ← UInt32.toNat_inj]

namespace Text

section Weight
variable {w : Char → Nat}

theorem charsWithin_append (s t : Text) (n : Nat) :
    charsWithin w (s ++ t) (weight w s + n) = s.length + charsWithin w t n := by
  induction s with
  | nil => simp
  | cons c s ih =>
    rw [List.cons_append, charsWithin, weight_cons, if_pos (by omega),
      show w c + weight w s + n - w c = weight w s + n by omega, ih, List.length_cons]
    omega

theorem eq_nil_of_weight_eq_zero (hw : ∀ c, 0 < w c) {t : Text} (h : weight w t = 0) : t = [] := by
  cases t with
  | nil => rfl
  | cons c t =>
    have hc := hw c
    rw [weight_cons] at h
    omega

theorem weight_le_weight {s t : Text} (h : s <+: t) : weight w s ≤ weight w t := by
  obtain ⟨r, rfl⟩ := h
  rw [weight_append]
  exact Nat.le_add_right _ _

/-- Of two beginnings of a text, one without more weight is a beginning of the other. -/
theorem prefix_of_weight_le (hw : ∀ c, 0 < w c) {a b t : Text} (ha : a <+: t) (hb : b <+: t)
    (h : weight w a ≤ weight w b) : a <+: b := by
  rcases List.prefix_or_prefix_of_prefix ha hb with hab | ⟨r, rfl⟩
  · exact hab
  · rw [weight_append] at h
    have hr : r = [] := eq_nil_of_weight_eq_zero hw (by omega)
    simp [hr]

theorem charsWithin_zero (hw : ∀ c, 0 < w c) (t : Text) : charsWithin w t 0 = 0 := by
  simpa using charsWithin_weight_take hw (Nat.zero_le t.length)

/-- What comes after a text owns none of its offsets. -/
theorem charsWithin_append_left (hw : ∀ c, 0 < w c) {a : Text} (r : Text) {n : Nat}
    (h : n ≤ weight w a) : charsWithin w (a ++ r) n = charsWithin w a n := by
  induction a generalizing n with
  | nil =>
    obtain rfl : n = 0 := Nat.le_zero.1 h
    rw [List.nil_append, charsWithin_zero hw, charsWithin_zero hw]
  | cons c a ih =>
    rw [weight_cons] at h
    rw [List.cons_append, charsWithin, charsWithin]
    split
    · rw [ih (by omega)]
    · rfl

/-- Within a part of a text, offsets are counted from where the part begins. -/
theorem charsWithin_inside (hw : ∀ c, 0 < w c) {a b t : Text} (h : b ++ a <+: t) {n : Nat}
    (hn : n ≤ weight w a) : charsWithin w t (weight w b + n) = b.length + charsWithin w a n := by
  obtain ⟨r, rfl⟩ := h
  rw [List.append_assoc, charsWithin_append, charsWithin_append_left hw r hn]

end Weight

section LineTable
variable {t l : Text} {k : Nat}

theorem dropLast?_eq {c : Char} {n : Nat} (h : n ≤ l.length) :
    dropLast? c l n = some (if (l.take n).getLast? = some c then n - 1 else n) := by
  cases n with
  | zero => simp [dropLast?]
  | succ n =>
    have hn : n < l.length := h
    have hlast : (l.take (n + 1)).getLast? = some l[n] := by
      rw [List.take_succ_eq_append_getElem hn, List.getLast?_concat]
    rw [dropLast?, if_pos n.succ_pos, sub?_of_le (by omega : 1 ≤ n + 1), hlast]
    simp only [Nat.add_sub_cancel, Option.bind_eq_bind, Option.bind_some,
      List.getElem?_eq_getElem hn, Option.some.injEq]
    split <;> rfl

theorem Unbroken.getLast?_ne {a : Text} (ha : Unbroken a) {c : Char} (hc : isBreak c = true) :
    a.getLast? ≠ some c := by
  intro h
  have := ha c (List.mem_of_getLast? h)
  rw [hc] at this
  cases this

/-- The back of a line without its terminator is that of its content. -/
theorem dropLast?_line {a w u : Text} (ha : Unbroken a) (hw : w = [] ∨ IsTerminator w u) :
    (dropLast? '\n' (a ++ w) (a ++ w).length).bind (dropLast? '\r' (a ++ w)) =
      some a.length := by
  have hn := ha.getLast?_ne (c := '\n') (by decide)
  have hr := ha.getLast?_ne (c := '\r') (by decide)
  have htake : (a ++ w).take a.length = a := List.take_left
  rw [dropLast?_eq le_rfl, List.take_length, Option.bind_some]
  rcases hw with rfl | rfl | rfl | ⟨rfl, -⟩
  · rw [List.append_nil, if_neg hn, dropLast?_eq le_rfl, List.take_length, if_neg hr]
  · simp only [List.getLast?_concat, if_true, List.length_append, List.length_singleton,
      Nat.add_sub_cancel]
    rw [dropLast?_eq (by simp), htake, if_neg hr]
  · have hlast : (a ++ ['\r', '\n']).getLast? = some '\n' := by
      rw [List.getLast?_append]; rfl
    have htake' : (a ++ ['\r', '\n']).take (a.length + 1) = a ++ ['\r'] := by
      simp [List.take_append, List.take_of_length_le]
    rw [if_pos hlast, List.length_append,
      show a.length + ['\r', '\n'].length - 1 = a.length + 1 by simp,
      dropLast?_eq (by simp), htake', if_pos List.getLast?_concat, Nat.add_sub_cancel]
  · have hne : ¬ some '\r' = some '\n' := by decide
    rw [List.getLast?_concat, if_neg hne, dropLast?_eq le_rfl, List.take_length,
      List.getLast?_concat, if_pos rfl, List.length_append]
    rfl

theorem lt_lineCount (h : (lines t)[k]? = some l) : k < lineCount t := by
  rw [lineCount]
  exact (List.getElem?_eq_some_iff.1 h).1

theorem exists_line {t : Text} (h : k < lineCount t) : ∃ l, (lines t)[k]? = some l :=
  ⟨_, List.getElem?_eq_getElem h⟩

theorem before_succ (h : (lines t)[k]? = some l) : before t (k + 1) = before t k ++ l := by
  simp [before, List.take_add_one, h]

theorem before_mono (t : Text) {i j : Nat} (h : i ≤ j) : before t i <+: before t j := by
  refine ⟨(((lines t).take j).drop i).flatten, ?_⟩
  rw [before, before, ← List.flatten_append]
  conv_rhs => rw [← List.take_append_drop i ((lines t).take j), List.take_take, Nat.min_eq_left h]

theorem take_charsBefore (t : Text) (k : Nat) :
    t.take (charsBefore (lines t) k) = before t k := by
  have ht : t = before t k ++ ((lines t).drop k).flatten := by
    rw [before, ← List.flatten_append, List.take_append_drop, flatten_lines]
  calc t.take (charsBefore (lines t) k)
      = (before t k ++ ((lines t).drop k).flatten).take (before t k).length := by rw [← ht]; rfl
    _ = before t k := List.take_left

theorem lineEnd?_eq (h : (lines t)[k]? = some l) :
    lineEnd? t k = some (before t k ++ content l).length := by
  obtain ⟨w, u, hl, -, hw⟩ := line_split h
  have hw : w = [] ∨ IsTerminator w u := by
    rcases hw with ⟨-, hw⟩ | ⟨-, rfl, -⟩
    · exact .inr hw
    · exact .inl rfl
  have hdrop := dropLast?_line (unbroken_content l) hw
  rw [← hl] at hdrop
  obtain ⟨n, hn, hc⟩ := Option.bind_eq_some_iff.1 hdrop
  simp only [lineEnd?, line?, h, hn, hc, lineStart?_of_le (lt_lineCount h).le,
    Option.bind_eq_bind, Option.bind_some, List.length_append]
  rfl

theorem prefix_before_append_content (h : (lines t)[k]? = some l) :
    before t k ++ content l <+: t := by
  obtain ⟨w, u, hl, ht, -⟩ := line_split h
  refine ⟨w ++ u, ?_⟩
  rw [List.append_assoc, ← List.append_assoc (content l), ← hl, ← ht]

theorem lineUnits?_eq (h : (lines t)[k]? = some l) :
    lineUnits? t k = some (unitLength (content l)) := by
  have hp := prefix_before_append_content h
  have hstart := charsBefore_le_length t k
  simp only [lineUnits?, lineStart?_of_le (lt_lineCount h).le, lineEnd?_eq h,
    offsetOf?_of_le hstart, offsetOf?_of_le hp.length_le, take_charsBefore,
    ← List.prefix_iff_eq_take.1 hp, Option.bind_eq_bind, Option.bind_some]
  rw [weight_append, sub?_of_le (Nat.le_add_right _ _), Nat.add_sub_cancel_left]

end LineTable

/-- The offsets of the end of a text. -/
def ends (s : Text) : Offsets := ⟨s.length, byteLength s, unitLength s⟩

section Resolve
variable {t : Text} {p q : Position} {x y : Offsets}

theorem byte_of_resolve (h : resolve t p = .ok x) : x.byte = byteLength (t.take x.char) :=
  (of_resolve_eq_ok h).2.2.2.2.1

theorem unit_of_resolve (h : resolve t p = .ok x) : x.unit = unitLength (t.take x.char) :=
  (of_resolve_eq_ok h).2.2.2.2.2

theorem resolve_of_lineCount_le (h : lineCount t ≤ p.line.toNat) :
    resolve t p = .error (.lineOutOfBounds (lineCount t)) := by
  have hr := resolve?_eq t p
  rw [resolve?, if_pos h] at hr
  exact (Option.some.inj hr).symm

/-- On a line of the table, the part of its content that its units fill decides. -/
theorem resolve_of_line {l : Text} (h : (lines t)[p.line.toNat]? = some l) :
    let n := p.character.toNat
    let a := (content l).take (charsWithin unitSize (content l) n)
    resolve t p =
      if unitLength (content l) < n then .error (.characterOutOfBounds (unitLength (content l)))
      else if unitLength a ≠ n then .error .insideSurrogatePair
      else .ok (ends (before t p.line.toNat ++ a)) := by
  intro n a
  have hr := resolve?_eq t p
  obtain ⟨m, hm, he⟩ := resolve?_of_lt (lt_lineCount h)
  obtain rfl : unitLength (content l) = m := Option.some.inj ((lineUnits?_eq h).symm.trans hm)
  rw [he, Option.some.injEq, take_charsBefore] at hr
  rw [← hr]
  split
  · rfl
  · next hn =>
    have hp := prefix_before_append_content h
    have hchar : charsWithin unitSize t (unitLength (before t p.line.toNat) + n) =
        (before t p.line.toNat ++ a).length := by
      rw [charsWithin_inside unitSize_pos hp (not_lt.1 hn), List.length_append, List.length_take,
        Nat.min_eq_left (charsWithin_le_length _ _)]
    have htake : t.take (before t p.line.toNat ++ a).length = before t p.line.toNat ++ a := by
      refine (List.prefix_iff_eq_take.1 ?_).symm
      exact ((List.prefix_append_right_inj _).2 (List.take_prefix _ _)).trans hp
    simp only [n] at hchar
    simp only [hchar, htake, ends, weight_append, ne_eq, Nat.add_left_cancel_iff]
    split
    · rfl
    · next ha =>
      rw [not_not.1 ha]

/-- An accepted position is reached by the lines in front of it and the part of the content of its
own line that is as long as its character says. -/
theorem resolve_eq_ok : resolve t p = .ok x ↔
    ∃ l a, (lines t)[p.line.toNat]? = some l ∧ a <+: content l ∧
      unitLength a = p.character.toNat ∧ x = ends (before t p.line.toNat ++ a) := by
  constructor
  · intro h
    obtain ⟨l, hl⟩ := exists_line (of_resolve_eq_ok h).1
    rw [resolve_of_line hl] at h
    split at h
    · cases h
    · split at h
      · cases h
      · next ha => exact ⟨l, _, hl, List.take_prefix _ _, not_not.1 ha, (Except.ok.inj h).symm⟩
  · rintro ⟨l, a, hl, ha, hp, rfl⟩
    have htake : (content l).take a.length = a := (List.prefix_iff_eq_take.1 ha).symm
    have hchar : charsWithin unitSize (content l) p.character.toNat = a.length := by
      rw [← hp, ← htake, charsWithin_weight_take unitSize_pos ha.length_le, htake]
    have hle : unitLength a ≤ unitLength (content l) := weight_le_weight ha
    rw [resolve_of_line hl, hchar, htake, if_neg (by omega), if_neg (not_not.2 hp)]

/-- Places keep the order of the positions they come from, strictly: a line that is not the last has
a terminator, which no position stands behind. -/
theorem unit_lt_unit (h : q < p) (hq : resolve t q = .ok y) (hp : resolve t p = .ok x) :
    y.unit < x.unit := by
  obtain ⟨l, a, hl, ha, hac, rfl⟩ := resolve_eq_ok.1 hq
  obtain ⟨m, b, hm, hb, hbc, rfl⟩ := resolve_eq_ok.1 hp
  simp only [ends, weight_append]
  rw [Position.lt_iff_toNat] at h
  rcases h with h | ⟨hline, hchar⟩
  · obtain ⟨w, u, hlw, -, hend⟩ := line_split hl
    have hw : w ≠ [] := by
      rcases hend with ⟨-, hw⟩ | ⟨hlast, -, -⟩
      · exact hw.ne_nil
      · have := lt_lineCount hm
        omega
    have hpos : 0 < unitLength w :=
      Nat.pos_of_ne_zero fun h0 => hw (eq_nil_of_weight_eq_zero unitSize_pos h0)
    have hal : unitLength a ≤ unitLength (content l) := weight_le_weight ha
    have hle : unitLength (before t (q.line.toNat + 1)) ≤ unitLength (before t p.line.toNat) :=
      weight_le_weight (before_mono t h)
    rw [before_succ hl, hlw] at hle
    simp only [unitLength, weight_append] at hal hle hpos
    omega
  · rw [hline]
    simp only [unitLength] at hac hbc
    omega

end Resolve

end Text
end DocSync
