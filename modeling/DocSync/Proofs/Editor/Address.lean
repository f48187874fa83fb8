import DocSync.Proofs.Text.Splice
import DocSync.Editor.Basic

/-! # Addresses in units and in characters

The editor scans code units for its line starts, and the server looks up its line table in
characters. On the units of a text both find the same places: `address?_units` for positions and
`replace?_units` for replacements.
-/

namespace DocSync.Editor
open Text

section Units

theorem units_cons (c : Char) (t : Text) : units (c :: t) = charUnits c ++ units t := by
  simp [units]

theorem units_append (s t : Text) : units (s ++ t) = units s ++ units t := by
  simp [units]

theorem toNat_bounds (c : Char) : c.toNat < 0xD800 ∨ 0xDFFF < c.toNat ∧ c.toNat < 0x110000 :=
  c.valid

theorem isHigh_iff {u : UInt16} : isHigh u = true ↔ 0xD800 ≤ u.toNat ∧ u.toNat < 0xDC00 := by
  simp [isHigh, UInt16.le_iff_toNat_le, UInt16.lt_iff_toNat_lt]

theorem isLow_iff {u : UInt16} : isLow u = true ↔ 0xDC00 ≤ u.toNat ∧ u.toNat < 0xE000 := by
  simp [isLow, UInt16.le_iff_toNat_le, UInt16.lt_iff_toNat_lt]

theorem isBreak_iff {u : UInt16} : isBreak u = true ↔ u.toNat = 10 ∨ u.toNat = 13 := by
  simp [isBreak, lineFeed, carriageReturn, ← UInt16.toNat_inj]

/-- A character is one unit that is no half of a pair, or it is a pair. -/
theorem charUnits_cases (c : Char) :
    (∃ u : UInt16, charUnits c = [u] ∧ u.toNat = c.toNat ∧ isHigh u = false) ∨
      0x10000 ≤ c.toNat ∧ ∃ h l, charUnits c = [h, l] ∧ isHigh h = true ∧ isLow l = true := by
  have hc := toNat_bounds c
  unfold charUnits
  split
  · next h =>
    have hu : (UInt16.ofNat c.toNat).toNat = c.toNat := by
      rw [UInt16.toNat_ofNat']
      omega
    refine .inl ⟨_, rfl, hu, ?_⟩
    rw [← Bool.not_eq_true, isHigh_iff, hu]
    omega
  · next h =>
    refine .inr ⟨by omega, _, _, rfl, ?_, ?_⟩
    · rw [isHigh_iff, UInt16.toNat_ofNat']
      omega
    · rw [isLow_iff, UInt16.toNat_ofNat']
      omega

/-- Units begin with those of one character at most. -/
theorem charUnits_append_inj {c d : Char} {us vs : Units}
    (h : charUnits c ++ us = charUnits d ++ vs) : c = d ∧ us = vs := by
  have hc := toNat_bounds c
  have hd := toNat_bounds d
  rw [← Char.toNat_inj]
  unfold charUnits at h
  split at h <;> split at h <;> simp only [List.cons_append, List.nil_append, List.cons.injEq,
    ← UInt16.toNat_inj, UInt16.toNat_ofNat'] at h
  · exact ⟨by omega, h.2⟩
  · omega
  · omega
  · exact ⟨by omega, h.2.2⟩

theorem charUnits_ne_nil (c : Char) : charUnits c ≠ [] := by
  unfold charUnits
  split <;> simp

/-- A text can be read from its units in one way only. -/
theorem units_injective : Function.Injective units := by
  intro s t h
  induction s generalizing t with
  | nil =>
    cases t with
    | nil => rfl
    | cons d t =>
      rw [units_cons] at h
      exact absurd h.symm (List.append_ne_nil_of_left_ne_nil (charUnits_ne_nil d) _)
  | cons c s ih =>
    cases t with
    | nil =>
      rw [units_cons] at h
      exact absurd h (List.append_ne_nil_of_left_ne_nil (charUnits_ne_nil c) _)
    | cons d t =>
      rw [units_cons, units_cons] at h
      obtain ⟨rfl, hst⟩ := charUnits_append_inj h
      rw [ih hst]

theorem isBreak_of_toNat {u : UInt16} {c : Char} (h : u.toNat = c.toNat) :
    isBreak u = Text.isBreak c := by
  rw [Bool.eq_iff_iff, isBreak_iff, h]
  simp [Text.isBreak, ← Char.toNat_inj]

/-- A break in the units of a character is the whole of it. -/
theorem takeWhile_charUnits (c : Char) (us : Units) :
    (charUnits c ++ us).takeWhile (! isBreak ·) =
      if Text.isBreak c then [] else charUnits c ++ us.takeWhile (! isBreak ·) := by
  rcases charUnits_cases c with ⟨u, hc, hu, -⟩ | ⟨hbig, h, l, hc, hh, hl⟩
  · rw [hc, List.singleton_append, List.takeWhile_cons, isBreak_of_toNat hu]
    cases Text.isBreak c <;> rfl
  · rw [isHigh_iff] at hh
    rw [isLow_iff] at hl
    have hbh : isBreak h = false := by
      rw [← Bool.not_eq_true, isBreak_iff]
      omega
    have hbl : isBreak l = false := by
      rw [← Bool.not_eq_true, isBreak_iff]
      omega
    have hbc : Text.isBreak c = false := by
      rw [isBreak_eq_false]
      constructor <;> rintro rfl <;> revert hbig <;> decide
    simp [hc, hbh, hbl, hbc]

/-- The scan for the end of a line stops at the same character as one over characters. -/
theorem takeWhile_units (t : Text) :
    (units t).takeWhile (! isBreak ·) = units (content t) := by
  induction t with
  | nil => rfl
  | cons c t ih =>
    rw [units_cons, takeWhile_charUnits, content, List.takeWhile_cons]
    cases hc : Text.isBreak c
    · simp only [Bool.not_false, Bool.false_eq_true, if_true, if_false, units_cons, ih]
      rfl
    · simp [units]

end Units

section Lines
variable {t l : Text} {k : Nat}

theorem startsFrom_charUnits {c : Char} (hc : Text.isBreak c = false) (i : Nat) (us : Units) :
    startsFrom i (charUnits c ++ us) = startsFrom (i + unitSize c) us := by
  have step {u : UInt16} (hu : isBreak u = false) (i : Nat) (us : Units) :
      startsFrom i (u :: us) = startsFrom (i + 1) us := by
    have hr : u ≠ carriageReturn := by
      rintro rfl
      cases hu
    simp [startsFrom, hr, hu]
  have hbreak : ∀ u ∈ charUnits c, isBreak u = false := by
    have h := takeWhile_charUnits c []
    rw [hc, if_neg Bool.false_ne_true, List.append_nil, List.takeWhile_nil, List.append_nil,
      List.takeWhile_eq_self_iff] at h
    simpa using h
  rw [← length_charUnits]
  generalize charUnits c = cs at hbreak
  induction cs generalizing i with
  | nil => rfl
  | cons u cs ih =>
    rw [List.cons_append, step (hbreak u (by simp)),
      ih _ (fun v hv => hbreak v (List.mem_cons_of_mem _ hv)), List.length_cons]
    congr 1
    omega

theorem startsFrom_unbroken {a : Text} (ha : Unbroken a) (i : Nat) (us : Units) :
    startsFrom i (units a ++ us) = startsFrom (i + unitLength a) us := by
  induction a generalizing i with
  | nil => rfl
  | cons c a ih =>
    obtain ⟨hc, ha⟩ := unbroken_cons.1 ha
    rw [units_cons, List.append_assoc, startsFrom_charUnits hc, ih ha]
    simp only [unitLength, weight_cons, Nat.add_assoc]

theorem head?_units_ne {u : Text} (hu : u.head? ≠ some '\n') :
    (units u).head? ≠ some lineFeed := by
  cases u with
  | nil => simp [units]
  | cons c u =>
    rw [units_cons]
    rcases charUnits_cases c with ⟨v, hc, hv, -⟩ | ⟨-, h, l, hc, hh, -⟩
    · rw [hc, List.singleton_append, List.head?_cons]
      rintro hf
      obtain rfl := Option.some.inj hf
      refine hu (congrArg some (Char.toNat_inj.1 ?_))
      rw [← hv]
      rfl
    · rw [hc, List.cons_append, List.head?_cons]
      rintro hf
      obtain rfl := Option.some.inj hf
      cases hh

theorem startsFrom_terminator {w u : Text} (hw : IsTerminator w u) (i : Nat) :
    startsFrom i (units w ++ units u) =
      (i + unitLength w) :: startsFrom (i + unitLength w) (units u) := by
  rcases hw with rfl | rfl | ⟨rfl, hu⟩
  · have hf : units ['\n'] = [lineFeed] := rfl
    have hr : lineFeed ≠ carriageReturn := by decide
    have hb : isBreak lineFeed = true := rfl
    rw [hf, List.singleton_append, startsFrom, if_neg (by simp [hr]), if_pos hb]
    rfl
  · have hrf : units ['\r', '\n'] = [carriageReturn, lineFeed] := rfl
    have hr : lineFeed ≠ carriageReturn := by decide
    have hb : isBreak lineFeed = true := rfl
    rw [hrf, List.cons_append, List.singleton_append, startsFrom, if_pos ⟨rfl, rfl⟩, startsFrom,
      if_neg (by simp [hr]), if_pos hb]
    rfl
  · have hr : units ['\r'] = [carriageReturn] := rfl
    have hb : isBreak carriageReturn = true := rfl
    rw [hr, List.singleton_append, startsFrom, if_neg (fun h => head?_units_ne hu h.2), if_pos hb]
    rfl

/-- The scan finds the lines of the line table, each behind the units in front of it. -/
theorem getElem?_startsFrom (t : Text) (i k : Nat) : (i :: startsFrom i (units t))[k]? =
    ((lines t)[k]?).map fun _ => i + unitLength (before t k) := by
  induction t using lines_induction generalizing i k with
  | last a ha =>
    have hnil : startsFrom i (units a) = [] := by
      have h := startsFrom_unbroken ha i []
      rwa [List.append_nil, startsFrom] at h
    rw [hnil, lines_of_unbroken ha]
    cases k <;> simp [before]
  | line a w u ha hw ih =>
    rw [units_append, startsFrom_unbroken ha, units_append, startsFrom_terminator hw,
      lines_append ha hw]
    cases k with
    | zero => simp [before]
    | succ k =>
      rw [List.getElem?_cons_succ, ih, List.getElem?_cons_succ, before_append ha hw]
      simp only [unitLength, weight_append, Nat.add_assoc]

theorem getElem?_lineStarts (t : Text) (k : Nat) : (lineStarts (units t))[k]? =
    ((lines t)[k]?).map fun _ => unitLength (before t k) := by
  have h := getElem?_startsFrom t 0 k
  simp only [Nat.zero_add] at h
  exact h

theorem lineLength_units (h : (lines t)[k]? = some l) :
    lineLength (units t) (unitLength (before t k)) = unitLength (content l) := by
  obtain ⟨w, u, hl, ht, hend⟩ := line_split h
  have hdrop : (units t).drop (unitLength (before t k)) = units (l ++ u) := by
    have h := drop_flatMap length_charUnits (before t k) (l ++ u)
    rwa [← ht] at h
  have hcontent : content (l ++ u) = content l := by
    rcases hend with ⟨-, hw⟩ | ⟨-, -, rfl⟩
    · calc content (l ++ u) = content (content l ++ (w ++ u)) := by rw [← List.append_assoc, ← hl]
        _ = content l := content_append (unbroken_content l) hw u
    · rw [List.append_nil]
  rw [lineLength, hdrop, takeWhile_units, hcontent, length_units]

end Lines

section Pairs
variable {t : Text}

theorem isHigh_getLast_charUnits (c : Char) : (charUnits c).getLast?.any isHigh = false := by
  rcases charUnits_cases c with ⟨u, hc, -, hu⟩ | ⟨-, h, l, hc, -, hl⟩
  · rw [hc]
    exact hu
  · rw [hc]
    show isHigh l = false
    rw [isLow_iff] at hl
    rw [← Bool.not_eq_true, isHigh_iff]
    omega

/-- A pair is not split where the units in front of it end with no first half. -/
theorem splitsPair_append {ps : Units} (h : ps.getLast?.any isHigh = false) (us : Units) (i : Nat) :
    splitsPair (ps ++ us) (ps.length + i) = splitsPair us i := by
  cases i with
  | zero =>
    rcases List.eq_nil_or_concat ps with rfl | ⟨qs, q, rfl⟩
    · rfl
    · rw [List.concat_eq_append] at h ⊢
      rw [List.getLast?_concat, Option.any_some] at h
      simp [splitsPair, h]
  | succ i =>
    have hlo : (ps ++ us)[ps.length + i + 1]? = us[i + 1]? := by
      rw [Nat.add_assoc, List.getElem?_append_right (Nat.le_add_right _ _), Nat.add_sub_cancel_left]
    have hhi : (ps ++ us)[ps.length + i]? = us[i]? := by
      rw [List.getElem?_append_right (Nat.le_add_right _ _), Nat.add_sub_cancel_left]
    simp [splitsPair, ← Nat.add_assoc, hlo, hhi]

/-- Only the second unit of a pair starts neither at its character nor behind it. -/
theorem splitsPair_inside {c : Char} {i : Nat} (hi : i ≠ 0) (hc : i < unitSize c) (t : Text) :
    splitsPair (units (c :: t)) i = true := by
  have hlen := length_charUnits c
  rcases charUnits_cases c with ⟨u, hu, -⟩ | ⟨-, x, y, hu, hx, hy⟩
  · rw [hu, List.length_singleton] at hlen
    omega
  · rw [hu, List.length_cons, List.length_singleton] at hlen
    obtain rfl : i = 1 := by omega
    rw [units_cons, hu]
    simp [splitsPair, hx, hy]

theorem exists_beginning_cons {c : Char} {i : Nat} (hi : i ≠ 0) :
    (∃ a, a <+: c :: t ∧ unitLength a = i) ↔ ∃ b, b <+: t ∧ unitSize c + unitLength b = i := by
  constructor
  · rintro ⟨a, ha, rfl⟩
    rcases List.prefix_cons_iff.1 ha with rfl | ⟨b, rfl, hb⟩
    · exact absurd rfl hi
    · exact ⟨b, hb, rfl⟩
  · rintro ⟨b, hb, rfl⟩
    exact ⟨c :: b, List.cons_prefix_cons.2 ⟨rfl, hb⟩, rfl⟩

/-- Within a text, the offsets that split no pair are those of its beginnings. -/
theorem splitsPair_units {i : Nat} (h : i ≤ unitLength t) :
    splitsPair (units t) i = false ↔ ∃ a, a <+: t ∧ unitLength a = i := by
  induction t generalizing i with
  | nil =>
    obtain rfl : i = 0 := Nat.le_zero.1 h
    exact ⟨fun _ => ⟨[], List.prefix_rfl, rfl⟩, fun _ => rfl⟩
  | cons c t ih =>
    have hcons : unitLength (c :: t) = unitSize c + unitLength t := rfl
    rw [hcons] at h
    by_cases hi : i = 0
    · subst hi
      exact ⟨fun _ => ⟨[], List.nil_prefix, rfl⟩, fun _ => rfl⟩
    rw [exists_beginning_cons hi]
    by_cases hc : unitSize c ≤ i
    · obtain ⟨j, rfl⟩ := Nat.exists_eq_add_of_le hc
      simp only [Nat.add_left_cancel_iff]
      rw [units_cons, ← length_charUnits, splitsPair_append (isHigh_getLast_charUnits c),
        ih (by omega)]
    · rw [splitsPair_inside hi (Nat.lt_of_not_le hc)]
      constructor
      · rintro ⟨⟩
      · rintro ⟨b, -, hb⟩
        omega

end Pairs

section Places
variable {t : Text} {p : Position}

/-- The part of a line that a character of it says, if the character splits no pair. -/
theorem splitsPair_line {l : Text} {k n : Nat} (h : (lines t)[k]? = some l)
    (hn : n ≤ unitLength (content l)) : splitsPair (units t) (unitLength (before t k) + n) = false ↔
      ∃ a, a <+: content l ∧ unitLength a = n := by
  have hp := prefix_before_append_content h
  have happend (a : Text) : unitLength (before t k ++ a) = unitLength (before t k) + unitLength a :=
    weight_append _ _
  have hle : unitLength (before t k ++ content l) ≤ unitLength t := weight_le_weight hp
  rw [happend] at hle
  rw [splitsPair_units (by omega)]
  constructor
  · rintro ⟨b, hb, hbn⟩
    obtain ⟨a, rfl⟩ : before t k <+: b :=
      prefix_of_weight_le unitSize_pos ((List.prefix_append _ _).trans hp) hb
        (show unitLength (before t k) ≤ unitLength b by omega)
    rw [happend, Nat.add_left_cancel_iff] at hbn
    have ha : before t k ++ a <+: before t k ++ content l :=
      prefix_of_weight_le unitSize_pos hb hp
        (show unitLength (before t k ++ a) ≤ unitLength (before t k ++ content l) by
          rw [happend, happend]; omega)
    exact ⟨a, (List.prefix_append_right_inj _).1 ha, hbn⟩
  · rintro ⟨a, ha, rfl⟩
    exact ⟨before t k ++ a, ((List.prefix_append_right_inj _).2 ha).trans hp, happend a⟩

theorem toOption_map_eq_some {ε α β : Type} {e : Except ε α} {f : α → β} {b : β} :
    e.toOption.map f = some b ↔ ∃ x, e = .ok x ∧ f x = b := by
  cases e <;> simp [Except.toOption]

/-- The editor may send exactly the positions that the server accepts, and means the same place. -/
theorem address?_units (t : Text) (p : Position) :
    address? (units t) p = (resolve t p).toOption.map (·.unit) := by
  refine Option.ext fun i => ?_
  rw [toOption_map_eq_some]
  cases hl : (lines t)[p.line.toNat]? with
  | none =>
    have hnone : address? (units t) p = .none := by simp [address?, getElem?_lineStarts, hl]
    rw [hnone]
    constructor
    · rintro ⟨⟩
    · rintro ⟨x, hx, -⟩
      obtain ⟨l, a, hl', -⟩ := resolve_eq_ok.1 hx
      rw [hl] at hl'
      cases hl'
  | some l =>
    have hsome : address? (units t) p = some i ↔
        (p.character.toNat ≤ unitLength (content l) ∧
          splitsPair (units t) (unitLength (before t p.line.toNat) + p.character.toNat) = false) ∧
        unitLength (before t p.line.toNat) + p.character.toNat = i := by
      simp [address?, getElem?_lineStarts, hl, lineLength_units hl]
    rw [hsome]
    constructor
    · rintro ⟨⟨hn, hsplit⟩, rfl⟩
      obtain ⟨a, ha, han⟩ := (splitsPair_line hl hn).1 hsplit
      refine ⟨_, resolve_eq_ok.2 ⟨l, a, hl, ha, han, rfl⟩, ?_⟩
      rw [← han]
      exact weight_append _ _
    · rintro ⟨x, hx, rfl⟩
      obtain ⟨l', a, hl', ha, han, rfl⟩ := resolve_eq_ok.1 hx
      obtain rfl : l = l' := Option.some.inj (hl.symm.trans hl')
      have hn : p.character.toNat ≤ unitLength (content l) := by
        rw [← han]
        exact weight_le_weight ha
      refine ⟨⟨hn, (splitsPair_line hl hn).2 ⟨a, ha, han⟩⟩, ?_⟩
      rw [← han]
      exact (weight_append _ _).symm

end Places

section Replacements
variable {t : Text} {p : Position} {r : Range} {x y : Offsets}

/-- The order of two places is the order of the positions. -/
theorem unit_le_unit_iff (hx : resolve t r.start = .ok x) (hy : resolve t r.stop = .ok y) :
    x.unit ≤ y.unit ↔ ¬ r.stop < r.start := by
  constructor
  · intro hle hlt
    have := unit_lt_unit hlt hy hx
    omega
  · intro h
    rw [unit_of_resolve hx, unit_of_resolve hy]
    exact weight_take_mono t (char_le_char h hx hy)

/-- Replacing units is replacing characters, and the same replacements are refused. -/
theorem replace?_units (t w : Text) (r : Range) :
    replace? (units t) r (units w) = (Text.replace t r w).toOption.map units := by
  have hright : (Text.replace t r w).toOption.map units =
      (edit t r w).toOption.map fun e => units (e.splice t) := by
    rw [replace_eq]
    cases edit t r w <;> rfl
  refine Option.ext fun us => ?_
  rw [hright, toOption_map_eq_some]
  have hleft : replace? (units t) r (units w) = some us ↔ ∃ x y, resolve t r.start = .ok x ∧
      resolve t r.stop = .ok y ∧ x.unit ≤ y.unit ∧
      (units t).take x.unit ++ units w ++ (units t).drop y.unit = us := by
    rw [replace?, address?_units, address?_units]
    cases resolve t r.start <;> cases resolve t r.stop <;> simp [Except.toOption]
  rw [hleft]
  constructor
  · rintro ⟨x, y, hx, hy, hle, rfl⟩
    exact ⟨_, edit_eq_ok.2 ⟨(unit_le_unit_iff hx hy).1 hle, x, y, hx, hy, rfl⟩,
      units_splice hx hy w⟩
  · rintro ⟨e, he, rfl⟩
    obtain ⟨hr, x, y, hx, hy, rfl⟩ := edit_eq_ok.1 he
    exact ⟨x, y, hx, hy, (unit_le_unit_iff hx hy).2 hr, (units_splice hx hy w).symm⟩

end Replacements

end DocSync.Editor
