import DocSync.Proofs.Text.Correspondence

/-! # How far a text reaches

The extent of a text is the number of its breaks and the code units behind the last one: what a
position at its end says. Extents add up where two texts are joined, unless a return and a feed meet
there and become one break. `resolve_eq_ok_iff_extent` says by extents alone which positions are
accepted, and where.
-/

namespace DocSync

/-- Some breaks, and the code units behind the last one. -/
structure Extent where
  breaks : Nat
  units : Nat
  deriving DecidableEq, Repr

/-- One extent after another. What is in front of a break is not counted behind it. -/
instance : Add Extent where
  add x y := ⟨x.breaks + y.breaks, if y.breaks = 0 then x.units + y.units else y.units⟩

theorem Extent.add_def (x y : Extent) :
    x + y = ⟨x.breaks + y.breaks, if y.breaks = 0 then x.units + y.units else y.units⟩ := rfl

@[simp] theorem Extent.breaks_add (x y : Extent) : (x + y).breaks = x.breaks + y.breaks := rfl

/-- How far a position is from the beginning of a text. -/
def Position.extent (p : Position) : Extent := ⟨p.line.toNat, p.character.toNat⟩

theorem Position.extent_injective : Function.Injective Position.extent := by
  intro p q h
  obtain ⟨hline, hcharacter⟩ := Extent.mk.inj h
  cases p
  cases q
  rw [mk.injEq]
  exact ⟨UInt32.toNat_inj.1 hline, UInt32.toNat_inj.1 hcharacter⟩

namespace Text

/-- Where two texts are joined, the return at the end of one meets a feed. -/
def Fuses (a b : Text) : Prop := a.getLast? = some '\r' ∧ b.head? = some '\n'

instance (a b : Text) : Decidable (Fuses a b) := inferInstanceAs (Decidable (_ ∧ _))

section Fuses
variable {a b c : Text}

theorem Fuses.append_left (h : Fuses a c) (b : Text) : Fuses (b ++ a) c := by
  refine ⟨?_, h.2⟩
  rw [List.getLast?_append, h.1]
  rfl

theorem Fuses.append_right (h : Fuses a b) (c : Text) : Fuses a (b ++ c) := by
  refine ⟨h.1, ?_⟩
  rw [List.head?_append, h.2]
  rfl

theorem fuses_append_right_iff (hb : b ≠ []) : Fuses a (b ++ c) ↔ Fuses a b := by
  obtain ⟨d, b, rfl⟩ := List.exists_cons_of_ne_nil hb
  rfl

/-- What fuses with neither of two texts in its turn does not fuse with both of them joined. -/
theorem not_fuses_append (h : ¬ Fuses a (b ++ c)) (h' : ¬ Fuses b c) : ¬ Fuses (a ++ b) c := by
  rcases List.eq_nil_or_concat b with rfl | ⟨b, d, rfl⟩
  · rwa [List.append_nil]
  · rintro ⟨hlast, hhead⟩
    rw [List.concat_eq_append, ← List.append_assoc, List.getLast?_concat] at hlast
    exact h' ⟨by rw [List.concat_eq_append, List.getLast?_concat, hlast], hhead⟩

theorem fuses_iff_insidePair : Fuses a b ↔ InsidePair (a ++ b) a.length := by
  constructor
  · rintro ⟨ha, hb⟩
    obtain ⟨a, rfl⟩ := List.getLast?_eq_some_iff.1 ha
    obtain ⟨b, rfl⟩ := List.head?_eq_some_iff.1 hb
    exact ⟨a, b, by simp, by simp⟩
  · rintro ⟨c, d, hab, hlen⟩
    have hpair : a ++ b = (c ++ ['\r']) ++ '\n' :: d := by simpa using hab
    obtain ⟨rfl, rfl⟩ := List.append_inj hpair (by simpa using hlen)
    exact ⟨List.getLast?_concat, rfl⟩

end Fuses

/-- Of two ways to cut a text in two, the later one has some more in its first part. -/
theorem exists_between {a b c d : Text} (h : a ++ b = c ++ d) (hle : a.length ≤ c.length) :
    ∃ f, c = a ++ f ∧ b = f ++ d := by
  obtain ⟨f, rfl⟩ : a <+: c := List.prefix_of_prefix_length_le ⟨b, h⟩ ⟨d, rfl⟩ hle
  rw [List.append_assoc] at h
  exact ⟨f, rfl, List.append_cancel_left h⟩

/-- The line on which a text ends. -/
def lastLine (t : Text) : Text := (lines t).getLast (lines_ne_nil t)

/-- The breaks of a text, and the code units of its last line. -/
def extent (t : Text) : Extent := ⟨lineCount t - 1, unitLength (lastLine t)⟩

section LastLine
variable {a w u : Text}

theorem lines_eq_concat (t : Text) : lines t = (lines t).dropLast ++ [lastLine t] :=
  (List.dropLast_concat_getLast (lines_ne_nil t)).symm

theorem getLast?_lines (t : Text) : (lines t).getLast? = some (lastLine t) :=
  List.getLast?_eq_some_getLast (lines_ne_nil t)

theorem lastLine_eq {t l : Text} (h : (lines t).getLast? = some l) : lastLine t = l :=
  Option.some.inj ((getLast?_lines t).symm.trans h)

theorem lastLine_of_unbroken (ha : Unbroken a) : lastLine a = a := by
  simp [lastLine, lines_of_unbroken ha]

theorem lastLine_append (ha : Unbroken a) (hw : IsTerminator w u) :
    lastLine (a ++ (w ++ u)) = lastLine u := by
  simp only [lastLine, lines_append ha hw]
  exact List.getLast_cons (lines_ne_nil u)

theorem unbroken_lastLine (t : Text) : Unbroken (lastLine t) := by
  induction t using lines_induction with
  | last a ha => rwa [lastLine_of_unbroken ha]
  | line a w u ha hw ih => rwa [lastLine_append ha hw]

theorem lineCount_eq (t : Text) : lineCount t = (extent t).breaks + 1 :=
  (Nat.sub_add_cancel (lineCount_pos t)).symm

theorem extent_of_unbroken (ha : Unbroken a) : extent a = ⟨0, unitLength a⟩ := by
  simp [extent, lineCount, lines_of_unbroken ha, lastLine_of_unbroken ha]

theorem IsTerminator.at_end (hw : IsTerminator w u) : IsTerminator w [] := by
  rcases hw with h | h | ⟨h, -⟩
  · exact .inl h
  · exact .inr (.inl h)
  · exact .inr (.inr ⟨h, by simp⟩)

/-- A line with its terminator reaches to the beginning of the next one. -/
theorem extent_line (ha : Unbroken a) (hw : IsTerminator w u) : extent (a ++ w) = ⟨1, 0⟩ := by
  have hlines : lines (a ++ w) = [a ++ w, []] := by
    have hsplit := lines_append ha hw.at_end
    rwa [List.append_nil] at hsplit
  have hlast : lastLine (a ++ w) = [] := lastLine_eq (by simp [hlines])
  simp [extent, lineCount, hlines, hlast]

end LastLine

section Join
variable {a b l : Text} {ls : List Text}

/-- What is joined behind a terminator leaves it as it is, unless a feed meets its return. -/
theorem IsTerminator.append {w u : Text} (hw : IsTerminator w u) (h : ¬ Fuses (w ++ u) b) :
    IsTerminator w (u ++ b) := by
  rcases hw with rfl | rfl | ⟨rfl, hu⟩
  · exact .inl rfl
  · exact .inr (.inl rfl)
  · refine .inr (.inr ⟨rfl, ?_⟩)
    cases u with
    | nil =>
      intro hb
      exact h ⟨rfl, hb⟩
    | cons c u => exact hu

theorem lines_append_of_unbroken (ha : Unbroken a) (hl : lines b = l :: ls) :
    lines (a ++ b) = (a ++ l) :: ls := by
  induction a with
  | nil => exact hl
  | cons c a ih =>
    obtain ⟨hc, ha⟩ := unbroken_cons.1 ha
    rw [List.cons_append, lines_cons hc, ih ha]
    rfl

/-- The lines of two texts joined are those of both, but for the two that become one. -/
theorem lines_join (h : ¬ Fuses a b) (hl : lines b = l :: ls) :
    lines (a ++ b) = (lines a).dropLast ++ (lastLine a ++ l) :: ls := by
  induction a using lines_induction with
  | last a ha =>
    rw [lines_append_of_unbroken ha hl, lines_of_unbroken ha, lastLine_of_unbroken ha]
    rfl
  | line a w u ha hw ih =>
    have hwu : ¬ Fuses (w ++ u) b := fun hf => h (hf.append_left a)
    have hu : ¬ Fuses u b := fun hf => hwu (hf.append_left w)
    rw [List.append_assoc, List.append_assoc, lines_append ha (hw.append hwu), ih hu,
      lines_append ha hw, lastLine_append ha hw, List.dropLast_cons_of_ne_nil (lines_ne_nil u)]
    rfl

theorem lastLine_join (h : ¬ Fuses a b) (hl : lines b = l :: ls) :
    lastLine (a ++ b) = if ls = [] then lastLine a ++ lastLine b else lastLine b := by
  have hlast := getLast?_lines b
  cases ls with
  | nil =>
    rw [hl, List.getLast?_singleton, Option.some.injEq] at hlast
    rw [if_pos rfl, ← hlast]
    exact lastLine_eq (by simp [lines_join h hl])
  | cons m ls =>
    rw [hl, List.getLast?_cons_cons] at hlast
    rw [if_neg (by simp)]
    apply lastLine_eq
    rw [lines_join h hl, List.getLast?_append, List.getLast?_cons_cons, hlast]
    rfl

/-- Extents add up where two texts do not fuse. -/
theorem extent_append (h : ¬ Fuses a b) : extent (a ++ b) = extent a + extent b := by
  obtain ⟨l, ls, hl⟩ := List.exists_cons_of_ne_nil (lines_ne_nil b)
  have hbreaks : lineCount (a ++ b) - 1 = (lineCount a - 1) + (lineCount b - 1) := by
    simp [lineCount, lines_join h hl, hl]
  have hone : lineCount b - 1 = 0 ↔ ls = [] := by
    simp [lineCount, hl]
  rw [Extent.add_def, extent, extent, extent, hbreaks, lastLine_join h hl, Extent.mk.injEq]
  simp only [hone, true_and]
  split
  · exact weight_append _ _
  · rfl

/-- A return and a feed that meet are one break. -/
example : extent ['a', '\r'] = ⟨1, 0⟩ ∧ extent ['\n', 'b'] = ⟨1, 1⟩ ∧
    extent ['a', '\r', '\n', 'b'] = ⟨1, 1⟩ := by decide

theorem lineCount_append (h : ¬ Fuses a b) :
    lineCount (a ++ b) = (extent a).breaks + (extent b).breaks + 1 := by
  rw [lineCount_eq, extent_append h, Extent.breaks_add]

end Join

section Accepted
variable {t : Text} {p : Position} {x : Offsets} {k : Nat}

/-- No line is begun between a return and its feed. -/
theorem not_fuses_before (hk : k < lineCount t) {r : Text} (ht : t = before t k ++ r) :
    ¬ Fuses (before t k) r := fun h => head?_ne_of_getLast?_before h.1 hk ht h.2

theorem extent_before (hk : k < lineCount t) : extent (before t k) = ⟨k, 0⟩ := by
  induction k with
  | zero => rfl
  | succ k ih =>
    have hk' := Nat.lt_of_succ_lt hk
    obtain ⟨l, hl⟩ := exists_line hk'
    obtain ⟨w, u, hlw, ht, hend⟩ := line_split hl
    have hw : IsTerminator w u := by
      rcases hend with ⟨-, hw⟩ | ⟨hlast, -⟩
      · exact hw
      · omega
    have hextent : extent l = ⟨1, 0⟩ := by
      rw [hlw]
      exact extent_line (unbroken_content l) hw
    have hfuse : ¬ Fuses (before t k) l := fun h => not_fuses_before hk' ht (h.append_right u)
    rw [before_succ hl, extent_append hfuse, ih hk', hextent]
    rfl

/-- The line of a cut begins with the last line of the part in front of it. -/
theorem exists_line_of_not_fuses {a b : Text} (h : ¬ Fuses a b) :
    ∃ l, (lines (a ++ b))[(extent a).breaks]? = some l ∧ lastLine a <+: content l ∧
      before (a ++ b) (extent a).breaks ++ lastLine a = a := by
  obtain ⟨l, ls, hl⟩ := List.exists_cons_of_ne_nil (lines_ne_nil b)
  have hlen : (extent a).breaks = (lines a).dropLast.length := by
    simp [extent, lineCount]
  refine ⟨lastLine a ++ l, ?_, ?_, ?_⟩
  · rw [lines_join h hl, hlen]
    simp
  · rw [content, List.takeWhile_append_of_pos (by simpa [Unbroken] using unbroken_lastLine a)]
    exact List.prefix_append _ _
  · calc before (a ++ b) (extent a).breaks ++ lastLine a
        = ((lines a).dropLast ++ [lastLine a]).flatten := by
          rw [before, lines_join h hl, hlen, List.take_left]
          simp
      _ = a := by rw [← lines_eq_concat, flatten_lines]

/-- A position is accepted where a text is cut into two parts, not within a pair, and the first of
them reaches as far as the position says. -/
theorem resolve_eq_ok_iff_extent : resolve t p = .ok x ↔
    ∃ a b, t = a ++ b ∧ ¬ Fuses a b ∧ p.extent = extent a ∧ x = ends a := by
  rw [resolve_eq_ok]
  constructor
  · rintro ⟨l, a, hl, ha, hp, rfl⟩
    have hk := lt_lineCount hl
    obtain ⟨r, hr⟩ := ((List.prefix_append_right_inj _).2 ha).trans (prefix_before_append_content hl)
    have hfuse : ¬ Fuses (before t p.line.toNat ++ a) r := by
      rw [fuses_iff_insidePair, hr]
      exact not_insidePair hl ha
    have hfront : ¬ Fuses (before t p.line.toNat) a := by
      intro h
      apply not_fuses_before hk _ (h.append_right r)
      rw [← List.append_assoc, hr]
    have hunbroken : Unbroken a := fun c hc => unbroken_content l c (ha.subset hc)
    refine ⟨_, r, hr.symm, hfuse, ?_, rfl⟩
    rw [extent_append hfront, extent_before hk, extent_of_unbroken hunbroken]
    simp [Extent.add_def, Position.extent, hp]
  · rintro ⟨a, b, rfl, hfuse, hp, rfl⟩
    obtain ⟨l, hl, hlast, hbefore⟩ := exists_line_of_not_fuses hfuse
    have hline : p.line.toNat = (extent a).breaks := congrArg Extent.breaks hp
    have hchar : p.character.toNat = (extent a).units := congrArg Extent.units hp
    refine ⟨l, lastLine a, ?_, hlast, hchar.symm, ?_⟩
    · rwa [hline]
    · rw [hline, hbefore]

theorem extent_of_resolve (hx : resolve t p = .ok x) : p.extent = extent (t.take x.char) := by
  obtain ⟨a, b, rfl, -, hp, rfl⟩ := resolve_eq_ok_iff_extent.1 hx
  simp only [ends, List.take_left, hp]

end Accepted

end Text
end DocSync
