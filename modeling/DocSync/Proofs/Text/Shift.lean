import DocSync.Proofs.Text.Extent

/-! # How an edit shifts positions

An edit cuts a text in three and puts a new part in the place of the middle one. Where the new part
fuses with neither of the others, positions in front of it stay, and those behind it move by the
difference of the extents up to there (`edit_shifts`).
-/

namespace DocSync

/-- Where an extent goes when what reaches to `stop` is exchanged for something that reaches to
`place`: the line on which that ends is moved along, and lines behind it only change their number. -/
def Extent.shift (stop place x : Extent) : Extent :=
  if x.breaks = stop.breaks then ⟨place.breaks, place.units + x.units - stop.units⟩
  else ⟨x.breaks - stop.breaks + place.breaks, x.units⟩

theorem Extent.shift_add (stop place x : Extent) : shift stop place (stop + x) = place + x := by
  rw [shift, add_def, add_def]
  by_cases h : x.breaks = 0
  · simp only [h, Nat.add_zero, if_true, mk.injEq, true_and]
    omega
  · rw [if_neg (by simpa using h), if_neg h, if_neg h, mk.injEq]
    exact ⟨by simp only; omega, rfl⟩

namespace Text

section Parts
variable {a b c w : Text} {p q : Position} {x : Offsets}

/-- The part in front of an edit, the part taken out, and the part behind it. -/
theorem edit_parts {t : Text} {r : Range} {e : Edit} (h : edit t r w = .ok e) :
    ∃ a c b, t = a ++ (c ++ b) ∧ e = ⟨a.length, (a ++ c).length, w⟩ ∧ ¬ Fuses (a ++ c) b ∧
      r.start.extent = extent a ∧ r.stop.extent = extent (a ++ c) := by
  obtain ⟨hr, x, y, hx, hy, rfl⟩ := edit_eq_ok.1 h
  have hle := char_le_char hr hx hy
  obtain ⟨a, g, rfl, -, hp, rfl⟩ := resolve_eq_ok_iff_extent.1 hx
  obtain ⟨d, b, ht, hstop, hq, rfl⟩ := resolve_eq_ok_iff_extent.1 hy
  obtain ⟨c, rfl, rfl⟩ := exists_between ht hle
  exact ⟨a, c, b, rfl, rfl, hstop, hp, hq⟩

theorem splice_parts (a b c w : Text) :
    Edit.splice ⟨a.length, (a ++ c).length, w⟩ (a ++ (c ++ b)) = a ++ (w ++ b) := by
  simp only [Edit.splice, List.take_left]
  rw [← List.append_assoc a c b, List.drop_left, List.append_assoc]

theorem resolve_front (hstart : ¬ Fuses a (w ++ b)) (hp : resolve (a ++ (c ++ b)) p = .ok x)
    (hx : x.char ≤ a.length) : resolve (a ++ (w ++ b)) p = .ok x := by
  obtain ⟨d, g, ht, hfuse, hpd, rfl⟩ := resolve_eq_ok_iff_extent.1 hp
  obtain ⟨f, rfl, rfl⟩ := exists_between ht.symm hx
  refine resolve_eq_ok_iff_extent.2 ⟨d, f ++ (w ++ b), List.append_assoc .., ?_, hpd, rfl⟩
  by_cases hf : f = []
  · subst hf
    rwa [List.append_nil] at hstart
  · rw [fuses_append_right_iff hf] at hfuse ⊢
    exact hfuse

theorem resolve_middle (hstart : ¬ Fuses a (w ++ b)) (hstop : ¬ Fuses w b)
    (hp : p.extent = extent a + extent w) : resolve (a ++ (w ++ b)) p = .ok (ends (a ++ w)) := by
  have haw : ¬ Fuses a w := fun h => hstart (h.append_right b)
  refine resolve_eq_ok_iff_extent.2 ⟨a ++ w, b, (List.append_assoc ..).symm, ?_, ?_, rfl⟩
  · exact not_fuses_append hstart hstop
  · rw [hp, extent_append haw]

/-- A position behind an edit is as far behind it as before. -/
theorem resolve_behind (hback : ¬ Fuses (a ++ c) b) (hstart : ¬ Fuses a (w ++ b))
    (hstop : ¬ Fuses w b) (hq : resolve (a ++ (c ++ b)) q = .ok x) (hx : (a ++ c).length ≤ x.char) :
    ∃ d, q.extent = extent (a ++ c) + extent d ∧ x.char = (a ++ c).length + d.length ∧
      ∀ p, p.extent = (extent a + extent w) + extent d →
        resolve (a ++ (w ++ b)) p = .ok (ends (a ++ (w ++ d))) := by
  obtain ⟨f, g, ht, hfuse, hqf, rfl⟩ := resolve_eq_ok_iff_extent.1 hq
  rw [← List.append_assoc] at ht
  obtain ⟨d, rfl, rfl⟩ := exists_between ht hx
  have hacd : ¬ Fuses (a ++ c) d := fun h => hback (h.append_right g)
  have hdg : ¬ Fuses d g := fun h => hfuse (h.append_left (a ++ c))
  have haw : ¬ Fuses a w := fun h => hstart (h.append_right _)
  have hawb : ¬ Fuses (a ++ w) (d ++ g) := not_fuses_append hstart hstop
  have hawd : ¬ Fuses (a ++ w) d := fun h => hawb (h.append_right g)
  refine ⟨d, ?_, ?_, ?_⟩
  · rw [hqf, extent_append hacd]
  · simp [ends, Nat.add_assoc]
  · intro p hp
    refine resolve_eq_ok_iff_extent.2 ⟨(a ++ w) ++ d, g, by simp, ?_, ?_, by simp⟩
    · exact not_fuses_append hawb hdg
    · rw [hp, extent_append hawd, extent_append haw]

/-- The lines of a text with its middle part exchanged. -/
theorem lineCount_parts (hback : ¬ Fuses (a ++ c) b) (hstart : ¬ Fuses a (w ++ b))
    (hstop : ¬ Fuses w b) : lineCount (a ++ (w ++ b)) + (extent (a ++ c)).breaks =
      lineCount (a ++ (c ++ b)) + (extent a).breaks + (extent w).breaks := by
  have haw : ¬ Fuses a w := fun h => hstart (h.append_right b)
  rw [← List.append_assoc a w b, ← List.append_assoc a c b, lineCount_append hback,
    lineCount_append (not_fuses_append hstart hstop), extent_append haw, Extent.breaks_add]
  omega

end Parts

/-- **An edit shifts positions.** Unless the new text fuses with what is in front of it or behind
it, every accepted position up to the start of the range is accepted as before, the end of the new
text is where its breaks and its last line take the start, and every accepted position from the end
of the range on is shifted along. The breaks of the new text come in the place of those of the
range. -/
theorem edit_shifts (t w : Text) (r : Range) (e : Edit) (he : edit t r w = .ok e)
    (hstart : ¬ Fuses (t.take e.start) (w ++ t.drop e.stop)) (hstop : ¬ Fuses w (t.drop e.stop)) :
    let u := e.splice t
    let place := r.start.extent + extent w
    (∀ p x, ¬ r.start < p → resolve t p = .ok x → resolve u p = .ok x) ∧
    (∀ p, p.extent = place → ∃ x, resolve u p = .ok x ∧ x.char = e.start + w.length) ∧
    (∀ q x, ¬ q < r.stop → resolve t q = .ok x →
      ∀ p, p.extent = Extent.shift r.stop.extent place q.extent →
        ∃ y, resolve u p = .ok y ∧ y.char = x.char - (e.stop - e.start) + w.length) ∧
    (lineCount u : Int) = lineCount t + (extent w).breaks -
      (r.stop.line.toNat - r.start.line.toNat) := by
  obtain ⟨-, start, stop, hx, hy, hends⟩ := edit_eq_ok.1 he
  obtain ⟨a, c, b, rfl, rfl, hback, hp, hq⟩ := edit_parts he
  obtain ⟨ha, hac, -⟩ := Edit.mk.inj hends
  simp only [List.take_left] at hstart
  rw [← List.append_assoc a c b, List.drop_left] at hstart hstop
  simp only [splice_parts]
  refine ⟨?_, ?_, ?_, ?_⟩
  · intro p x hle hpx
    have hchar := char_le_char hle hpx hx
    exact resolve_front hstart hpx (ha ▸ hchar)
  · intro p hpp
    rw [hp] at hpp
    exact ⟨_, resolve_middle hstart hstop hpp, List.length_append⟩
  · intro q x hle hqx p hpp
    have hchar := char_le_char hle hy hqx
    obtain ⟨d, hqd, hxd, hresolve⟩ := resolve_behind hback hstart hstop hqx (hac ▸ hchar)
    rw [hq, hqd, Extent.shift_add, hp] at hpp
    refine ⟨_, hresolve p hpp, ?_⟩
    simp only [ends, hxd, List.length_append]
    omega
  · have hcount := lineCount_parts hback hstart hstop
    have hstartLine : r.start.line.toNat = (extent a).breaks := congrArg Extent.breaks hp
    have hstopLine : r.stop.line.toNat = (extent (a ++ c)).breaks := congrArg Extent.breaks hq
    rw [hstartLine, hstopLine]
    omega

/-- A break in the place of another: the place behind a pair of surrogates moves along its line. -/
theorem edit_shifts_along :
    let t := ['a', '\n', '😀', 'c']
    let w := ['\r', 'b']
    let e : Edit := ⟨1, 2, w⟩
    edit t ⟨⟨0, 1⟩, ⟨1, 0⟩⟩ w = .ok e ∧ ¬ Fuses (t.take 1) (w ++ t.drop 2) ∧
      ¬ Fuses w (t.drop 2) ∧ e.splice t = ['a', '\r', 'b', '😀', 'c'] ∧
      ∃ y, resolve (e.splice t) ⟨1, 3⟩ = .ok y ∧ y.char = 4 := by
  intro t w e
  have he : edit t ⟨⟨0, 1⟩, ⟨1, 0⟩⟩ w = .ok e := by rfl
  have hstart : ¬ Fuses (t.take 1) (w ++ t.drop 2) := by decide
  have hstop : ¬ Fuses w (t.drop 2) := by decide
  have hq : resolve t ⟨1, 2⟩ = .ok ⟨3, 6, 4⟩ := by rfl
  obtain ⟨-, -, hbehind, -⟩ := edit_shifts t w _ e he hstart hstop
  exact ⟨he, hstart, hstop, rfl, hbehind ⟨1, 2⟩ _ (by decide) hq ⟨1, 3⟩ (by decide)⟩

end Text
end DocSync
