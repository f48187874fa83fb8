import DocSync.Document
import DocSync.Proofs.Text.Shift

/-! # Undoing an edit

To take an edit back, the new text is replaced by the one that it replaced, by a range of the edited
text. There is such a range unless one of its ends has come to stand within a pair of breaks, and
`change_undone` says which one it is and that it restores the document.
-/

namespace DocSync.Text

/-- A range stands for the characters from `i` up to `j`. -/
def Spans (t : Text) (r : Range) (i j : Nat) : Prop := ∀ w, edit t r w = .ok ⟨i, j, w⟩

section Spans
variable {t : Text} {r q : Range} {i j : Nat}

theorem spans_iff : Spans t r i j ↔ ¬ r.stop < r.start ∧
    ∃ x y, resolve t r.start = .ok x ∧ resolve t r.stop = .ok y ∧ x.char = i ∧ y.char = j := by
  constructor
  · intro h
    obtain ⟨hr, x, y, hx, hy, he⟩ := edit_eq_ok.1 (h [])
    obtain ⟨hi, hj, -⟩ := Edit.mk.inj he
    exact ⟨hr, x, y, hx, hy, hi.symm, hj.symm⟩
  · rintro ⟨hr, x, y, hx, hy, rfl, rfl⟩ w
    exact edit_eq_ok.2 ⟨hr, x, y, hx, hy, rfl⟩

theorem Spans.not_insidePair (h : Spans t r i j) : ¬ InsidePair t i ∧ ¬ InsidePair t j := by
  obtain ⟨-, x, y, hx, hy, rfl, rfl⟩ := spans_iff.1 h
  exact ⟨not_insidePair_of_resolve hx, not_insidePair_of_resolve hy⟩

theorem Spans.unique (h : Spans t r i j) (h' : Spans t q i j) : r = q := by
  obtain ⟨-, x, y, hx, hy, hxi, hyj⟩ := spans_iff.1 h
  obtain ⟨-, x', y', hx', hy', hxi', hyj'⟩ := spans_iff.1 h'
  have hstart := eq_of_char_eq hx hx' (hxi.trans hxi'.symm)
  have hstop := eq_of_char_eq hy hy' (hyj.trans hyj'.symm)
  obtain ⟨start, stop⟩ := r
  obtain ⟨start', stop'⟩ := q
  rw [Range.mk.injEq]
  exact ⟨hstart, hstop⟩

/-- In a text that fits, a range stands for any characters with neither end inside a pair. -/
theorem exists_spans (hf : Fits t) (hij : i ≤ j) (hj : j ≤ t.length) (hi : ¬ InsidePair t i)
    (hj' : ¬ InsidePair t j) : ∃ r, Spans t r i j := by
  obtain ⟨p, x, hx, rfl⟩ := exists_resolve hf (hij.trans hj) hi
  obtain ⟨q, y, hy, rfl⟩ := exists_resolve hf hj hj'
  refine ⟨⟨p, q⟩, spans_iff.2 ⟨?_, x, y, hx, hy, rfl, rfl⟩⟩
  intro hlt
  exact absurd (char_lt_char hlt hy hx) (not_lt.2 hij)

/-- The ends of a range are the positions of the bytes that its characters begin and end with. -/
theorem Spans.ofByte? (h : Spans t r i j) :
    ofByte? t (bytes (t.take i)).length = some r.start ∧
      ofByte? t (bytes (t.take j)).length = some r.stop := by
  obtain ⟨-, x, y, hx, hy, rfl, rfl⟩ := spans_iff.1 h
  rw [length_bytes, length_bytes, ← byte_of_resolve hx, ← byte_of_resolve hy]
  exact ⟨ofByte?_of_resolve hx, ofByte?_of_resolve hy⟩

end Spans

/-- A text and its edited one, each with a range for what is exchanged between them. -/
theorem changes_undone {a b c w : Text} {r q : Range}
    (hr : edit (a ++ (c ++ b)) r w = .ok ⟨a.length, (a ++ c).length, w⟩)
    (hq : edit (a ++ (w ++ b)) q c = .ok ⟨a.length, (a ++ w).length, c⟩) :
    changes (a ++ (c ++ b)) [.ranged r w, .ranged q c] = .ok (a ++ (c ++ b)) := by
  have hthere : replace (a ++ (c ++ b)) r w = .ok (a ++ (w ++ b)) := by
    rw [replace_eq, hr, Except.map, splice_parts]
  have hback : replace (a ++ (w ++ b)) q c = .ok (a ++ (c ++ b)) := by
    rw [replace_eq, hq, Except.map, splice_parts]
  simp only [changes_cons, change, hthere, hback, Except.bind, changes_nil]

end Text

/-- **An edit can be undone unless it makes a pair around one of its ends.** In an edited text that
fits, there is a range for the new characters exactly where neither of its ends stands within a pair.
It is the only one, its ends are the positions of the bytes there, it starts where the range of the
edit did, and both changes in one batch give the document back. -/
theorem Document.change_undone (d : Document) (w : Text) (r : Range) (e : Edit)
    (he : d.text.edit r w = .ok e) (hf : Text.Fits (e.splice d.text)) :
    let u := e.splice d.text
    let stop := e.start + w.length
    ((∃ q, u.Spans q e.start stop) ↔ ¬ u.InsidePair e.start ∧ ¬ u.InsidePair stop) ∧
    (∀ q q', u.Spans q e.start stop → u.Spans q' e.start stop → q = q') ∧
    ∀ q, u.Spans q e.start stop →
      u.ofByte? (Text.bytes (u.take e.start)).length = some q.start ∧
      u.ofByte? (Text.bytes (u.take stop)).length = some q.stop ∧
      q.start = r.start ∧
      ∀ version, (change version
        [.ranged r w, .ranged q ((d.text.take e.stop).drop e.start)]).run d =
          .ok () { d with version } := by
  obtain ⟨a, c, b, ht, rfl, -, hp, -⟩ := Text.edit_parts he
  have hu : Edit.splice ⟨a.length, (a ++ c).length, w⟩ d.text = a ++ (w ++ b) := by
    rw [ht, Text.splice_parts]
  have hstop : a.length + w.length = (a ++ w).length := List.length_append.symm
  have hremoved : (d.text.take (a ++ c).length).drop a.length = c := by
    rw [ht, ← List.append_assoc, List.take_left, List.drop_left]
  rw [hu] at hf
  simp only [hu, hstop, hremoved]
  refine ⟨⟨?_, ?_⟩, ?_, ?_⟩
  · rintro ⟨q, hq⟩
    exact hq.not_insidePair
  · rintro ⟨hstart, hend⟩
    exact Text.exists_spans hf (by simp) (by simp) hstart hend
  · intro q q' hq hq'
    exact hq.unique hq'
  · intro q hq
    obtain ⟨hbyte, hbyte'⟩ := hq.ofByte?
    refine ⟨hbyte, hbyte', ?_, ?_⟩
    · obtain ⟨-, x, -, hx, -, hxi, -⟩ := Text.spans_iff.1 hq
      apply Position.extent_injective
      rw [Text.extent_of_resolve hx, hxi, List.take_left, hp]
    · intro version
      rw [ht] at he
      have hundone := Text.changes_undone he (hq c)
      rw [← ht] at hundone
      exact change_of_ok hundone

/-- What stands between a return and a feed can be replaced and put back, but once it is taken out
there is no place left for it. -/
theorem Document.change_undone_between :
    let d : Document := ⟨"hare", 1, ['\r', 'b', '\n']⟩
    let r : Range := ⟨⟨1, 0⟩, ⟨1, 1⟩⟩
    d.text.edit r ['😀'] = .ok ⟨1, 2, ['😀']⟩ ∧ Text.Fits ['\r', '😀', '\n'] ∧
      (change 2 [.ranged r ['😀'], .ranged ⟨⟨1, 0⟩, ⟨1, 2⟩⟩ ['b']]).run d =
        .ok () { d with version := 2 } ∧
      d.text.edit r [] = .ok ⟨1, 2, []⟩ ∧ Text.Fits ['\r', '\n'] ∧
      ¬ ∃ q, Text.Spans ['\r', '\n'] q 1 1 := by
  intro d r
  have he : d.text.edit r ['😀'] = .ok ⟨1, 2, ['😀']⟩ := by rfl
  have hf : Text.Fits ['\r', '😀', '\n'] := ⟨by decide, by decide⟩
  have hspans : Text.Spans ['\r', '😀', '\n'] ⟨⟨1, 0⟩, ⟨1, 2⟩⟩ 1 2 :=
    Text.spans_iff.2 ⟨by decide, ⟨1, 1, 1⟩, ⟨2, 5, 3⟩, by rfl, by rfl, rfl, rfl⟩
  have he' : d.text.edit r [] = .ok ⟨1, 2, []⟩ := by rfl
  have hf' : Text.Fits ['\r', '\n'] := ⟨by decide, by decide⟩
  obtain ⟨-, -, hundo⟩ := change_undone d ['😀'] r _ he hf
  obtain ⟨hrange, -, -⟩ := change_undone d [] r _ he' hf'
  refine ⟨he, hf, (hundo _ hspans).2.2.2 2, he', hf', ?_⟩
  intro h
  exact (hrange.1 h).1 ⟨[], [], rfl, rfl⟩

end DocSync
