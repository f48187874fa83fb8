import DocSync.Document
import DocSync.Proofs.Text.Correspondence

/-! # Batches stay within their text

`Text.changes?` applies a batch with every look-up, difference, removal and insertion partial: it has
no outcome as soon as one of them leaves the text that it is made on. `change_in_bounds` says that
this never happens, whatever positions a batch names and however many changes came before.
-/

namespace DocSync

namespace Text

/-- An edit of a range fits the text that it was made for. -/
theorem edit_in_bounds {t w : Text} {r : Range} {e : Edit} (h : edit t r w = .ok e) :
    e.start ≤ e.stop ∧ e.stop ≤ t.length := by
  obtain ⟨hr, x, y, hx, hy, rfl⟩ := edit_eq_ok.1 h
  exact ⟨char_le_char hr hx hy, char_le_length hy⟩

theorem isSome_ofByte?_iff {t : Text} {b : Nat} : (ofByte? t b).isSome ↔ b ≤ (bytes t).length := by
  constructor
  · intro h
    obtain ⟨p, hp⟩ := Option.isSome_iff_exists.1 h
    exact le_of_ofByte? hp
  · intro h
    rw [length_bytes] at h
    rw [ofByte?_of_le h]
    rfl

end Text

/-- **No batch leaves its text.** Applied to any document, with any version and any positions, a
batch has an outcome with every step partial, and that is the outcome of the change. Each edit in it
lies within the text left by the changes before it, and takes out as many characters as its ends are
apart. Every byte up to the end of the text has a position, and no byte behind it. -/
theorem Document.change_in_bounds (d : Document) (version : Int32) (cs : List Change) :
    (∃ outcome, d.text.changes? cs = some outcome ∧ (change version cs).run d = match outcome with
      | .ok t => .ok () { d with text := t, version }
      | .error e => .error e d) ∧
    (∀ front r w back t e, cs = front ++ .ranged r w :: back → d.text.changes front = .ok t →
      t.edit r w = .ok e → e.start ≤ e.stop ∧ e.stop ≤ t.length ∧
        e.removed? = some (e.stop - e.start) ∧ e.splice? t = some (e.splice t)) ∧
    ∀ b, (d.text.ofByte? b).isSome ↔ b ≤ (Text.bytes d.text).length := by
  refine ⟨⟨_, Text.changes?_eq d.text cs, ?_⟩, ?_, ?_⟩
  · cases h : d.text.changes cs with
    | error e => exact change_of_error h
    | ok t => exact change_of_ok h
  · intro front r w back t e _ _ he
    obtain ⟨hle, hlen⟩ := Text.edit_in_bounds he
    exact ⟨hle, hlen, Text.sub?_of_le hle, Edit.splice?_eq hle hlen⟩
  · intro b
    exact Text.isSome_ofByte?_iff

end DocSync
