import DocSync.Text.Encoding
import Mathlib.Tactic.Common

/-! # Encodings and the parts of a text

An encoding writes each character on its own, so the codes of a part of a text are a part of the
codes of the text. Where the part begins and ends is the weight of what stands in front of it.
-/

namespace DocSync.Text

section Encodings
variable {α : Type} {f : Char → List α} {w : Char → Nat}

theorem length_flatMap_eq_weight (hf : ∀ c, (f c).length = w c) (t : Text) :
    (t.flatMap f).length = weight w t := by
  induction t with
  | nil => rfl
  | cons c t ih => simp [hf, ih]

theorem take_flatMap (hf : ∀ c, (f c).length = w c) {a t : Text} (h : a <+: t) :
    (t.flatMap f).take (weight w a) = a.flatMap f := by
  obtain ⟨r, rfl⟩ := h
  rw [List.flatMap_append, ← length_flatMap_eq_weight hf, List.take_left]

theorem drop_flatMap (hf : ∀ c, (f c).length = w c) (a r : Text) :
    ((a ++ r).flatMap f).drop (weight w a) = r.flatMap f := by
  rw [List.flatMap_append, ← length_flatMap_eq_weight hf, List.drop_left]

/-- The codes of a text with a part replaced are those of the text with the codes of that part
replaced. -/
theorem flatMap_splice (hf : ∀ c, (f c).length = w c) (t v : Text) (i j : Nat) :
    (t.take i ++ v ++ t.drop j).flatMap f = (t.flatMap f).take (weight w (t.take i)) ++
      v.flatMap f ++ (t.flatMap f).drop (weight w (t.take j)) := by
  have hdrop := drop_flatMap hf (t.take j) (t.drop j)
  rw [List.take_append_drop] at hdrop
  rw [take_flatMap hf (List.take_prefix i t), hdrop, List.flatMap_append, List.flatMap_append]

end Encodings

end DocSync.Text
