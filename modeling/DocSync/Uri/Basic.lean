import DocSync.Uri.Grammar

/-! # Resource identifiers

An identifier is a text that the grammar accepts. Nothing is normalised: two identifiers are equal
exactly if their texts are.
-/

namespace DocSync

structure Uri where
  text : String
  valid : Uri.check text.toList = .ok ()
  deriving DecidableEq

namespace Uri

def parse (s : String) : Except Refusal Uri :=
  match h : check s.toList with
  | .ok () => .ok ⟨s, h⟩
  | .error e => .error e

@[ext] theorem ext {u v : Uri} (h : u.text = v.text) : u = v := by
  cases u; cases v; cases h; rfl

theorem parse_text (u : Uri) : parse u.text = .ok u := by
  unfold parse
  split
  · rfl
  · next h => simp [u.valid] at h

theorem text_of_parse {s : String} {u : Uri} (h : parse s = .ok u) : u.text = s := by
  unfold parse at h
  split at h <;> simp_all
  rw [← h]

end Uri
end DocSync
