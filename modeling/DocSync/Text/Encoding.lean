import DocSync.Text.Measure

/-! # Encodings of a text

The UTF-8 bytes and the UTF-16 code units of a text, of which `weight` gives the number.
-/

namespace DocSync.Text

/-- The code units of a character: itself, or a high and a low surrogate. -/
def charUnits (c : Char) : List UInt16 :=
  if c.toNat < 0x10000 then [.ofNat c.toNat]
  else [.ofNat (0xD800 + (c.toNat - 0x10000) / 0x400),
    .ofNat (0xDC00 + (c.toNat - 0x10000) % 0x400)]

def units (t : Text) : List UInt16 := t.flatMap charUnits

def bytes (t : Text) : List UInt8 := t.flatMap String.utf8EncodeChar

theorem length_charUnits (c : Char) : (charUnits c).length = unitSize c := by
  unfold charUnits unitSize
  split <;> rfl

theorem length_units (t : Text) : (units t).length = unitLength t := by
  induction t with
  | nil => rfl
  | cons c t ih =>
    simp only [units, unitLength] at ih
    simp only [units, unitLength, List.flatMap_cons, List.length_append, length_charUnits,
      weight_cons, ih]

theorem length_bytes (t : Text) : (bytes t).length = byteLength t := by
  induction t with
  | nil => rfl
  | cons c t ih =>
    simp only [bytes, byteLength] at ih
    simp only [bytes, byteLength, List.flatMap_cons, List.length_append,
      String.length_utf8EncodeChar, weight_cons, ih]

end DocSync.Text
