/-! # Texts and their lengths

A text is the list of its characters. Its length is taken in three units: characters, UTF-8 bytes
and UTF-16 code units. The last two are sums of a weight over the characters, so both conversions
and their laws are stated once, for any weight.
-/

namespace DocSync

abbrev Text := List Char

namespace Text

/-- UTF-16 code units of a character: a surrogate pair outside the basic plane. -/
def unitSize (c : Char) : Nat := if c.toNat < 0x10000 then 1 else 2

def weight (w : Char → Nat) : Text → Nat
  | [] => 0
  | c :: t => w c + weight w t

abbrev byteLength (t : Text) : Nat := weight Char.utf8Size t
abbrev unitLength (t : Text) : Nat := weight unitSize t

/-- How many characters from the front fit wholly into `n`: an offset inside a character counts
as the start of that character. -/
def charsWithin (w : Char → Nat) : Text → Nat → Nat
  | [], _ => 0
  | c :: t, n => if w c ≤ n then charsWithin w t (n - w c) + 1 else 0

/-- The weight before character `i`; there is none past the end of the text. -/
def offsetOf? (w : Char → Nat) (t : Text) (i : Nat) : Option Nat :=
  if i ≤ t.length then some (weight w (t.take i)) else none

/-- The character that owns offset `n`; there is none past the end of the text. -/
def charOf? (w : Char → Nat) (t : Text) (n : Nat) : Option Nat :=
  if n ≤ weight w t then some (charsWithin w t n) else none

/-- The difference of two offsets, if it is one. -/
def sub? (a b : Nat) : Option Nat := if b ≤ a then some (a - b) else none

theorem sub?_of_le {a b : Nat} (h : b ≤ a) : sub? a b = some (a - b) := if_pos h

theorem unitSize_pos (c : Char) : 0 < unitSize c := by unfold unitSize; split <;> omega

section Weight
variable {w : Char → Nat}

@[simp] theorem weight_nil : weight w [] = 0 := rfl

@[simp] theorem weight_cons (c : Char) (t : Text) : weight w (c :: t) = w c + weight w t := rfl

@[simp] theorem weight_append (s t : Text) : weight w (s ++ t) = weight w s + weight w t := by
  induction s with
  | nil => simp
  | cons c s ih => simp [ih, Nat.add_assoc]

theorem weight_take_add_drop (t : Text) (i : Nat) :
    weight w (t.take i) + weight w (t.drop i) = weight w t := by
  rw [← weight_append, List.take_append_drop]

theorem weight_take_mono (t : Text) {i j : Nat} (h : i ≤ j) :
    weight w (t.take i) ≤ weight w (t.take j) := by
  rw [← weight_take_add_drop (t.take j) i, List.take_take, Nat.min_eq_left h]
  exact Nat.le_add_right _ _

theorem weight_take_le (t : Text) (i : Nat) : weight w (t.take i) ≤ weight w t := by
  have := weight_take_add_drop (w := w) t i; omega

theorem offsetOf?_of_le {t : Text} {i : Nat} (h : i ≤ t.length) :
    offsetOf? w t i = some (weight w (t.take i)) := if_pos h

theorem charOf?_of_le {t : Text} {n : Nat} (h : n ≤ weight w t) :
    charOf? w t n = some (charsWithin w t n) := if_pos h

theorem charsWithin_le_length (t : Text) (n : Nat) : charsWithin w t n ≤ t.length := by
  induction t generalizing n with
  | nil => simp [charsWithin]
  | cons c t ih =>
    unfold charsWithin
    split
    · simpa using ih _
    · omega

theorem charsWithin_mono (t : Text) {m n : Nat} (h : m ≤ n) :
    charsWithin w t m ≤ charsWithin w t n := by
  induction t generalizing m n with
  | nil => simp [charsWithin]
  | cons c t ih =>
    unfold charsWithin
    split
    · rw [if_pos (by omega)]
      exact Nat.succ_le_succ (ih (by omega))
    · omega

/-- No more weight stands before the owner of an offset than the offset says. -/
theorem weight_take_charsWithin_le (t : Text) (n : Nat) :
    weight w (t.take (charsWithin w t n)) ≤ n := by
  induction t generalizing n with
  | nil => simp
  | cons c t ih =>
    unfold charsWithin
    split
    · rw [List.take_succ_cons, weight_cons]
      have := ih (n - w c); omega
    · simp

/-- The start of a character owns itself, if every character has weight. -/
theorem charsWithin_weight_take (hw : ∀ c, 0 < w c) {t : Text} {i : Nat} (h : i ≤ t.length) :
    charsWithin w t (weight w (t.take i)) = i := by
  induction t generalizing i with
  | nil => simp_all [charsWithin]
  | cons c t ih =>
    cases i with
    | zero =>
      have : ¬ w c ≤ 0 := Nat.not_le.2 (hw c)
      simp [charsWithin, this]
    | succ i =>
      simp [charsWithin, ih (by simpa using h)]

end Weight

end Text
end DocSync
