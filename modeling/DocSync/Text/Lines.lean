import DocSync.Text.Measure

/-! # The line table of a text

Lines end at a line feed, a carriage return or the pair of both, and at nothing else. A line keeps
its terminator, so the lines put together again are the text; the last one has no terminator. The
addresses computed from the table are partial where no such line, character or difference exists.
-/

namespace DocSync.Text

/-- The lines of a text, each with its terminator. -/
def lines : Text → List Text
  | [] => [[]]
  | '\r' :: '\n' :: t => ['\r', '\n'] :: lines t
  | c :: t => if c = '\n' ∨ c = '\r' then [c] :: lines t else (lines t).modifyHead (c :: ·)

def lineCount (t : Text) : Nat := (lines t).length

def line? (t : Text) (i : Nat) : Option Text := (lines t)[i]?

/-- The characters of a table's first `i` lines. -/
def charsBefore (ls : List Text) (i : Nat) : Nat := (ls.take i).flatten.length

/-- The first character of line `i`. The end of the text counts as the start of a line after the
last one. -/
def lineStart? (t : Text) (i : Nat) : Option Nat :=
  if i ≤ lineCount t then some (charsBefore (lines t) i) else none

/-- The length `n` of the front of a line, less one if `c` stands last in it. -/
def dropLast? (c : Char) (l : Text) (n : Nat) : Option Nat :=
  if 0 < n then do
    let last ← sub? n 1
    if (← l[last]?) = c then some last else some n
  else some n

/-- The end of line `i` without its terminator: a line feed and then a carriage return are taken
off its back, where they stand. -/
def lineEnd? (t : Text) (i : Nat) : Option Nat := do
  let line ← line? t i
  let n ← dropLast? '\r' line (← dropLast? '\n' line line.length)
  some ((← lineStart? t i) + n)

/-- The UTF-16 length of line `i` without its terminator. -/
def lineUnits? (t : Text) (i : Nat) : Option Nat := do
  let start ← offsetOf? unitSize t (← lineStart? t i)
  let stop ← offsetOf? unitSize t (← lineEnd? t i)
  sub? stop start

/-- The line of a table on which character `n` stands; the end of the text is on the last one. -/
def lineOf : List Text → Nat → Nat
  | l :: m :: ls, n => if l.length ≤ n then lineOf (m :: ls) (n - l.length) + 1 else 0
  | _, _ => 0

/-- The line of a byte offset. -/
def lineOfByte? (t : Text) (b : Nat) : Option Nat :=
  (charOf? Char.utf8Size t b).map (lineOf (lines t))

theorem lines_ne_nil (t : Text) : lines t ≠ [] := by
  fun_induction lines t <;> simp_all [List.modifyHead_eq_nil_iff]

theorem lineCount_pos (t : Text) : 0 < lineCount t := List.length_pos_iff.2 (lines_ne_nil t)

/-- Nothing of the text is lost between its lines. -/
@[simp] theorem flatten_lines (t : Text) : (lines t).flatten = t := by
  fun_induction lines t with
  | case1 => rfl
  | case2 t ih => simp [ih]
  | case3 c t _ _ ih => simp [ih]
  | case4 c t _ _ ih =>
    cases h : lines t with
    | nil => exact absurd h (lines_ne_nil t)
    | cons l ls => simp_all

theorem lineStart?_of_le {t : Text} {i : Nat} (h : i ≤ lineCount t) :
    lineStart? t i = some (charsBefore (lines t) i) := if_pos h

theorem charsBefore_mono (ls : List Text) {i j : Nat} (h : i ≤ j) :
    charsBefore ls i ≤ charsBefore ls j := by
  unfold charsBefore
  rw [← List.take_append_drop i (ls.take j), List.take_take, Nat.min_eq_left h]
  simp

theorem charsBefore_succ {ls : List Text} {i : Nat} {l : Text} (h : ls[i]? = some l) :
    charsBefore ls (i + 1) = charsBefore ls i + l.length := by
  simp [charsBefore, List.take_add_one, h]

theorem charsBefore_le_length (t : Text) (i : Nat) : charsBefore (lines t) i ≤ t.length := by
  have := charsBefore_mono (lines t) (Nat.le_max_left i (lines t).length)
  rwa [charsBefore, charsBefore, List.take_of_length_le (Nat.le_max_right i (lines t).length),
    flatten_lines] at this

theorem dropLast?_le {c : Char} {l : Text} {n : Nat} (h : n ≤ l.length) :
    ∃ m, dropLast? c l n = some m ∧ m ≤ n := by
  unfold dropLast?
  split
  · next hn =>
    rw [sub?_of_le hn]
    simp only [Option.bind_eq_bind, Option.bind_some]
    rw [List.getElem?_eq_getElem (by omega)]
    simp only [Option.bind_some]
    split
    · exact ⟨n - 1, rfl, by omega⟩
    · exact ⟨n, rfl, Nat.le_refl n⟩
  · exact ⟨n, rfl, Nat.le_refl n⟩

/-- Every line of the table has an end, after its start and before the next line. -/
theorem lineEnd?_of_lt {t : Text} {i : Nat} (h : i < lineCount t) :
    ∃ e, lineEnd? t i = some e ∧ charsBefore (lines t) i ≤ e ∧
      e ≤ charsBefore (lines t) (i + 1) := by
  obtain ⟨l, hl⟩ : ∃ l, (lines t)[i]? = some l := ⟨_, List.getElem?_eq_getElem h⟩
  obtain ⟨m, hm, hml⟩ := dropLast?_le (c := '\n') (Nat.le_refl l.length)
  obtain ⟨n, hn, hnm⟩ := dropLast?_le (c := '\r') hml
  refine ⟨charsBefore (lines t) i + n, ?_, Nat.le_add_right _ _, ?_⟩
  · simp [lineEnd?, line?, hl, hm, hn, lineStart?_of_le (Nat.le_of_lt h)]
  · rw [charsBefore_succ hl]; omega

/-- Every line of the table has a length in code units, and ends before the next line. -/
theorem lineUnits?_of_lt {t : Text} {i : Nat} (h : i < lineCount t) :
    ∃ n, lineUnits? t i = some n ∧
      weight unitSize (t.take (charsBefore (lines t) i)) + n ≤
        weight unitSize (t.take (charsBefore (lines t) (i + 1))) := by
  obtain ⟨e, he, hse, hes⟩ := lineEnd?_of_lt h
  have hel := Nat.le_trans hes (charsBefore_le_length t _)
  have hw := weight_take_mono (w := unitSize) t hse
  have hw' := weight_take_mono (w := unitSize) t hes
  refine ⟨_, ?_, by rw [Nat.add_sub_cancel' hw]; exact hw'⟩
  simp [lineUnits?, lineStart?_of_le (Nat.le_of_lt h), he, offsetOf?_of_le hel,
    offsetOf?_of_le (charsBefore_le_length t i), sub?_of_le hw]

theorem lineOf_lt {ls : List Text} (h : ls ≠ []) (n : Nat) : lineOf ls n < ls.length := by
  fun_induction lineOf ls n with
  | case1 l m ls n hn ih => simpa using ih (by simp)
  | case2 => simp
  | case3 ls => exact List.length_pos_iff.2 h

/-- A line starts no later than the characters on it. -/
theorem charsBefore_lineOf_le (ls : List Text) (n : Nat) : charsBefore ls (lineOf ls n) ≤ n := by
  fun_induction lineOf ls n with
  | case1 l m ls n hn ih =>
    simp only [charsBefore, List.take_succ_cons, List.flatten_cons, List.length_append] at ih ⊢
    omega
  | case2 => simp [charsBefore]
  | case3 => simp [charsBefore]

end DocSync.Text
