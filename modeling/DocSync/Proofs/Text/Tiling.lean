import DocSync.Proofs.Text.Content

/-! # The lines that a text is made of

`Tiled` says what the lines of a text are, with no word on how to find them: contents without a
break, and between them the terminators. `tiled_iff` finds them in the line table, so that every
text has its lines in one way only.
-/

namespace DocSync.Text

/-- A text and its lines, each as its content and its terminator. Only the last line has an empty
terminator. -/
inductive Tiled : Text → List (Text × Text) → Prop
  | last {a : Text} (ha : Unbroken a) : Tiled a [(a, [])]
  | line {a w u : Text} {ls : List (Text × Text)} (ha : Unbroken a) (hw : IsTerminator w u)
      (hu : Tiled u ls) : Tiled (a ++ (w ++ u)) ((a, w) :: ls)

/-- What a line has behind its content. -/
def terminator (l : Text) : Text := l.dropWhile (! isBreak ·)

theorem content_append_terminator (l : Text) : content l ++ terminator l = l :=
  List.takeWhile_append_dropWhile

theorem terminator_append {a w u : Text} (ha : Unbroken a) (hw : IsTerminator w u) :
    terminator (a ++ w) = w := by
  have hcontent : content (a ++ w) = a := by simpa using content_append ha hw []
  have hline := content_append_terminator (a ++ w)
  rw [hcontent] at hline
  exact List.append_cancel_left hline

/-- The line table as contents and terminators. -/
def table (t : Text) : List (Text × Text) := (lines t).map fun l => (content l, terminator l)

theorem table_of_unbroken {a : Text} (ha : Unbroken a) : table a = [(a, [])] := by
  have hline := content_append_terminator a
  rw [content_of_unbroken ha] at hline
  have hnil : terminator a = [] := List.append_right_eq_self.1 hline
  simp [table, lines_of_unbroken ha, content_of_unbroken ha, hnil]

theorem table_append {a w u : Text} (ha : Unbroken a) (hw : IsTerminator w u) :
    table (a ++ (w ++ u)) = (a, w) :: table u := by
  have hcontent : content (a ++ w) = a := by simpa using content_append ha hw []
  simp [table, lines_append ha hw, hcontent, terminator_append ha hw]

theorem tiled_table (t : Text) : Tiled t (table t) := by
  induction t using lines_induction with
  | last a ha =>
    rw [table_of_unbroken ha]
    exact .last ha
  | line a w u ha hw ih =>
    rw [table_append ha hw]
    exact .line ha hw ih

theorem Tiled.eq_table {t : Text} {ls : List (Text × Text)} (h : Tiled t ls) : ls = table t := by
  induction h with
  | last ha => rw [table_of_unbroken ha]
  | line ha hw _ ih => rw [table_append ha hw, ih]

/-- Every text has its lines in one way, and the line table gives them. -/
theorem tiled_iff {t : Text} {ls : List (Text × Text)} : Tiled t ls ↔ ls = table t := by
  constructor
  · exact Tiled.eq_table
  · rintro rfl
    exact tiled_table t

theorem length_table (t : Text) : (table t).length = lineCount t := List.length_map _

theorem getElem?_table (t : Text) (k : Nat) :
    (table t)[k]? = ((lines t)[k]?).map fun l => (content l, terminator l) := List.getElem?_map

theorem flatMap_take_table (t : Text) (k : Nat) :
    ((table t).take k).flatMap (fun l => l.1 ++ l.2) = before t k := by
  have hline : (fun l => content l ++ terminator l) = id := funext content_append_terminator
  rw [table, ← List.map_take, List.flatMap_map, hline, List.flatMap_id, before]

end DocSync.Text
