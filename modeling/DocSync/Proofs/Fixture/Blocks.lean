import DocSync.Proofs.Fixture.RoundTrip

/-! # What a document says, block by block

A block is a text line with the marker lines right below it. The lines of an accepted document are
those of some blocks and nothing else: reading them collects the text lines, and what a marker line
says goes with the number of the text line in its block.
-/

namespace DocSync.Fixture

/-- A text line and the marker lines right below it. -/
structure Block where
  text : Text
  markers : List Text
  text_plain : isMarkerLine text = false
  markers_marked : ∀ m ∈ markers, isMarkerLine m = true

namespace Block

def rows (b : Block) : List Text := b.text :: b.markers

def ofText (l : Text) (hl : isMarkerLine l = false) : Block := ⟨l, [], hl, nofun⟩

/-- The block with one more marker line. -/
def mark (b : Block) (m : Text) (hm : isMarkerLine m = true) : Block where
  text := b.text
  markers := b.markers ++ [m]
  text_plain := b.text_plain
  markers_marked := by
    intro m' h
    rcases List.mem_append.1 h with h | h
    · exact b.markers_marked m' h
    · rwa [List.mem_singleton.1 h]

def cursor? (b : Block) (i : Nat) : Option Position := b.markers.findSome? (lineCursor i)

def ranges (b : Block) (i : Nat) : List Range := b.markers.flatMap (lineRanges i)

section Mark
variable (b : Block) {m : Text} (hm : isMarkerLine m = true) (i : Nat)

theorem rows_mark : (b.mark m hm).rows = b.rows ++ [m] := rfl

theorem cursor?_mark : (b.mark m hm).cursor? i = (b.cursor? i).or (lineCursor i m) := by
  simp only [cursor?, mark, List.findSome?_append, List.findSome?_singleton]

theorem ranges_mark : (b.mark m hm).ranges i = b.ranges i ++ lineRanges i m := by
  simp only [ranges, mark, List.flatMap_append, List.flatMap_singleton]

end Mark
end Block

/-- What is collected from the rows of some blocks. -/
def annotated (bs : List Block) : Annotated where
  lines := bs.map (·.text)
  cursor := bs.zipIdx.findSome? fun (b, i) => b.cursor? i
  ranges := bs.zipIdx.flatMap fun (b, i) => b.ranges i

section Reading
variable {l m : Text}

/-- A block is numbered by how many there are in front of it. -/
theorem annotated_concat (bs : List Block) (b : Block) : annotated (bs ++ [b]) =
    ⟨(annotated bs).lines ++ [b.text], (annotated bs).cursor.or (b.cursor? bs.length),
      (annotated bs).ranges ++ b.ranges bs.length⟩ := by
  simp [annotated, List.zipIdx_append]

/-- A text line begins a block. -/
theorem add?_text (bs : List Block) (hl : isMarkerLine l = false) :
    (annotated bs).add? l = some (annotated (bs ++ [.ofText l hl])) := by
  rw [Annotated.add?, hl, annotated_concat]
  simp [Block.ofText, Block.cursor?, Block.ranges]

/-- A marker line goes on with the last block. -/
theorem add?_marker (bs : List Block) (b : Block) (hm : isMarkerLine m = true) :
    (annotated (bs ++ [b])).add? m = some (annotated (bs ++ [b.mark m hm])) := by
  have hline : Text.sub? (annotated (bs ++ [b])).lines.length 1 = some bs.length := by
    rw [Text.sub?_of_le (by simp [annotated])]
    simp [annotated]
  rw [Annotated.add?, if_pos hm, hline, Option.map_some, annotated_concat, annotated_concat,
    b.cursor?_mark, b.ranges_mark, Option.or_assoc, List.append_assoc]
  rfl

/-- A marker line begins nothing. -/
theorem add?_marker_nil (hm : isMarkerLine m = true) : (annotated []).add? m = none := by
  rw [Annotated.add?, if_pos hm]
  rfl

/-- Rows that can be read are the rows of blocks. -/
theorem exists_blocks {rows : List Text} {a : Annotated}
    (h : rows.foldlM Annotated.add? ⟨[], none, []⟩ = some a) :
    ∃ bs : List Block, rows = bs.flatMap Block.rows ∧ a = annotated bs := by
  induction rows using List.reverseRecOn generalizing a with
  | nil => exact ⟨[], rfl, (Option.some.inj h).symm⟩
  | append_singleton rows l ih =>
    rw [List.foldlM_append, Option.bind_eq_bind, Option.bind_eq_some_iff] at h
    obtain ⟨a', hrows, hlast⟩ := h
    simp only [List.foldlM_cons, List.foldlM_nil, bind_pure] at hlast
    obtain ⟨bs, rfl, rfl⟩ := ih hrows
    cases hl : isMarkerLine l with
    | false =>
      rw [add?_text bs hl] at hlast
      exact ⟨bs ++ [.ofText l hl], by simp [Block.rows, Block.ofText], (Option.some.inj hlast).symm⟩
    | true =>
      rcases bs.eq_nil_or_concat with rfl | ⟨bs, b, rfl⟩
      · rw [add?_marker_nil hl] at hlast
        cases hlast
      · rw [List.concat_eq_append, add?_marker bs b hl] at hlast
        exact ⟨bs ++ [b.mark l hl], by simp [b.rows_mark hl], (Option.some.inj hlast).symm⟩

end Reading

section Unique

/-- The markers of a block end where the next block begins. -/
theorem takeWhile_markers (b : Block) (bs : List Block) :
    (b.markers ++ bs.flatMap Block.rows).takeWhile isMarkerLine = b.markers := by
  rw [List.takeWhile_append_of_pos b.markers_marked]
  cases bs with
  | nil => simp
  | cons b' bs => simp [Block.rows, b'.text_plain]

/-- Rows are those of blocks in one way only. -/
theorem eq_of_flatMap_rows_eq {bs bs' : List Block}
    (h : bs.flatMap Block.rows = bs'.flatMap Block.rows) : bs = bs' := by
  induction bs generalizing bs' with
  | nil =>
    cases bs' with
    | nil => rfl
    | cons b' bs' => simp [Block.rows] at h
  | cons b bs ih =>
    cases bs' with
    | nil => simp [Block.rows] at h
    | cons b' bs' =>
      simp only [List.flatMap_cons, Block.rows, List.cons_append] at h
      obtain ⟨htext, hrest⟩ := List.cons.inj h
      have hmarkers : b.markers = b'.markers := by
        rw [← takeWhile_markers b bs, ← takeWhile_markers b' bs']
        exact congrArg _ hrest
      rw [hmarkers] at hrest
      have hblock : b = b' := by
        cases b
        cases b'
        cases htext
        cases hmarkers
        rfl
      rw [hblock, ih (List.append_cancel_left hrest)]

end Unique

/-- The lines below the header of a document. -/
def sourceRows (t : Text) : List Text :=
  sourceLines (((Text.trim t).dropWhile (· ≠ '\n')).drop 1)

/-- A text describes a document: a header with its path, and below it the rows of blocks, of which
its text, its first cursor and its ranges are taken. -/
structure Describes (t : Text) (bs : List Block) (d : FixtureDocument) : Prop where
  header : (Text.trim t).takeWhile (· ≠ '\n') = ['%', '!', ' '] ++ d.path.toList
  rows : sourceRows t = bs.flatMap Block.rows
  text : d.text = joinLines (bs.map (·.text))
  cursor : d.cursor = bs.zipIdx.findSome? fun (b, i) => b.cursor? i
  ranges : d.ranges = bs.zipIdx.flatMap fun (b, i) => b.ranges i

theorem Describes.unique {t : Text} {bs bs' : List Block} {d : FixtureDocument}
    (h : Describes t bs d) (h' : Describes t bs' d) : bs = bs' :=
  eq_of_flatMap_rows_eq (h.rows.symm.trans h'.rows)

theorem exists_describes {t : Text} {d : FixtureDocument} (h : parseDocument? t = some d) :
    ∃ bs, Describes t bs d := by
  obtain ⟨rest, hrest⟩ : ∃ rest, Text.trim t = '%' :: '!' :: ' ' :: rest := by
    rw [parseDocument?] at h
    split at h
    · next rest hrest => exact ⟨rest, hrest⟩
    · cases h
  have hsplit : rest = rest.takeWhile (· ≠ '\n') ++ rest.dropWhile (· ≠ '\n') :=
    List.takeWhile_append_dropWhile.symm
  have hfeed : '\n' ∉ rest.takeWhile (· ≠ '\n') := fun hmem => by
    simpa using List.mem_takeWhile_imp hmem
  have hbehind : ∀ c ∈ (rest.dropWhile (· ≠ '\n')).head?, c = '\n' := by
    intro c hc
    have hstop := List.head?_dropWhile_not (· ≠ '\n') rest
    rw [Option.mem_def.1 hc] at hstop
    simpa using hstop
  rw [parseDocument?_of_trim hfeed (by rw [hrest, ← hsplit]) hbehind, Option.map_eq_some_iff] at h
  obtain ⟨a, ha, rfl⟩ := h
  obtain ⟨bs, hrows, rfl⟩ := exists_blocks ha
  refine ⟨bs, ?_, ?_, rfl, rfl, rfl⟩
  · rw [hrest]
    simp
  · rw [sourceRows, hrest, ← hrows]
    simp

theorem forall₂_of_mapM {α β : Type} {g : α → Option β} {xs : List α} {ys : List β}
    (h : xs.mapM g = some ys) : List.Forall₂ (fun y x => g x = some y) ys xs := by
  induction xs generalizing ys with
  | nil =>
    cases h
    exact .nil
  | cons x xs ih =>
    rw [List.mapM_cons] at h
    simp only [Option.bind_eq_bind, Option.bind_eq_some_iff] at h
    obtain ⟨y, hy, ys', hys, h⟩ := h
    cases h
    exact .cons hy (ih hys)

/-- Every document of an accepted fixture is what the text of its own part says. -/
theorem forall₂_describes {t : Text} {f : Fixture} (h : parse? t = some f) :
    List.Forall₂ (fun d part => ∃ bs, Describes part bs d) f (splitDocuments t) :=
  (forall₂_of_mapM h).imp fun _ _ hpart => exists_describes hpart

end DocSync.Fixture
