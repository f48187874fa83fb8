import DocSync.Proofs.Fixture.Lines
import DocSync.Proofs.Fixture.Markers
import DocSync.Proofs.Text.Bounds

/-! # The notation of fixtures is read back

A rendered fixture is cut back into its documents, each of them into the lines it was rendered from
except for blanks at its very end, and reading these lines collects the texts, the first cursor and
the ranges one text line after the other.
-/

namespace DocSync.Fixture

/-- A line and the marker lines below it. -/
def AnnotatedLine.rows (l : AnnotatedLine) : List Text := l.text :: l.marks.map Marks.render

def Source.rows (s : Source) : List Text := s.lines.flatMap AnnotatedLine.rows

theorem Source.render_eq (s : Source) :
    s.render = '%' :: '!' :: ' ' :: (s.path.toList ++ '\n' :: endLines s.rows) := by
  have hline : ∀ l : AnnotatedLine, l.render = endLines l.rows := fun l => by
    rw [AnnotatedLine.rows, endLines_cons, endLines, List.flatMap_map]
    rfl
  have hlines : s.lines.flatMap AnnotatedLine.render = endLines s.rows := by
    rw [rows, endLines, List.flatMap_assoc]
    exact List.flatMap_congr fun l _ => hline l
  rw [render, hlines]
  rfl

section Rows

/-- A line that comes back from the text as it is. -/
structure IsRow (l : Text) : Prop where
  unmarked : Unmarked l
  no_feed : '\n' ∉ l
  no_return : l.getLast? ≠ some '\r'

theorem Marks.isRow_render (m : Marks) : IsRow m.render where
  unmarked := unmarked_of_not_mem fun h => by simpa using mem_render h
  no_feed h := by simpa using mem_render h
  no_return h := by simpa using mem_render (List.mem_of_getLast? h)

theorem AnnotatedLine.Valid.isRow {l : AnnotatedLine} (hl : l.Valid) : ∀ r ∈ l.rows, IsRow r := by
  intro r hr
  obtain rfl | hr := List.mem_cons.mp hr
  · exact ⟨hl.unmarked, hl.no_feed, hl.no_return⟩
  · obtain ⟨m, -, rfl⟩ := List.mem_map.mp hr
    exact m.isRow_render

theorem Source.Valid.isRow {s : Source} (hs : s.Valid) : ∀ r ∈ s.rows, IsRow r := by
  intro r hr
  obtain ⟨l, hl, hr⟩ := List.mem_flatMap.mp hr
  exact (hs.lines_valid l hl).isRow r hr

end Rows

section Reading

theorem findSome?_cons_eq_or {α β : Type} (f : α → Option β) (x : α) (xs : List α) :
    (x :: xs).findSome? f = (f x).or (xs.findSome? f) := by
  cases h : f x <;> simp [h]

/-- Marker lines below one text line, all with its number. -/
theorem foldlM_marks {k : Nat} {ls : List Text} (hk : ls.length = k + 1) {ms : List Marks}
    (hms : ∀ m ∈ ms, m.Valid) (p : Option Position) (rs : List Range) :
    (ms.map Marks.render).foldlM Annotated.add? ⟨ls, p, rs⟩ = some
      ⟨ls, p.or ((ms.findSome? fun m => m.cursor.map (Place.mk k)).map Place.position),
        rs ++ (ms.flatMap (·.ranges k)).map Stretch.range⟩ := by
  induction ms generalizing p rs with
  | nil => simp
  | cons m ms ih =>
    rw [List.forall_mem_cons] at hms
    have hstep : Annotated.add? ⟨ls, p, rs⟩ m.render =
        some ⟨ls, p.or ((m.cursor.map (Place.mk k)).map Place.position),
          rs ++ (m.ranges k).map Stretch.range⟩ := by
      rw [Annotated.add?_render hms.1, hk, Text.sub?_of_le (by omega), Option.map_some,
        Nat.add_sub_cancel]
    rw [List.map_cons, List.foldlM_cons, hstep, Option.bind_eq_bind, Option.bind_some, ih hms.2,
      findSome?_cons_eq_or, Option.map_or, Option.or_assoc, List.flatMap_cons, List.map_append,
      List.append_assoc]

variable {a : Annotated}

theorem foldlM_rows {l : AnnotatedLine} (hl : l.Valid) :
    l.rows.foldlM Annotated.add? a = some
      ⟨a.lines ++ [l.text], a.cursor.or ((l.cursor? a.lines.length).map Place.position),
        a.ranges ++ (l.marks.flatMap (·.ranges a.lines.length)).map Stretch.range⟩ := by
  rw [AnnotatedLine.rows, List.foldlM_cons, Annotated.add?_text hl, Option.bind_eq_bind,
    Option.bind_some, foldlM_marks (k := a.lines.length) (by simp) hl.marks_valid]
  rfl

/-- The number of a text line is how many stand above it, whatever marker lines they have. -/
theorem foldlM_lines {ls : List AnnotatedLine} (hls : ∀ l ∈ ls, l.Valid) :
    (ls.flatMap AnnotatedLine.rows).foldlM Annotated.add? a = some
      ⟨a.lines ++ ls.map (·.text),
        a.cursor.or
          (((ls.zipIdx a.lines.length).findSome? fun (l, i) => l.cursor? i).map Place.position),
        a.ranges ++ ((ls.zipIdx a.lines.length).flatMap fun (l, i) =>
          l.marks.flatMap (·.ranges i)).map Stretch.range⟩ := by
  induction ls generalizing a with
  | nil => simp
  | cons l ls ih =>
    rw [List.forall_mem_cons] at hls
    rw [List.flatMap_cons, List.foldlM_append, foldlM_rows hls.1, Option.bind_eq_bind,
      Option.bind_some, ih hls.2, List.zipIdx_cons, findSome?_cons_eq_or, Option.map_or,
      Option.or_assoc, List.length_append, List.length_singleton, List.flatMap_cons, List.map_append]
    simp only [List.append_assoc, List.singleton_append, List.map_cons]

end Reading

section Trimming

/-- The last line under a text line keeps what it says when blanks at its end are taken off. -/
theorem AnnotatedLine.Valid.exists_visible {l : AnnotatedLine} (hl : l.Valid)
    (hvisible : l.marks = [] → EndsVisibly l.text) : ∃ front last k,
      l.rows = front ++ [last ++ List.replicate k ' '] ∧ EndsVisibly last ∧
      ∀ a : Annotated, a.add? (last ++ List.replicate k ' ') = a.add? last := by
  obtain hnil | ⟨ms, m, hms⟩ := l.marks.eq_nil_or_concat
  · exact ⟨[], l.text, 0, by simp [rows, hnil], hvisible hnil, fun a => by simp⟩
  · have hm : m.Valid := hl.marks_valid m (by simp [hms])
    obtain ⟨n, k, hcut, hend, heq⟩ := hm.exists_cut
    refine ⟨l.text :: ms.map Marks.render, (m.cut n).render, k, ?_, hend, fun a => ?_⟩
    · rw [rows, hms, List.concat_eq_append, List.map_append, List.map_singleton, heq]
      rfl
    · rw [← heq, Annotated.add?_render hm, Annotated.add?_render hcut]
      rfl

theorem Source.Valid.exists_visible {s : Source} (hs : s.Valid) (hne : s.lines ≠ []) :
    ∃ front last k, s.rows = front ++ [last ++ List.replicate k ' '] ∧ EndsVisibly last ∧
      ∀ a : Annotated, a.add? (last ++ List.replicate k ' ') = a.add? last := by
  obtain hnil | ⟨ls, l, hlines⟩ := s.lines.eq_nil_or_concat
  · exact absurd hnil hne
  · rw [List.concat_eq_append] at hlines
    have hl : l.Valid := hs.lines_valid l (by simp [hlines])
    obtain ⟨front, last, k, hfront, hend, hadd⟩ :=
      hl.exists_visible (hs.last_visible l (by simp [hlines]))
    refine ⟨ls.flatMap AnnotatedLine.rows ++ front, last, k, ?_, hend, hadd⟩
    rw [rows, hlines, List.flatMap_append, List.flatMap_singleton, hfront, List.append_assoc]

theorem Source.trim_render (s : Source) (rest : Text) (k : Nat)
    (hend : EndsVisibly (s.path.toList ++ rest))
    (heq : '\n' :: endLines s.rows = rest ++ (List.replicate k ' ' ++ ['\n'])) :
    Text.trim s.render = '%' :: '!' :: ' ' :: (s.path.toList ++ rest) := by
  rw [s.render_eq, heq, ← List.append_assoc]
  refine Text.trim_append rfl (hend.append ['%', '!', ' ']) fun b hb => ?_
  obtain hb | hb := List.mem_append.mp hb
  · rw [List.eq_of_mem_replicate hb]
    rfl
  · rw [List.mem_singleton.mp hb]
    rfl

/-- What trimming leaves behind the path is read like all lines. -/
theorem Source.Valid.exists_trim {s : Source} (hs : s.Valid) : ∃ rest,
    Text.trim s.render = '%' :: '!' :: ' ' :: (s.path.toList ++ rest) ∧
    (∀ c ∈ rest.head?, c = '\n') ∧ ∀ a : Annotated,
      (sourceLines (rest.drop 1)).foldlM Annotated.add? a = s.rows.foldlM Annotated.add? a := by
  by_cases hlines : s.lines = []
  · -- the line feed behind the path is trimmed as well
    have hrows : s.rows = [] := by rw [rows, hlines, List.flatMap_nil]
    have htrim := s.trim_render [] 0 (by simpa using hs.ends_visibly) (by rw [hrows]; rfl)
    exact ⟨[], htrim, nofun, fun a => by rw [hrows]; rfl⟩
  · obtain ⟨front, last, k, hrows, hend, hadd⟩ := hs.exists_visible hlines
    have hfront : ∀ r ∈ front, IsRow r := fun r hr => hs.isRow r (by simp [hrows, hr])
    have hlast : '\n' ∉ last := fun h =>
      (hs.isRow (last ++ List.replicate k ' ') (by simp [hrows])).no_feed (by simp [h])
    have hread : sourceLines (endLines front ++ last) = front ++ [last] :=
      sourceLines_endLines (fun r hr => (hfront r hr).no_feed) (fun r hr => (hfront r hr).no_return)
        hlast hend.ne_nil
    refine ⟨'\n' :: (endLines front ++ last), s.trim_render _ k ?_ ?_, by simp, fun a => ?_⟩
    · simpa using hend.append (s.path.toList ++ '\n' :: endLines front)
    · rw [hrows, endLines_concat]
      simp
    · rw [List.drop_one, List.tail_cons, hread, hrows]
      simp only [List.foldlM_append, List.foldlM_cons, List.foldlM_nil, hadd]

end Trimming

theorem parseDocument?_of_trim {t path rest : Text} (hpath : '\n' ∉ path)
    (ht : Text.trim t = '%' :: '!' :: ' ' :: (path ++ rest)) (hrest : ∀ c ∈ rest.head?, c = '\n') :
    parseDocument? t =
      ((sourceLines (rest.drop 1)).foldlM Annotated.add? ⟨[], none, []⟩).map fun a =>
        ⟨String.ofList path, joinLines a.lines, a.cursor, a.ranges⟩ := by
  have htake : (path ++ rest).takeWhile (· ≠ '\n') = path := by
    have hinside : ∀ c ∈ path, decide (c ≠ '\n') = true := fun c hc =>
      decide_eq_true fun h => hpath (h ▸ hc)
    rw [List.takeWhile_append_of_pos hinside]
    cases rest with
    | nil => simp
    | cons c rest => simp [hrest c rfl]
  have hdrop : (path ++ rest).drop (path.length + 1) = rest.drop 1 := by
    rw [← List.drop_drop, List.drop_left]
  rw [parseDocument?, ht]
  simp only [htake, hdrop]
  cases (sourceLines (rest.drop 1)).foldlM Annotated.add? ⟨[], none, []⟩ <;> rfl

theorem Source.Valid.parseDocument?_render {s : Source} (hs : s.Valid) :
    parseDocument? s.render = some s.document := by
  obtain ⟨rest, htrim, hhead, hread⟩ := hs.exists_trim
  rw [parseDocument?_of_trim hs.no_feed htrim hhead, hread, Source.rows, foldlM_lines hs.lines_valid,
    Option.map_some, String.ofList_toList]
  rfl

/-- Behind its header mark, a document holds no other one. -/
theorem Source.Valid.exists_unmarked {s : Source} (hs : s.Valid) :
    ∃ t, s.render = '%' :: '!' :: t ∧ Unmarked t := by
  refine ⟨_, s.render_eq, ?_⟩
  have hrows : Unmarked (endLines s.rows) := unmarked_endLines fun r hr => (hs.isRow r hr).unmarked
  have hbody := hs.unmarked.append_cons hrows (c := '\n') (by decide) (by decide)
  exact (unmarked_of_not_mem List.not_mem_nil).append_cons hbody (by decide) (by decide)

theorem splitMarks_renderAll {ss : List Source} (hss : ∀ s ∈ ss, s.Valid) :
    splitMarks (renderAll ss) = [] :: ss.map Source.render := by
  induction ss with
  | nil => rfl
  | cons s ss ih =>
    rw [List.forall_mem_cons] at hss
    obtain ⟨t, hrender, ht⟩ := hss.1.exists_unmarked
    have hhead : (renderAll ss).head? ≠ some '!' := by
      cases ss with
      | nil => simp [renderAll]
      | cons s' ss => simp [renderAll, Source.render_eq]
    have hcons : renderAll (s :: ss) = '%' :: '!' :: (t ++ renderAll ss) := by
      rw [renderAll, List.flatMap_cons, hrender]
      rfl
    rw [hcons, splitMarks, splitMarks_append ht hhead, ih hss.2, List.map_cons, hrender]
    simp

theorem splitDocuments_renderAll {ss : List Source} (hss : ∀ s ∈ ss, s.Valid) :
    splitDocuments (renderAll ss) = ss.map Source.render := by
  cases ss with
  | nil => rfl
  | cons s ss =>
    have hne : renderAll (s :: ss) ≠ [] := by simp [renderAll, Source.render]
    rw [splitDocuments, if_neg hne, splitMarks_renderAll hss]
    rfl

theorem parse?_renderAll {ss : List Source} (hss : ∀ s ∈ ss, s.Valid) :
    parse? (renderAll ss) = some (ss.map Source.document) := by
  rw [parse?, splitDocuments_renderAll hss]
  induction ss with
  | nil => rfl
  | cons s ss ih =>
    rw [List.forall_mem_cons] at hss
    rw [List.map_cons, List.mapM_cons, hss.1.parseDocument?_render, ih hss.2]
    rfl

section Places
variable {s : Source} {l : AnnotatedLine} {m : Marks} {i : Nat} {p : Place} {r : Stretch}

theorem Source.Fits.line_lt (hs : s.Fits) (h : (l, i) ∈ s.lines.zipIdx) : i < UInt32.size :=
  Nat.lt_of_lt_of_le (List.snd_lt_of_mem_zipIdx h) hs.lines_le

theorem Marks.Valid.ranges_fit (hm : m.Valid) (hi : i < UInt32.size) (hn : m.length < UInt32.size)
    (h : r ∈ m.ranges i) : r.start.Fits ∧ r.stop.Fits := by
  obtain ⟨-, -, hpoint, hspan⟩ := hm
  rw [ranges, List.mem_append, Option.mem_toList, Option.mem_toList] at h
  simp only [Option.map_eq_some_iff] at h
  rcases h with ⟨p, hp, rfl⟩ | ⟨⟨first, more⟩, hs, rfl⟩
  · have hlt := (hpoint p hp).1.trans hn
    exact ⟨⟨hi, hlt⟩, ⟨hi, hlt⟩⟩
  · have hlt := hspan _ hs
    exact ⟨⟨hi, by simp only; omega⟩, ⟨hi, by simp only; omega⟩⟩

theorem Source.Valid.cursor_fits (hs : s.Valid) (hfits : s.Fits) (h : s.cursor? = some p) :
    p.Fits := by
  obtain ⟨⟨l, i⟩, hl, h⟩ := List.exists_of_findSome?_eq_some h
  obtain ⟨m, hm, h⟩ := List.exists_of_findSome?_eq_some h
  obtain ⟨c, hc, rfl⟩ := Option.map_eq_some_iff.1 h
  have hmem := List.fst_mem_of_mem_zipIdx hl
  have hlt := (((hs.lines_valid l hmem).marks_valid m hm).2.1 c hc).1
  exact ⟨hfits.line_lt hl, hlt.trans (hfits.length_lt l hmem m hm)⟩

theorem Source.Valid.ranges_fit (hs : s.Valid) (hfits : s.Fits) (h : r ∈ s.ranges) :
    r.start.Fits ∧ r.stop.Fits := by
  obtain ⟨⟨l, i⟩, hl, h⟩ := List.mem_flatMap.1 h
  obtain ⟨m, hm, h⟩ := List.mem_flatMap.1 h
  have hmem := List.fst_mem_of_mem_zipIdx hl
  exact ((hs.lines_valid l hmem).marks_valid m hm).ranges_fit (hfits.line_lt hl)
    (hfits.length_lt l hmem m hm) h

/-- In a document that fits, positions hold the numbers of lines and columns as they are. -/
theorem Source.Valid.places_document (hs : s.Valid) (hfits : s.Fits) :
    s.document.cursor.map Place.ofPosition = s.cursor? ∧
      s.document.ranges.map Stretch.ofRange = s.ranges := by
  constructor
  · rw [document, Option.map_map]
    cases h : s.cursor? with
    | none => rfl
    | some p => exact congrArg some (hs.cursor_fits hfits h).ofPosition_position
  · rw [document, List.map_map]
    refine (List.map_congr_left fun r hr => ?_).trans (List.map_id _)
    obtain ⟨hstart, hstop⟩ := hs.ranges_fit hfits hr
    simp only [Function.comp_apply, Stretch.range, Stretch.ofRange, hstart.ofPosition_position,
      hstop.ofPosition_position, id_eq]

end Places

/-- **Fixtures are read as they were written.** Every list of documents in the notation is parsed
back: the paths, the text lines without the marker lines, the first cursor of every document, and
all ranges in the order of the marker lines. The lines and the columns are the numbers that were
meant, as long as these have 32 bits. -/
theorem parse_renderAll {ss : List Source} (hss : ∀ s ∈ ss, s.Valid) :
    parse? (renderAll ss) = some (ss.map Source.document) ∧
    ∀ s ∈ ss, s.Fits → s.document.cursor.map Place.ofPosition = s.cursor? ∧
      s.document.ranges.map Stretch.ofRange = s.ranges :=
  ⟨parse?_renderAll hss, fun s hs hfits => (hss s hs).places_document hfits⟩

/-- Two marker lines below the second text line, the last one with blanks at its end, and a document
without lines. -/
theorem parse_renderAll_two_documents :
    let empty : AnnotatedLine := ⟨[], []⟩
    let item : AnnotatedLine := ⟨['%', ' ', 'i', 't'],
      [⟨none, some 1, some (2, 1), 4⟩, ⟨some 2, none, none, 6⟩]⟩
    let ss : List Source := [⟨"/list", [empty, item]⟩, ⟨"/none", []⟩]
    (∀ s ∈ ss, s.Valid) ∧ parse? (renderAll ss) = some [
      ⟨"/list", ['\n', '%', ' ', 'i', 't'], some ⟨1, 2⟩, [⟨⟨1, 1⟩, ⟨1, 1⟩⟩, ⟨⟨1, 2⟩, ⟨1, 4⟩⟩]⟩,
      ⟨"/none", [], none, []⟩] := by
  intro empty item ss
  have hempty : empty.Valid := ⟨unmarked_of_not_mem (by decide), by decide, by decide, nofun,
    by simp [empty]⟩
  have hitem : item.Valid :=
    ⟨by unfold Unmarked; decide, by decide, by decide, fun _ => ⟨'%', by decide⟩,
      by simp [item, Marks.Valid, Marks.inSpan]⟩
  have hlist : Source.Valid ⟨"/list", [empty, item]⟩ :=
    ⟨unmarked_of_not_mem (by decide), by decide, ⟨'t', by decide, rfl⟩, by simp [hempty, hitem],
      by simp [item]⟩
  have hnone : Source.Valid ⟨"/none", []⟩ :=
    ⟨unmarked_of_not_mem (by decide), by decide, ⟨'e', by decide, rfl⟩, by simp, by simp⟩
  have hss : ∀ s ∈ ss, s.Valid := by simp [ss, hlist, hnone]
  exact ⟨hss, (parse_renderAll hss).1⟩

end DocSync.Fixture
