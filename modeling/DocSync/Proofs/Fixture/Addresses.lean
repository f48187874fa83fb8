import DocSync.Proofs.Fixture.Blocks
import DocSync.Proofs.Fixture.Opening
import DocSync.Proofs.Fixture.RoundTrip
import DocSync.Proofs.Store.Step
import DocSync.Proofs.Text.Columns

/-! # Marker lines address the open documents

The lines of a fixture are cut at line feeds and counted without the marker lines, those of an open
document are cut at every break. Without a return in the document they are the same lines, and then
a range is on the text line above its marker line, and a change of it fails for its columns only.
That is so as far as positions reach: they have 32 bits for a line and for a column, and longer
numbers are cut to these.
-/

namespace DocSync

section Change
variable {s : Store} {u : Uri} {c : Document} {r : Range}

/-- Where no version is checked, a change of one range is the edit that it makes. -/
theorem Store.run_change_ranged (hc : s.get? u = some c) (hp : s.policy = .overwrite)
    (version : Int32) (w : Text) :
    (change u version [.ranged r w]).run s = match c.text.edit r w with
      | .ok e => .ok () (s.put u { c with text := e.splice c.text, version })
      | .error cause => .error (.edit cause) s := by
  have hv : ¬ (s.policy = .strict ∧ version ≤ c.version) := by simp [hp]
  have hchanges := Text.changes_ranged c.text w r
  cases he : c.text.edit r w with
  | error cause =>
    rw [he] at hchanges
    exact run_change_of_error hc hv hchanges
  | ok e =>
    rw [he] at hchanges
    exact run_change_of_ok hc hv hchanges

theorem Store.exists_run_change_ranged_iff (hc : s.get? u = some c) (hp : s.policy = .overwrite)
    (version : Int32) (w : Text) :
    (∃ s', (change u version [.ranged r w]).run s = .ok () s') ↔ ∃ e, c.text.edit r w = .ok e := by
  rw [run_change_ranged hc hp]
  cases c.text.edit r w <;> simp

theorem Store.edit_of_run_change_ranged (hc : s.get? u = some c) (hp : s.policy = .overwrite)
    {version : Int32} {w : Text} {cause : EditError} {s' : Store}
    (h : (change u version [.ranged r w]).run s = .error (.edit cause) s') :
    c.text.edit r w = .error cause := by
  rw [run_change_ranged hc hp] at h
  cases he : c.text.edit r w with
  | error cause' =>
    rw [he] at h
    cases h
    rfl
  | ok e =>
    rw [he] at h
    cases h

end Change

namespace Fixture
open Text

section Joined
variable {l : Text} {ls : List Text}

theorem joinLines_cons (l : Text) (h : ls ≠ []) :
    joinLines (l :: ls) = l ++ (['\n'] ++ joinLines ls) := by
  obtain ⟨m, ls, rfl⟩ := List.exists_cons_of_ne_nil h
  simp [joinLines, List.intercalate]

theorem joinLines_singleton (l : Text) : joinLines [l] = l := by
  simp [joinLines, List.intercalate]

theorem subset_joinLines (h : l ∈ ls) : l ⊆ joinLines ls := by
  induction ls with
  | nil => cases h
  | cons m ls ih =>
    cases ls with
    | nil =>
      rw [List.mem_singleton.1 h, joinLines_singleton]
      exact List.Subset.refl m
    | cons m' ls =>
      rw [joinLines_cons m (List.cons_ne_nil _ _)]
      rcases List.mem_cons.1 h with rfl | h
      · exact List.subset_append_left _ _
      · exact fun c hc => by simp [ih h hc]

/-- Lines without breaks, joined, are the lines of the text. -/
theorem map_content_lines_joinLines (hls : ∀ l ∈ ls, Unbroken l) (hne : ls ≠ []) :
    (lines (joinLines ls)).map content = ls := by
  induction ls with
  | nil => exact absurd rfl hne
  | cons l ls ih =>
    rw [List.forall_mem_cons] at hls
    cases ls with
    | nil =>
      rw [joinLines_singleton, lines_of_unbroken hls.1, List.map_singleton,
        content_of_unbroken hls.1]
    | cons m ls =>
      have hfeed : IsTerminator ['\n'] (joinLines (m :: ls)) := .inl rfl
      have hcontent : content (l ++ ['\n']) = l := by simpa using content_append hls.1 hfeed []
      rw [joinLines_cons l (List.cons_ne_nil _ _), lines_append hls.1 hfeed, List.map_cons,
        hcontent, ih hls.2 (List.cons_ne_nil _ _)]

theorem hasLine_joinLines (hls : ∀ l ∈ ls, Unbroken l) {k : Nat} (h : ls[k]? = some l) :
    HasLine (joinLines ls) k l := by
  have hne : ls ≠ [] := by
    rintro rfl
    cases h
  rw [← map_content_lines_joinLines hls hne, List.getElem?_map] at h
  exact Option.map_eq_some_iff.1 h

end Joined

section Rows
variable {t l : Text}

theorem feed_notMem_of_mem_splitFeeds (h : l ∈ splitFeeds t) : '\n' ∉ l := by
  induction t generalizing l with
  | nil =>
    rw [List.mem_singleton.1 h]
    exact List.not_mem_nil
  | cons c t ih =>
    rw [splitFeeds] at h
    by_cases hc : c = '\n'
    · rw [if_pos hc] at h
      rcases List.mem_cons.1 h with rfl | h
      · exact List.not_mem_nil
      · exact ih h
    · rw [if_neg hc] at h
      cases hparts : splitFeeds t with
      | nil =>
        rw [hparts] at h
        cases h
      | cons part parts =>
        rw [hparts] at h ih
        rcases List.mem_cons.1 h with rfl | h
        · rw [List.mem_cons, not_or]
          exact ⟨Ne.symm hc, ih List.mem_cons_self⟩
        · exact ih (List.mem_cons_of_mem _ h)

theorem dropReturn_subset (l : Text) : dropReturn l ⊆ l := by
  unfold dropReturn
  split
  · exact List.dropLast_subset l
  · exact List.Subset.refl l

theorem feed_notMem_of_mem_sourceLines (h : l ∈ sourceLines t) : '\n' ∉ l := by
  rw [sourceLines, List.mem_append] at h
  rcases h with h | h
  · obtain ⟨part, hpart, rfl⟩ := List.mem_map.1 h
    have hfeed := feed_notMem_of_mem_splitFeeds (List.dropLast_subset _ hpart)
    exact fun hmem => hfeed (dropReturn_subset part hmem)
  · split at h
    · next c l' hlast =>
      rw [List.mem_singleton.1 h]
      exact feed_notMem_of_mem_splitFeeds (List.mem_of_getLast? hlast)
    · cases h

/-- A text line holds no feed, and no return either if the document holds none. -/
theorem Describes.unbroken {part : Text} {bs : List Block} {d : FixtureDocument}
    (h : Describes part bs d) (hreturn : '\r' ∉ d.text) : ∀ l ∈ bs.map (·.text), Unbroken l := by
  intro l hl c hc
  obtain ⟨b, hb, rfl⟩ := List.mem_map.1 hl
  have hrow : b.text ∈ sourceRows part := by
    rw [h.rows]
    exact List.mem_flatMap.2 ⟨b, hb, List.mem_cons_self⟩
  rw [h.text] at hreturn
  rw [isBreak_eq_false]
  constructor
  · rintro rfl
    exact feed_notMem_of_mem_sourceLines hrow hc
  · rintro rfl
    exact hreturn (subset_joinLines hl hc)

end Rows

section Columns
variable {m : Text} {c : Char} {a b i : Nat}

theorem getElem?_of_lastIdx? (h : lastIdx? c m = some b) : b < m.length ∧ m[b]? = some c := by
  obtain ⟨k, hk, rfl⟩ := Option.map_eq_some_iff.1 h
  obtain ⟨hlt, hat, -⟩ := List.findIdx?_eq_some_iff_getElem.1 hk
  rw [List.length_reverse] at hlt
  rw [List.getElem_reverse, beq_iff_eq] at hat
  exact ⟨by omega, hat ▸ List.getElem?_eq_getElem _⟩

theorem le_of_idxOf? (h : m.idxOf? c = some a) (hb : m[b]? = some c) : a ≤ b := by
  obtain ⟨_, _, hbefore⟩ := List.findIdx?_eq_some_iff_getElem.1 h
  obtain ⟨hlt, hat⟩ := List.getElem?_eq_some_iff.1 hb
  by_contra hba
  exact hbefore b (not_le.1 hba) (by simp [hat])

theorem line_of_lineCursor {p : Position} (h : lineCursor i m = some p) : p.line = .ofNat i := by
  obtain ⟨n, -, rfl⟩ := Option.map_eq_some_iff.1 h
  rfl

/-- A range is on one line, in order, and ends no later than its marker line. -/
theorem exists_columns {r : Range} (h : r ∈ lineRanges i m) :
    ∃ a b, a ≤ b ∧ b ≤ m.length ∧ r = ⟨column i a, column i b⟩ := by
  rw [lineRanges, List.mem_append] at h
  rcases h with h | h
  · rw [Option.mem_toList, Option.map_eq_some_iff] at h
    obtain ⟨n, hn, rfl⟩ := h
    obtain ⟨hlt, -⟩ := List.findIdx?_eq_some_iff_getElem.1 hn
    exact ⟨n, n, le_rfl, hlt.le, rfl⟩
  · split at h
    · next a b ha hb =>
      obtain ⟨hlt, hat⟩ := getElem?_of_lastIdx? hb
      exact ⟨a, b + 1, Nat.le_succ_of_le (le_of_idxOf? ha hat), hlt, List.mem_singleton.1 h⟩
    · cases h

end Columns

/-- A position is on the line of text line `i`, where `l` stands. It holds the number of that line
in 32 bits: cut to these, it is on another line, and still on one that exists. -/
structure Names (t : Text) (i : Nat) (l : Text) (p : Position) : Prop where
  line_eq : p.line = .ofNat i
  exists_line : ∃ l', HasLine t p.line.toNat l'
  hasLine : i < UInt32.size → HasLine t p.line.toNat l

/-- What a range of marker line `m` is to text line `i` of an open document, where `l` stands. -/
structure Addresses (s : Store) (u : Uri) (t l m : Text) (i : Nat) (r : Range) : Prop where
  names : Names t i l r.start
  columns : ∃ a b, a ≤ b ∧ b ≤ m.length ∧ r = ⟨column i a, column i b⟩
  one_line : r.stop.line = r.start.line
  ordered : m.length < UInt32.size → ¬ r.stop < r.start
  accepted_iff : i < UInt32.size → m.length < UInt32.size → ∀ version w,
    (∃ s', (Store.change u version [.ranged r w]).run s = .ok () s') ↔
      HasColumn l r.start.character.toNat ∧ HasColumn l r.stop.character.toNat
  ne_lineOutOfBounds : ∀ version w p n s', (Store.change u version [.ranged r w]).run s ≠
    .error (.edit (.invalidPosition p (.lineOutOfBounds n))) s'
  ne_invalidRange : m.length < UInt32.size → ∀ version w q s',
    (Store.change u version [.ranged r w]).run s ≠ .error (.edit (.invalidRange q)) s'

section Positions
variable {ls : List Text} {l : Text} {i : Nat}

theorem names_of_line {p : Position} (hls : ∀ l ∈ ls, Unbroken l) (hi : ls[i]? = some l)
    (hp : p.line = .ofNat i) : Names (joinLines ls) i l p := by
  have hline : p.line.toNat = i % UInt32.size := by
    rw [hp]
    exact UInt32.toNat_ofNat'
  have hlt : i < ls.length := (List.getElem?_eq_some_iff.1 hi).1
  have hle : p.line.toNat < ls.length := by
    rw [hline]
    exact Nat.lt_of_le_of_lt (Nat.mod_le _ _) hlt
  refine ⟨hp, ?_, ?_⟩
  · exact ⟨_, hasLine_joinLines hls (List.getElem?_eq_getElem hle)⟩
  · intro hfits
    rw [hline, Nat.mod_eq_of_lt hfits]
    exact hasLine_joinLines hls hi

theorem ordered_columns {a b n : Nat} (hab : a ≤ b) (hb : b ≤ n) (hn : n < UInt32.size) :
    ¬ column i b < column i a := by
  have hcolumn {k : Nat} (hk : k ≤ n) : (column i k).character.toNat = k := by
    rw [column, UInt32.toNat_ofNat', Nat.mod_eq_of_lt (Nat.lt_of_le_of_lt hk hn)]
  rw [Position.lt_iff_toNat, hcolumn hb, hcolumn (hab.trans hb)]
  rintro (h | ⟨-, h⟩)
  · exact absurd h (Nat.lt_irrefl _)
  · omega

theorem addresses_of_mem {s : Store} {u : Uri} {c : Document} {m : Text} {r : Range}
    (hc : s.get? u = some c) (hp : s.policy = .overwrite) (ht : c.text = joinLines ls)
    (hls : ∀ l ∈ ls, Unbroken l) (hi : ls[i]? = some l) (hr : r ∈ lineRanges i m) :
    Addresses s u c.text l m i r := by
  obtain ⟨a, b, hab, hb, rfl⟩ := exists_columns hr
  have hnames (k : Nat) : Names c.text i l (column i k) := by
    rw [ht]
    exact names_of_line hls hi rfl
  obtain ⟨l', hl'⟩ := (hnames a).exists_line
  refine ⟨hnames a, ⟨a, b, hab, hb, rfl⟩, rfl, ordered_columns hab hb, ?_, ?_, ?_⟩
  · intro hfits hfits' version w
    rw [Store.exists_run_change_ranged_iff hc hp]
    exact exists_edit_iff (ordered_columns hab hb hfits') ((hnames a).hasLine hfits)
      ((hnames b).hasLine hfits)
  · intro version w p n s' h
    exact edit_ne_lineOutOfBounds hl' hl' w p n (Store.edit_of_run_change_ranged hc hp h)
  · intro hfits version w q s' h
    exact edit_ne_invalidRange (ordered_columns hab hb hfits) c.text w q
      (Store.edit_of_run_change_ranged hc hp h)

end Positions

/-- **Marker lines address the open documents.** A fixture can be opened if its paths make
identifiers and no two are the same, and then each of its documents is open, once, at version 0. In
one without returns, whatever a marker line says is on the text line above it, and the store accepts
a change of its range exactly if both columns are on that line, within the bounds of a position. -/
theorem openAll_addresses {t : Text} {f : Fixture} (hf : parse? t = some f) :
    ((∃ s, openAll f = .ok s) ↔
      (∀ d ∈ f, ∃ u, uriOf d.path = .ok u) ∧ (f.map (·.path)).Nodup) ∧
    ∀ s, openAll f = .ok s → f.Forall₂ Opens s.entries ∧ s.uris.Nodup ∧
      f.Forall₂ (fun d part => ∃ u bs, uriOf d.path = .ok u ∧
        s.get? u = some ⟨"hare", 0, d.text⟩ ∧ Describes part bs d ∧
        ('\r' ∉ d.text → ∀ (i : Nat) b, bs[i]? = some b → ∀ m ∈ b.markers,
          (∀ p, lineCursor i m = some p → Names d.text i b.text p) ∧
          ∀ r ∈ lineRanges i m, Addresses s u d.text b.text m i r)) (splitDocuments t) := by
  refine ⟨exists_openAll_eq_ok_iff, ?_⟩
  intro s hs
  obtain ⟨es, hes, hnodup, heq⟩ := openAll_eq_ok_iff.1 hs
  have hpolicy : s.policy = .overwrite := by rw [heq]
  refine ⟨by rwa [heq], by rwa [heq], ?_⟩
  have hopen := fun d (hd : d ∈ f) => exists_get?_of_openAll hs hd
  have hdocuments := (List.forall₂_and_left _ _).2 ⟨hopen, forall₂_describes hf⟩
  refine hdocuments.imp ?_
  rintro d part ⟨⟨u, hu, hc⟩, bs, hpart⟩
  refine ⟨u, bs, hu, hc, hpart, ?_⟩
  intro hreturn i b hb m hm
  have hlines := hpart.unbroken hreturn
  have hi : (bs.map (·.text))[i]? = some b.text := by rw [List.getElem?_map, hb, Option.map_some]
  constructor
  · intro p hp
    rw [hpart.text]
    exact names_of_line hlines hi (line_of_lineCursor hp)
  · intro r hr
    exact addresses_of_mem hc hpolicy hpart.text hlines hi hr

/-- An astral character, marked within its pair of surrogates and in front of it. -/
def astral : Block := ⟨['😀', 'b'], [[' ', '^'], ['!', '|']], by decide, by decide⟩

theorem openAll_addresses_astral :
    let t := "%! /a\n😀b\n ^\n!|\n%! /b".toList
    let f : Fixture := [⟨"/a", astral.text, some ⟨0, 1⟩, [⟨⟨0, 1⟩, ⟨0, 2⟩⟩, ⟨⟨0, 0⟩, ⟨0, 0⟩⟩]⟩,
      ⟨"/b", [], none, []⟩]
    parse? t = some f ∧ ∃ s u, openAll f = .ok s ∧ s.size = 2 ∧ uriOf "/a" = .ok u ∧
      (¬ ∃ s', (Store.change u 1 [.ranged ⟨⟨0, 1⟩, ⟨0, 2⟩⟩ ['x']]).run s = .ok () s') ∧
      ∃ s', (Store.change u 1 [.ranged ⟨⟨0, 0⟩, ⟨0, 0⟩⟩ ['x']]).run s = .ok () s' := by
  intro t f
  have hf : parse? t = some f := by decide
  obtain ⟨hopens, hopen⟩ := openAll_addresses hf
  have hvalid : ∀ d ∈ f, ∃ u, uriOf d.path = .ok u := by
    rw [List.forall_mem_cons, List.forall_mem_singleton]
    exact ⟨⟨⟨"file:///a", by rfl⟩, by rfl⟩, ⟨"file:///b", by rfl⟩, by rfl⟩
  obtain ⟨s, hs⟩ := hopens.2 ⟨hvalid, by decide⟩
  obtain ⟨hentries, -, hparts⟩ := hopen s hs
  have hsplit : splitDocuments t = ["%! /a\n😀b\n ^\n!|\n".toList, "%! /b".toList] := by decide
  rw [hsplit] at hparts
  obtain ⟨⟨u, bs, hu, -, hpart, hmarks⟩, -⟩ := List.forall₂_cons.1 hparts
  obtain rfl : bs = [astral] := hpart.unique ⟨by decide, by decide, by decide, by decide, by decide⟩
  have hmarked := hmarks (by decide) 0 astral rfl
  have hinside := (hmarked [' ', '^'] (by decide)).2 ⟨⟨0, 1⟩, ⟨0, 2⟩⟩ (by decide)
  have hfront := (hmarked ['!', '|'] (by decide)).2 ⟨⟨0, 0⟩, ⟨0, 0⟩⟩ (by decide)
  refine ⟨hf, s, u, hs, hentries.length_eq.symm, hu, ?_, ?_⟩
  · rw [hinside.accepted_iff (by decide) (by decide)]
    decide
  · rw [hfront.accepted_iff (by decide) (by decide)]
    decide

section Limits
variable (n : Nat)

/-- A mark behind `n` blanks. -/
def far : Source := ⟨"/far", [⟨['x'], [⟨none, none, some (n, 0), n + 1⟩]⟩]⟩

/-- A cursor on a line with `n` empty lines above it. -/
def deep : Source :=
  ⟨"/deep", List.replicate n ⟨[], []⟩ ++ [⟨['x'], [⟨some 0, none, none, 1⟩]⟩]⟩

theorem valid_x {ms : List Marks} (hms : ∀ m ∈ ms, m.Valid) : AnnotatedLine.Valid ⟨['x'], ms⟩ :=
  ⟨unmarked_of_not_mem (by simp), by simp, by simp, fun _ => ⟨'x', by simp⟩, hms⟩

theorem far_valid : (far n).Valid := by
  have hpath : Unmarked "/far".toList := unmarked_of_not_mem (by decide)
  have hends : EndsVisibly "/far".toList := ⟨'r', by decide, rfl⟩
  have hline : AnnotatedLine.Valid ⟨['x'], [⟨none, none, some (n, 0), n + 1⟩]⟩ :=
    valid_x (by simp [Marks.Valid])
  exact ⟨hpath, (by decide : '\n' ∉ "/far".toList), hends, by simpa [far], by simp [far]⟩

theorem deep_valid : (deep n).Valid := by
  have hpath : Unmarked "/deep".toList := unmarked_of_not_mem (by decide)
  have hends : EndsVisibly "/deep".toList := ⟨'p', by decide, rfl⟩
  have hempty : AnnotatedLine.Valid ⟨[], []⟩ :=
    ⟨unmarked_of_not_mem (by decide), by decide, by decide, nofun, by simp⟩
  have hline : AnnotatedLine.Valid ⟨['x'], [⟨some 0, none, none, 1⟩]⟩ :=
    valid_x (by simp [Marks.Valid, Marks.inSpan])
  refine ⟨hpath, (by decide : '\n' ∉ "/deep".toList), hends, ?_, by simp [deep]⟩
  intro l hl
  rcases List.mem_append.1 hl with hl | hl
  · rw [List.eq_of_mem_replicate hl]
    exact hempty
  · rw [List.mem_singleton.1 hl]
    exact hline

theorem renderAll_far : renderAll [far n] =
    "%! /far\nx\n".toList ++ List.replicate n ' ' ++ ['^', '\n'] := by
  have hblank : ∀ i ∈ List.range n, Marks.charAt ⟨none, none, some (n, 0), n + 1⟩ i = ' ' := by
    intro i hi
    have hlt := List.mem_range.1 hi
    simp [Marks.charAt, Marks.inSpan, hlt]
  have hmark : Marks.charAt ⟨none, none, some (n, 0), n + 1⟩ n = '^' := by
    simp [Marks.charAt, Marks.inSpan]
  have hrow : Marks.render ⟨none, none, some (n, 0), n + 1⟩ = List.replicate n ' ' ++ ['^'] := by
    rw [Marks.render, List.range_succ, List.map_append, List.map_singleton, hmark,
      List.map_congr_left hblank, List.map_const', List.length_range]
  simp [renderAll, far, Source.render, AnnotatedLine.render, hrow]

theorem renderAll_deep : renderAll [deep n] =
    "%! /deep\n".toList ++ List.replicate n '\n' ++ "x\n|\n".toList := by
  have hfeeds : (List.replicate n (⟨[], []⟩ : AnnotatedLine)).flatMap AnnotatedLine.render =
      List.replicate n '\n' := by
    rw [List.flatMap_replicate]
    simp [AnnotatedLine.render]
  have hlast : AnnotatedLine.render ⟨['x'], [⟨some 0, none, none, 1⟩]⟩ = "x\n|\n".toList := rfl
  simp [renderAll, deep, Source.render, hfeeds, hlast]

theorem text_deep : (deep n).document.text = List.replicate n '\n' ++ ['x'] := by
  have hlines : (deep n).lines.map (·.text) = List.replicate n [] ++ [['x']] := by simp [deep]
  change joinLines ((deep n).lines.map (·.text)) = _
  rw [hlines]
  clear hlines
  induction n with
  | zero => rfl
  | succ n ih =>
    rw [List.replicate_succ, List.cons_append, joinLines_cons _ (by simp), ih]
    rfl

theorem cursor_deep : (deep n).document.cursor = some ⟨.ofNat n, 0⟩ := by
  have hcursor : (deep n).cursor? = some ⟨n, 0⟩ := by
    rw [Source.cursor?, deep, List.zipIdx_append, List.findSome?_append]
    refine Option.or_eq_some_iff.2 (.inr ⟨List.findSome?_eq_none_iff.2 ?_, ?_⟩)
    · rintro ⟨l, i⟩ hx
      obtain rfl := List.eq_of_mem_replicate (List.fst_mem_of_mem_zipIdx hx)
      rfl
    · simp [AnnotatedLine.cursor?]
  rw [Source.document, hcursor]
  rfl

/-- The first line is empty if the text begins with a feed. -/
theorem not_hasLine_of_feed (t : Text) {l : Text} (hl : l ≠ []) : ¬ HasLine ('\n' :: t) 0 l := by
  have hfeed : IsTerminator ['\n'] t := .inl rfl
  have hlines : lines ('\n' :: t) = ['\n'] :: lines t :=
    lines_append (List.forall_mem_nil _) hfeed
  rintro ⟨line, hline, rfl⟩
  rw [line?, hlines] at hline
  cases hline
  exact hl rfl

/-- Both bounds are needed. The end of a mark in the last column of 32 bits is cut to column 0, in
front of its start; and below 2^32 empty lines a cursor is on the first of them. -/
theorem exists_unaddressed :
    (let t : Text := "%! /far\nx\n".toList ++ List.replicate 4294967295 ' ' ++ ['^', '\n']
      let r : Range := ⟨⟨0, 4294967295⟩, ⟨0, 0⟩⟩
      ∃ s u, parse? t = some [⟨"/far", ['x'], none, [r]⟩] ∧
        openAll [⟨"/far", ['x'], none, [r]⟩] = .ok s ∧ uriOf "/far" = .ok u ∧
        r.stop < r.start ∧ ∀ version w,
          (Store.change u version [.ranged r w]).run s = .error (.edit (.invalidRange r)) s) ∧
    (let t : Text := "%! /deep\n".toList ++ List.replicate 4294967296 '\n' ++ "x\n|\n".toList
      ∃ d, parse? t = some [d] ∧ d.text = List.replicate 4294967296 '\n' ++ ['x'] ∧
        d.cursor = some ⟨0, 0⟩ ∧ ¬ HasLine d.text 0 ['x']) := by
  constructor
  · have hparse := parse?_renderAll (List.forall_mem_singleton.2 (far_valid 4294967295))
    rw [renderAll_far] at hparse
    have hu : uriOf "/far" = .ok ⟨"file:///far", by rfl⟩ := by rfl
    have hopens : List.Forall₂ Opens [⟨"/far", ['x'], none, [⟨⟨0, 4294967295⟩, ⟨0, 0⟩⟩]⟩]
        [(⟨"file:///far", by rfl⟩, ⟨"hare", 0, ['x']⟩)] := .cons ⟨hu, rfl⟩ .nil
    have hinverted : (⟨0, 0⟩ : Position) < ⟨0, 4294967295⟩ := by decide
    have hs := openAll_eq_ok_iff.2 ⟨_, hopens, List.nodup_singleton _, rfl⟩
    refine ⟨_, _, hparse, hs, hu, hinverted, fun version w => ?_⟩
    rw [Store.run_change_ranged (c := ⟨"hare", 0, ['x']⟩) rfl rfl, edit_of_lt hinverted]
  · have hparse := parse?_renderAll (List.forall_mem_singleton.2 (deep_valid 4294967296))
    rw [renderAll_deep] at hparse
    refine ⟨_, hparse, text_deep _, cursor_deep _, ?_⟩
    rw [text_deep, List.replicate_succ]
    exact not_hasLine_of_feed _ (List.cons_ne_nil _ _)

end Limits

end Fixture
end DocSync
