import DocSync.Fixture.Notation
import Mathlib.Data.List.Basic
import Mathlib.Data.Nat.Find

/-! # Marker lines

What the parser finds on a marker line is what its marks say: the first `|`, the first `!`, and the
run of `^` from the first to the last. Blanks behind the last mark change none of it. No line of
blanks and marks in which these are all the marks is missing from the notation.
-/

namespace DocSync.Fixture

section Columns
variable {f : Nat → Char} {c : Char} {n i : Nat}

theorem idxOf?_map_range (hi : i < n) (hat : f i = c) (hbefore : ∀ j < i, f j ≠ c) :
    ((List.range n).map f).idxOf? c = some i := by
  refine List.findIdx?_eq_some_iff_getElem.mpr ⟨by simpa using hi, by simpa using hat, ?_⟩
  intro j hj
  simpa using hbefore j hj

theorem idxOf?_map_range_eq_none (h : ∀ j < n, f j ≠ c) :
    ((List.range n).map f).idxOf? c = none := by
  simpa [List.idxOf?_eq_none_iff] using h

theorem lastIdx?_map_range (hi : i < n) (hat : f i = c) (hafter : ∀ j < n, i < j → f j ≠ c) :
    lastIdx? c ((List.range n).map f) = some i := by
  have hindex : ((List.range n).map f).reverse.idxOf? c = some (n - 1 - i) := by
    refine List.findIdx?_eq_some_iff_getElem.mpr ⟨by simp; omega, ?_, fun j hj => ?_⟩
    · simp [show n - 1 - (n - 1 - i) = i by omega, hat]
    · simpa using hafter (n - 1 - j) (by omega) (by omega)
  rw [lastIdx?, hindex, Option.map_some, List.length_map, List.length_range,
    show n - 1 - (n - 1 - i) = i by omega]

end Columns

namespace Marks
variable {m : Marks} {n : Nat}

theorem inSpan_some {first more : Nat} :
    inSpan (some (first, more)) n = true ↔ first ≤ n ∧ n ≤ first + more := by
  simp [inSpan]

theorem charAt_mem (m : Marks) (n : Nat) :
    m.charAt n = ' ' ∨ m.charAt n = '^' ∨ m.charAt n = '|' ∨ m.charAt n = '!' := by
  unfold charAt
  split_ifs <;> simp

theorem charAt_eq_space : m.charAt n = ' ' ↔
    m.cursor ≠ some n ∧ m.point ≠ some n ∧ inSpan m.span n = false := by
  unfold charAt
  split_ifs <;> simp_all

theorem charAt_eq_bar : m.charAt n = '|' ↔ m.cursor = some n := by
  unfold charAt
  split_ifs <;> simp_all

theorem Valid.charAt_eq_bang (hm : m.Valid) : m.charAt n = '!' ↔ m.point = some n := by
  have hcursor := hm.2.1 n
  unfold charAt
  split_ifs <;> simp_all

theorem Valid.charAt_eq_caret (hm : m.Valid) : m.charAt n = '^' ↔ inSpan m.span n = true := by
  have hcursor := hm.2.1 n
  have hpoint := hm.2.2.1 n
  unfold charAt
  split_ifs <;> simp_all

theorem Valid.length_pos (hm : m.Valid) : 0 < m.length := by
  obtain ⟨hmark, hcursor, hpoint, hspan⟩ := hm
  simp only [Option.isSome_iff_exists] at hmark
  obtain ⟨c, hc⟩ | ⟨p, hp⟩ | ⟨s, hs⟩ := hmark
  · exact Nat.zero_lt_of_lt (hcursor c hc).1
  · exact Nat.zero_lt_of_lt (hpoint p hp).1
  · exact Nat.zero_lt_of_lt (hspan s hs)

theorem mem_render {c : Char} (h : c ∈ m.render) : c = ' ' ∨ c = '^' ∨ c = '|' ∨ c = '!' := by
  obtain ⟨n, -, rfl⟩ := List.mem_map.mp h
  exact m.charAt_mem n

theorem Valid.isMarkerLine_render (hm : m.Valid) : isMarkerLine m.render = true := by
  have hne : m.render ≠ [] := by
    rw [← List.length_pos_iff, render, List.length_map, List.length_range]
    exact hm.length_pos
  simp only [isMarkerLine, Bool.and_eq_true, decide_eq_true_eq, List.all_eq_true, Bool.or_eq_true]
  refine ⟨hne, fun c hc => ?_⟩
  have := mem_render hc
  tauto

theorem Valid.lineCursor_render (hm : m.Valid) (line : Nat) :
    lineCursor line m.render = (m.cursor.map (Place.mk line)).map Place.position := by
  have hfirst : m.render.idxOf? '|' = m.cursor := by
    cases hcursor : m.cursor with
    | none =>
      exact idxOf?_map_range_eq_none fun j _ h => by simp [charAt_eq_bar, hcursor] at h
    | some c =>
      refine idxOf?_map_range (hm.2.1 c hcursor).1 (charAt_eq_bar.mpr hcursor) fun j hj h => ?_
      rw [charAt_eq_bar, hcursor, Option.some.injEq] at h
      omega
  rw [lineCursor, hfirst, Option.map_map]
  rfl

theorem Valid.lineRanges_render (hm : m.Valid) (line : Nat) :
    lineRanges line m.render = (m.ranges line).map Stretch.range := by
  have hpoint : m.render.idxOf? '!' = m.point := by
    cases hpoint : m.point with
    | none =>
      exact idxOf?_map_range_eq_none fun j _ h => by simp [hm.charAt_eq_bang, hpoint] at h
    | some p =>
      refine idxOf?_map_range (hm.2.2.1 p hpoint).1 (hm.charAt_eq_bang.mpr hpoint) fun j hj h => ?_
      rw [hm.charAt_eq_bang, hpoint, Option.some.injEq] at h
      omega
  rw [lineRanges, ranges, hpoint, List.map_append, ← Option.toList_map, Option.map_map]
  congr 1
  cases hspan : m.span with
  | none =>
    rw [show m.render.idxOf? '^' = none from idxOf?_map_range_eq_none fun j _ h => by
      simp [hm.charAt_eq_caret, hspan, inSpan] at h]
    rfl
  | some s =>
    obtain ⟨first, more⟩ := s
    have hlt := hm.2.2.2 _ hspan
    have hcaret : ∀ j, m.charAt j = '^' ↔ first ≤ j ∧ j ≤ first + more := fun j => by
      rw [hm.charAt_eq_caret, hspan, inSpan_some]
    have hfirst : m.render.idxOf? '^' = some first :=
      idxOf?_map_range (by omega) ((hcaret _).mpr (by omega)) fun j hj h => by
        have := (hcaret j).mp h
        omega
    have hlast : lastIdx? '^' m.render = some (first + more) :=
      lastIdx?_map_range hlt ((hcaret _).mpr (by omega)) fun j _ hj h => by
        have := (hcaret j).mp h
        omega
    rw [hfirst, hlast]
    rfl

/-- The marks on a shorter line. -/
def cut (m : Marks) (n : Nat) : Marks := { m with length := n }

theorem Valid.cut (hm : m.Valid) (hlength : m.length = n + 1) (hblank : m.charAt n = ' ') :
    (m.cut n).Valid := by
  obtain ⟨hmark, hcursor, hpoint, hspan⟩ := hm
  obtain ⟨hc, hp, hs⟩ := charAt_eq_space.mp hblank
  have hlt : ∀ k < m.length, k ≠ n → k < n := fun k _ _ => by omega
  refine ⟨hmark, fun c h => ⟨?_, (hcursor c h).2⟩, fun p h => ⟨?_, (hpoint p h).2⟩, fun s h => ?_⟩
  · exact hlt c (hcursor c h).1 fun heq => hc (heq ▸ h)
  · exact hlt p (hpoint p h).1 fun heq => hp (heq ▸ h)
  · refine hlt _ (hspan s h) fun heq => ?_
    rw [show m.span = some (s.1, s.2) from h, ← heq, ← Bool.not_eq_true, inSpan_some] at hs
    omega

theorem Valid.exists_cut (hm : m.Valid) : ∃ n k, (m.cut n).Valid ∧ EndsVisibly (m.cut n).render ∧
    m.render = (m.cut n).render ++ List.replicate k ' ' := by
  -- on the length: a blank in the last column is cut off, and a mark there ends the line
  induction hlength : m.length generalizing m with
  | zero => exact absurd hlength (Nat.ne_of_gt hm.length_pos)
  | succ n ih =>
    have hrender : m.render = (m.cut n).render ++ [m.charAt n] := by
      rw [render, hlength, List.range_succ, List.map_append]
      rfl
    by_cases hblank : m.charAt n = ' '
    · obtain ⟨n', k, hvalid, hvisible, heq⟩ := ih (hm.cut hlength hblank) rfl
      refine ⟨n', k + 1, hvalid, hvisible, ?_⟩
      rw [hrender, heq, hblank, List.replicate_succ', List.append_assoc]
      rfl
    · refine ⟨m.length, 0, hm, ⟨m.charAt n, ?_, ?_⟩, (List.append_nil _).symm⟩
      · rw [show m.cut m.length = m from rfl, hrender, List.getLast?_concat]
      · obtain h | h | h | h := m.charAt_mem n
        · exact absurd h hblank
        all_goals rw [h]; decide

section Completeness
variable {l : Text} {c : Char}

theorem exists_column (hone : ∀ i j : Nat, l[i]? = some c → l[j]? = some c → i = j) :
    ∃ o : Option Nat, ∀ n, o = some n ↔ l[n]? = some c := by
  by_cases h : ∃ n : Nat, l[n]? = some c
  · obtain ⟨n, hn⟩ := h
    refine ⟨some n, fun j => ⟨?_, fun hj => congrArg some (hone n j hn hj)⟩⟩
    rintro ⟨⟩
    exact hn
  · exact ⟨none, fun n => ⟨nofun, fun hn => absurd ⟨n, hn⟩ h⟩⟩

theorem exists_span (hrun : ∀ i j k : Nat, i ≤ j → j ≤ k → l[i]? = some c → l[k]? = some c →
    l[j]? = some c) : ∃ s, ∀ n, inSpan s n = true ↔ l[n]? = some c := by
  by_cases h : ∃ n : Nat, l[n]? = some c
  · have hle : ∀ n : Nat, l[n]? = some c → n ≤ l.length := fun n hn =>
      Nat.le_of_lt (List.getElem?_eq_some_iff.mp hn).1
    obtain ⟨first, hfirst, hmin⟩ : ∃ i : Nat, l[i]? = some c ∧ ∀ n, l[n]? = some c → i ≤ n :=
      ⟨Nat.find h, Nat.find_spec h, fun n hn => Nat.find_min' h hn⟩
    obtain ⟨last, hlast, hmax⟩ : ∃ k : Nat, l[k]? = some c ∧ ∀ n, l[n]? = some c → n ≤ k :=
      ⟨_, Nat.findGreatest_spec (P := fun k => l[k]? = some c) (hle first hfirst) hfirst,
        fun n hn => Nat.le_findGreatest (hle n hn) hn⟩
    refine ⟨some (first, last - first), fun n => ?_⟩
    rw [inSpan_some, Nat.add_sub_cancel' (hmin last hlast)]
    exact ⟨fun hn => hrun first n last hn.1 hn.2 hfirst hlast, fun hn => ⟨hmin n hn, hmax n hn⟩⟩
  · exact ⟨none, fun n => ⟨nofun, fun hn => absurd ⟨n, hn⟩ h⟩⟩

/-- The notation has every line of blanks and marks in which there is a mark, no second `|` or `!`,
and nothing else between two `^`. -/
theorem exists_render_eq (hchars : ∀ c ∈ l, c = ' ' ∨ c = '^' ∨ c = '|' ∨ c = '!')
    (hmark : ∃ c ∈ l, c ≠ ' ') (hbar : ∀ i j : Nat, l[i]? = some '|' → l[j]? = some '|' → i = j)
    (hbang : ∀ i j : Nat, l[i]? = some '!' → l[j]? = some '!' → i = j)
    (hrun : ∀ i j k : Nat, i ≤ j → j ≤ k → l[i]? = some '^' → l[k]? = some '^' →
      l[j]? = some '^') :
    ∃ m : Marks, m.Valid ∧ m.render = l := by
  obtain ⟨cursor, hcursor⟩ := exists_column hbar
  obtain ⟨point, hpoint⟩ := exists_column hbang
  obtain ⟨span, hspan⟩ := exists_span hrun
  have hlt : ∀ {n : Nat} {c}, l[n]? = some c → n < l.length := fun h =>
    (List.getElem?_eq_some_iff.mp h).1
  have hoff : ∀ {n : Nat} {c}, l[n]? = some c → c ≠ '^' → inSpan span n = false := fun h hc =>
    Bool.eq_false_iff.mpr fun hs => hc (Option.some.inj (h.symm.trans ((hspan _).mp hs)))
  have hvalid : Valid ⟨cursor, point, span, l.length⟩ := by
    refine ⟨?_, fun c hc => ?_, fun p hp => ?_, fun s hs => ?_⟩
    · obtain ⟨c, hc, hne⟩ := hmark
      obtain ⟨n, hn⟩ := List.mem_iff_getElem?.mp hc
      obtain rfl | rfl | rfl | rfl := hchars c hc
      · exact absurd rfl hne
      · refine .inr (.inr ?_)
        cases span with
        | none => exact nomatch (hspan n).mpr hn
        | some s => rfl
      · exact .inl (by rw [(hcursor n).mpr hn]; rfl)
      · exact .inr (.inl (by rw [(hpoint n).mpr hn]; rfl))
    · have hat := (hcursor c).mp hc
      refine ⟨hlt hat, fun hp => ?_, hoff hat (by decide)⟩
      exact absurd (hat.symm.trans ((hpoint c).mp hp)) (by decide)
    · have hat := (hpoint p).mp hp
      exact ⟨hlt hat, hoff hat (by decide)⟩
    · obtain rfl : span = some (s.1, s.2) := hs
      exact hlt ((hspan (s.1 + s.2)).mp (inSpan_some.mpr ⟨Nat.le_add_right _ _, le_rfl⟩))
  refine ⟨_, hvalid, List.ext_getElem (by simp [render]) fun n _ hn => ?_⟩
  have hat : l[n]? = some l[n] := List.getElem?_eq_getElem hn
  simp only [render, List.getElem_map, List.getElem_range]
  obtain h | h | h | h := hchars l[n] (List.getElem_mem hn) <;> rw [h] at hat ⊢
  · exact charAt_eq_space.mpr ⟨fun hc => absurd (hat.symm.trans ((hcursor n).mp hc)) (by decide),
      fun hp => absurd (hat.symm.trans ((hpoint n).mp hp)) (by decide), hoff hat (by decide)⟩
  · exact hvalid.charAt_eq_caret.mpr ((hspan n).mpr hat)
  · exact charAt_eq_bar.mpr ((hcursor n).mpr hat)
  · exact hvalid.charAt_eq_bang.mpr ((hpoint n).mpr hat)

end Completeness
end Marks

section Steps
variable {a : Annotated} {l : AnnotatedLine} {m : Marks}

theorem AnnotatedLine.Valid.isMarkerLine_text (hl : l.Valid) : isMarkerLine l.text = false := by
  rw [isMarkerLine, Bool.and_eq_false_iff, decide_eq_false_iff_not, not_not]
  by_cases hnil : l.text = []
  · exact .inl hnil
  · obtain ⟨c, hc, hspace, hcaret, hbar, hbang⟩ := hl.not_markers hnil
    refine .inr (List.all_eq_false.mpr ⟨c, hc, ?_⟩)
    simp [hspace, hcaret, hbar, hbang]

theorem Annotated.add?_text (hl : l.Valid) :
    a.add? l.text = some { a with lines := a.lines ++ [l.text] } := by
  rw [add?, hl.isMarkerLine_text]
  rfl

theorem Annotated.add?_render (hm : m.Valid) : a.add? m.render =
    (Text.sub? a.lines.length 1).map fun line => { a with
      cursor := a.cursor.or ((m.cursor.map (Place.mk line)).map Place.position)
      ranges := a.ranges ++ (m.ranges line).map Stretch.range } := by
  simp only [add?, hm.isMarkerLine_render, hm.lineCursor_render, hm.lineRanges_render, if_true]

end Steps
end DocSync.Fixture
