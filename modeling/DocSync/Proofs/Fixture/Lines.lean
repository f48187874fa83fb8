import DocSync.Fixture.Notation
import Mathlib.Data.List.Chain
import Mathlib.Data.List.Infix

/-! # Documents and lines of a fixture text

A fixture text is cut three times: at header marks into documents, at the ends of a document where
blanks are, and at line feeds into lines. Each cut takes apart what was put together, as long as the
parts hold none of what it looks for.
-/

namespace DocSync

theorem Fixture.EndsVisibly.append {t : Text} (ht : EndsVisibly t) (s : Text) :
    EndsVisibly (s ++ t) := by
  obtain ⟨c, hlast, hc⟩ := ht
  exact ⟨c, by rw [List.getLast?_append, hlast, Option.some_or], hc⟩

theorem Fixture.EndsVisibly.ne_nil {t : Text} (ht : EndsVisibly t) : t ≠ [] := by
  obtain ⟨c, hlast, -⟩ := ht
  rintro rfl
  cases hlast

namespace Text

/-- Blanks behind a text are what trimming takes, if the text itself neither begins nor ends with
one. -/
theorem trim_append {c : Char} {t w : Text} (hc : isBlank c = false)
    (ht : Fixture.EndsVisibly (c :: t)) (hw : ∀ b ∈ w, isBlank b = true) :
    trim (c :: t ++ w) = c :: t := by
  obtain ⟨d, hlast, hd⟩ := ht
  obtain ⟨s, hs⟩ := List.getLast?_eq_some_iff.mp hlast
  have hstart : trimStart (c :: t ++ w) = c :: t ++ w :=
    List.dropWhile_cons_of_neg (by simp [hc])
  have hend : trimStart (c :: t ++ w).reverse = (c :: t).reverse := by
    rw [List.reverse_append, trimStart, List.dropWhile_append_of_pos (by simpa using hw), hs,
      List.reverse_append, List.reverse_singleton, List.singleton_append,
      List.dropWhile_cons_of_neg (by simp [hd])]
  rw [trim, hstart, hend, List.reverse_reverse]

end Text

namespace Fixture

section Documents

theorem unmarked_iff_isChain {t : Text} :
    Unmarked t ↔ t.IsChain fun a b => ¬(a = '%' ∧ b = '!') := by
  rw [List.isChain_iff_forall_rel_of_append_cons_cons]
  constructor
  · rintro h a b s u rfl ⟨rfl, rfl⟩
    exact h ⟨s, u, by simp⟩
  · rintro h ⟨s, u, htext⟩
    exact h (by simpa using htext.symm) ⟨rfl, rfl⟩

theorem unmarked_of_not_mem {t : Text} (h : '%' ∉ t) : Unmarked t :=
  fun hmark => h (hmark.subset (by simp))

/-- A mark does not stand across a character that is in no mark. -/
theorem Unmarked.append_cons {s t : Text} {c : Char} (hs : Unmarked s) (ht : Unmarked t)
    (hpercent : c ≠ '%') (hbang : c ≠ '!') : Unmarked (s ++ c :: t) := by
  rw [unmarked_iff_isChain] at *
  rw [List.isChain_append, List.isChain_cons]
  refine ⟨hs, ⟨fun _ _ h => hpercent h.1, ht⟩, fun a _ b hb h => hbang ?_⟩
  rw [List.head?_cons, Option.mem_some_iff] at hb
  exact hb.trans h.2

theorem splitMarks_cons {c : Char} {t : Text} (h : ¬['%', '!'] <+: c :: t) :
    splitMarks (c :: t) = (splitMarks t).modifyHead (c :: ·) := by
  rw [splitMarks]
  rintro u rfl rfl
  exact h ⟨u, rfl⟩

theorem splitMarks_append {s t : Text} (hs : Unmarked s) (ht : t.head? ≠ some '!') :
    splitMarks (s ++ t) = (splitMarks t).modifyHead (s ++ ·) := by
  induction s with
  | nil => exact (congrFun List.modifyHead_id (splitMarks t)).symm
  | cons c s ih =>
    -- a mark here is one of `s`, or its second character is the first one of `t`
    have hhead : ¬['%', '!'] <+: c :: (s ++ t) := by
      rw [List.cons_prefix_cons]
      rintro ⟨rfl, hbang⟩
      cases s with
      | nil =>
        obtain ⟨u, rfl⟩ := hbang
        exact ht rfl
      | cons d s =>
        obtain ⟨rfl, -⟩ := List.cons_prefix_cons.mp hbang
        exact hs ⟨[], s, rfl⟩
    rw [List.cons_append, splitMarks_cons hhead, ih fun h => hs (List.infix_cons h),
      List.modifyHead_modifyHead]
    rfl

end Documents

section Lines

/-- Lines, each ended by a line feed. -/
def endLines (ls : List Text) : Text := ls.flatMap (· ++ ['\n'])

theorem endLines_cons (l : Text) (ls : List Text) :
    endLines (l :: ls) = l ++ '\n' :: endLines ls := by
  rw [endLines, List.flatMap_cons, List.append_assoc]
  rfl

theorem endLines_concat (ls : List Text) (l : Text) :
    endLines (ls ++ [l]) = endLines ls ++ l ++ ['\n'] := by
  simp [endLines]

theorem splitFeeds_of_not_mem {l : Text} (h : '\n' ∉ l) : splitFeeds l = [l] := by
  induction l with
  | nil => rfl
  | cons c l ih =>
    rw [List.mem_cons, not_or] at h
    rw [splitFeeds, if_neg (Ne.symm h.1), ih h.2, List.modifyHead_cons]

theorem splitFeeds_append {l : Text} (h : '\n' ∉ l) (t : Text) :
    splitFeeds (l ++ '\n' :: t) = l :: splitFeeds t := by
  induction l with
  | nil => rfl
  | cons c l ih =>
    rw [List.mem_cons, not_or] at h
    rw [List.cons_append, splitFeeds, if_neg (Ne.symm h.1), ih h.2, List.modifyHead_cons]

theorem splitFeeds_endLines {ls : List Text} {last : Text} (hls : ∀ l ∈ ls, '\n' ∉ l)
    (hlast : '\n' ∉ last) : splitFeeds (endLines ls ++ last) = ls ++ [last] := by
  induction ls with
  | nil => exact splitFeeds_of_not_mem hlast
  | cons l ls ih =>
    rw [List.forall_mem_cons] at hls
    rw [endLines_cons, List.append_assoc, List.cons_append, splitFeeds_append hls.1, ih hls.2]
    rfl

theorem dropReturn_of_ne {l : Text} (h : l.getLast? ≠ some '\r') : dropReturn l = l := if_neg h

/-- A last line without a line feed counts if it holds something. No other line may end in a
carriage return. -/
theorem sourceLines_endLines {ls : List Text} {last : Text} (hls : ∀ l ∈ ls, '\n' ∉ l)
    (hreturn : ∀ l ∈ ls, l.getLast? ≠ some '\r') (hlast : '\n' ∉ last) (hne : last ≠ []) :
    sourceLines (endLines ls ++ last) = ls ++ [last] := by
  have hmap : ls.map dropReturn = ls := by
    rw [List.map_congr_left fun l hl => dropReturn_of_ne (hreturn l hl), List.map_id']
  obtain ⟨c, l, rfl⟩ := List.exists_cons_of_ne_nil hne
  rw [sourceLines, splitFeeds_endLines hls hlast, List.dropLast_concat, List.getLast?_concat, hmap]

theorem unmarked_endLines {ls : List Text} (h : ∀ l ∈ ls, Unmarked l) : Unmarked (endLines ls) := by
  induction ls with
  | nil => exact unmarked_of_not_mem List.not_mem_nil
  | cons l ls ih =>
    rw [List.forall_mem_cons] at h
    rw [endLines_cons]
    exact h.1.append_cons (ih h.2) (by decide) (by decide)

end Lines
end Fixture
end DocSync
