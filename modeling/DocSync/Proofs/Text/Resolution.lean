import DocSync.Proofs.Text.Addressing
import DocSync.Proofs.Text.Tiling
import DocSync.Text.Encoding

/-! # Exact answers for positions

A position is resolved by offsets from the start of the text, rounded down to a character.
`resolveIn_exact` gives every answer by the lines of the text alone: which error it is, and which
part of the text stands in front of an accepted position.
-/

namespace DocSync.Text

section Answers
variable {t l : Text} {p : Position}

theorem resolveIn_eq_error {e : PositionError} :
    resolveIn t p = .error (.invalidPosition p e) ↔ resolve t p = .error e := by
  unfold resolveIn
  split <;> simp_all

theorem ends_eq (s : Text) : ends s = ⟨s.length, (bytes s).length, (units s).length⟩ := by
  rw [ends, length_bytes, length_units]

/-- Of two beginnings of a text that are equally long in code units, each is the other. -/
theorem eq_of_prefix_of_unitLength {a b c : Text} (hb : b <+: a) (hc : c <+: a)
    (h : unitLength c = unitLength b) : c = b := by
  have hcb : c <+: b := prefix_of_weight_le unitSize_pos hc hb h.le
  have hbc : b <+: c := prefix_of_weight_le unitSize_pos hb hc h.ge
  exact hcb.eq_of_length_le hbc.length_le

theorem resolve_eq_lineOutOfBounds :
    resolve t p = .error (.lineOutOfBounds (lineCount t)) ↔ lineCount t ≤ p.line.toNat := by
  constructor
  · intro h
    by_contra hlt
    obtain ⟨l, hl⟩ := exists_line (not_le.1 hlt)
    rw [resolve_of_line hl] at h
    split at h
    · cases h
    · split at h <;> cases h
  · exact resolve_of_lineCount_le

theorem resolve_eq_characterOutOfBounds (hl : (lines t)[p.line.toNat]? = some l) :
    resolve t p = .error (.characterOutOfBounds (unitLength (content l))) ↔
      unitLength (content l) < p.character.toNat := by
  rw [resolve_of_line hl]
  constructor
  · intro h
    by_contra hle
    rw [if_neg hle] at h
    split at h <;> cases h
  · intro h
    rw [if_pos h]

theorem resolve_eq_insideSurrogatePair (hl : (lines t)[p.line.toNat]? = some l)
    (hn : p.character.toNat ≤ unitLength (content l)) :
    resolve t p = .error .insideSurrogatePair ↔
      ¬ ∃ b, b <+: content l ∧ unitLength b = p.character.toNat := by
  constructor
  · rintro h ⟨b, hb, hbn⟩
    have hok := resolve_eq_ok.2 ⟨l, b, hl, hb, hbn, rfl⟩
    rw [h] at hok
    cases hok
  · intro h
    rw [resolve_of_line hl, if_neg (not_lt.2 hn), if_pos]
    intro ha
    exact h ⟨_, List.take_prefix _ _, ha⟩

end Answers

/-- **Positions are resolved exactly.** A text has one list of lines. A position behind them is out
of bounds, and so is one behind the content of its line. Of the others, those that no beginning of
the content reaches split a surrogate pair, and all else are the place behind the only beginning
that does. -/
theorem resolveIn_exact (t : Text) (p : Position) :
    ∃ ls, (∀ ms, Tiled t ms ↔ ms = ls) ∧
      (resolveIn t p = .error (.invalidPosition p (.lineOutOfBounds ls.length)) ↔
        ls.length ≤ p.line.toNat) ∧
      ∀ a w, ls[p.line.toNat]? = some (a, w) →
        (resolveIn t p =
            .error (.invalidPosition p (.characterOutOfBounds (units a).length)) ↔
          (units a).length < p.character.toNat) ∧
        (p.character.toNat ≤ (units a).length →
          (resolveIn t p = .error (.invalidPosition p .insideSurrogatePair) ↔
            ¬ ∃ b, b <+: a ∧ (units b).length = p.character.toNat) ∧
          ∀ b, b <+: a → (units b).length = p.character.toNat →
            (∀ c, c <+: a → (units c).length = p.character.toNat → c = b) ∧
            let front := (ls.take p.line.toNat).flatMap (fun l => l.1 ++ l.2) ++ b
            resolveIn t p =
              .ok ⟨front.length, (bytes front).length, (units front).length⟩) := by
  refine ⟨table t, fun ms => tiled_iff, ?_, ?_⟩
  · rw [resolveIn_eq_error, length_table]
    exact resolve_eq_lineOutOfBounds
  · intro a w hline
    rw [getElem?_table] at hline
    obtain ⟨l, hl, haw⟩ := Option.map_eq_some_iff.1 hline
    obtain ⟨rfl, -⟩ := Prod.mk.inj haw
    simp only [length_units, resolveIn_eq_error]
    refine ⟨resolve_eq_characterOutOfBounds hl, ?_⟩
    intro hn
    refine ⟨resolve_eq_insideSurrogatePair hl hn, ?_⟩
    intro b hb hbn
    constructor
    · intro c hc hcn
      exact eq_of_prefix_of_unitLength hb hc (hcn.trans hbn.symm)
    · rw [flatMap_take_table, ← length_units, ← ends_eq]
      exact resolveIn_eq_ok.2 (resolve_eq_ok.2 ⟨l, b, hl, hb, hbn, rfl⟩)

end DocSync.Text
