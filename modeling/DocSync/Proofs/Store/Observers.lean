import DocSync.Proofs.Store.Life
import Mathlib.Data.Set.Card

/-! # What can be seen of a store

All that a store shows of a document is whether it is open, and as what. In a run of a store that
was empty, all observers agree on this, and it is the history that decides it: a document is open
if the last of its turns was an opening.
-/

namespace DocSync.Store

section Observers
variable {s : Store} {u : Uri}

theorem isOk_snapshot (s : Store) (u : Uri) : (s.snapshot u).isOk = (s.get? u).isSome := by
  cases h : s.get? u with
  | none =>
    rw [snapshot_of_none h]
    rfl
  | some d =>
    rw [snapshot_of_some h]
    rfl

theorem snapshot_eq_ok_iff {x : Snapshot} :
    s.snapshot u = .ok x ↔ x.uri = u ∧ s.get? u = some ⟨x.languageId, x.version, x.text⟩ := by
  obtain ⟨v, languageId, version, text⟩ := x
  cases h : s.get? u with
  | none => simp [snapshot_of_none h]
  | some d =>
    obtain ⟨languageId', version', text'⟩ := d
    simp [snapshot_of_some h, eq_comm]

theorem answer_openNew (s : Store) (u : Uri) (d : Document) : (s.step (.openNew u d)).2 =
    if (s.get? u).isSome then .refused (.alreadyOpen u) else .done := by
  rw [answer_step, Operation.uri]
  cases s.get? u <;> rfl

theorem answer_close (s : Store) (u : Uri) : (s.step (.close u)).2 =
    if (s.get? u).isSome then .done else .refused (.notOpen u) := by
  rw [answer_step, Operation.uri]
  cases s.get? u <;> rfl

end Observers

section Size
variable {s : Store}

/-- Where no identifier stands twice, the size is the number of documents. -/
theorem encard_isSome (h : s.uris.Nodup) : {u | (s.get? u).isSome = true}.encard = s.size := by
  have hset : {u | (s.get? u).isSome = true} = s.uris.toFinset := by
    ext u
    simp [mem_uris_iff]
  rw [hset, Set.encard_coe_eq_coe_finsetCard, List.toFinset_card_of_nodup h, uris, List.length_map]
  rfl

theorem isEmpty_iff (s : Store) : s.isEmpty = true ↔ s.size = 0 := by
  rw [isEmpty, size, List.isEmpty_iff, List.length_eq_zero_iff]

end Size

/-- **All observers agree.** After a run of a store that was empty, a document is shown by each of
them exactly if the last of its turns was an opening. The documents are counted once each, only one
that is open can be closed, and only one that is not can be opened as new. -/
theorem run_observers_agree (policy : VersionPolicy) (ops : List Operation) :
    let s := reached policy ops
    let opened := fun u => isOpen u ((empty policy).history ops)
    (∀ u, s.contains u = opened u ∧ (s.get? u).isSome = opened u ∧
      (s.snapshot u).isOk = opened u ∧ (u ∈ s.uris ↔ opened u = true) ∧
      (∀ d, (s.step (.openNew u d)).2 =
        if opened u then .refused (.alreadyOpen u) else .done) ∧
      (s.step (.close u)).2 = (if opened u then .done else .refused (.notOpen u)) ∧
      (∀ d, (s.step (.reopen u d)).2 = .done) ∧
      ∀ x, s.snapshot u = .ok x ↔
        x.uri = u ∧ s.get? u = some ⟨x.languageId, x.version, x.text⟩) ∧
    s.uris.Nodup ∧ {u | opened u = true}.encard = s.size ∧ (s.isEmpty = true ↔ s.size = 0) := by
  intro s opened
  have hopened (u : Uri) : opened u = (s.get? u).isSome := (isSome_get?_reached policy ops u).symm
  have hnodup : s.uris.Nodup := nodup_reached policy ops
  refine ⟨fun u => ?_, hnodup, ?_, isEmpty_iff s⟩
  · rw [hopened]
    exact ⟨contains_eq s u, rfl, isOk_snapshot s u, mem_uris_iff s u, answer_openNew s u,
      answer_close s u, fun d => rfl, fun x => snapshot_eq_ok_iff⟩
  · simp only [hopened]
    exact encard_isSome hnodup

end DocSync.Store
