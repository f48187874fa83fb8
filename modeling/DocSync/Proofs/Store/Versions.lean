import DocSync.Proofs.Store.Life

/-! # Versions of a document

Under the strict policy a change is accepted at most once: its version has to be greater than all
that the document has had in this life. A batch that is refused leaves the version free. When
versions are overwritten none is ever stale.
-/

namespace DocSync.Store

section Overwrite

theorem act_overwrite_ne (op : Operation) (d? : Option Document) (u : Uri)
    (current received : Int32) :
    (op.act .overwrite d?).2 ≠ .refused (.staleVersion u current received) := by
  cases op with
  | change v version cs =>
    cases d? with
    | none => simp [Operation.act]
    | some d =>
      have hfree : ¬ (VersionPolicy.overwrite = .strict ∧ version ≤ d.version) := by simp
      rw [Operation.act, if_neg hfree]
      cases d.text.changes cs <;> simp
  | _ => cases d? <;> simp [Operation.act]

theorem history_overwrite_ne {s : Store} (hp : s.policy = .overwrite) (ops : List Operation) :
    ∀ x ∈ s.history ops, ∀ u current received,
      x.2 ≠ .refused (.staleVersion u current received) := by
  induction ops generalizing s with
  | nil =>
    intro x hx
    cases hx
  | cons op ops ih =>
    rw [history_cons]
    intro x hx u current received
    rcases List.mem_cons.1 hx with rfl | hx
    · rw [answer_step, hp]
      exact act_overwrite_ne op _ u current received
    · exact ih (by rw [policy_step, hp]) x hx u current received

end Overwrite

section Strict
variable {s : Store} {u : Uri} {d : Document} {version : Int32} {cs : List Change}

theorem step_change_of_stale (hp : s.policy = .strict) (h : s.get? u = some d)
    (hv : version ≤ d.version) :
    s.step (.change u version cs) = (s, .refused (.staleVersion u d.version version)) := by
  rw [step, run_change_of_stale h ⟨hp, hv⟩]
  rfl

theorem step_change_of_error {e : EditError} (h : s.get? u = some d) (hv : d.version < version)
    (he : d.text.changes cs = .error e) :
    s.step (.change u version cs) = (s, .refused (.edit e)) := by
  rw [step, run_change_of_error h (fun hs => Int32.not_le.2 hv hs.2) he]
  rfl

theorem answer_change_of_ok {t : Text} (h : s.get? u = some d) (hv : d.version < version)
    (ht : d.text.changes cs = .ok t) : (s.step (.change u version cs)).2 = .done := by
  rw [step, run_change_of_ok h (fun hs => Int32.not_le.2 hv hs.2) ht]
  rfl

end Strict

/-- **A change is accepted at most once.** In each stretch in which a document lives, the version
shown is that of the last change that was accepted, or the one it was opened with. Under the strict
policy these versions increase, a change with one that is not greater than all of them is refused
as stale, and one whose batch is refused may be sent again with its version; either refusal leaves
the whole store as it was. Nothing is ever stale where versions are overwritten. -/
theorem run_accepted_once :
    (∀ policy pre op d mid, Lives policy pre op d mid →
      let s := reached policy (pre ++ op :: mid)
      let vs := accepted op.uri ((reached policy (pre ++ [op])).history mid)
      ∃ now : Snapshot, s.snapshot op.uri = .ok now ∧ now.version = vs.getLast?.getD d.version ∧
        (policy = .strict →
          (d.version :: vs).Pairwise (· < ·) ∧ (∀ w ∈ d.version :: vs, w ≤ now.version) ∧
          (∀ version cs, (∃ w ∈ d.version :: vs, version ≤ w) →
            s.step (.change op.uri version cs) =
              (s, .refused (.staleVersion op.uri now.version version))) ∧
          ∀ version cs e, now.version < version → now.text.changes cs = .error e →
            s.step (.change op.uri version cs) = (s, .refused (.edit e)) ∧
            ∀ ds t, now.text.changes ds = .ok t →
              ((s.step (.change op.uri version cs)).1.step
                (.change op.uri version ds)).2 = .done)) ∧
    ∀ ops, ∀ x ∈ (empty .overwrite).history ops, ∀ u current received,
      x.2 ≠ .refused (.staleVersion u current received) := by
  refine ⟨fun policy pre op d mid h => ?_, history_overwrite_ne rfl⟩
  obtain ⟨now, hnow, hc⟩ := h.exists_carries
  have hpolicy := policy_reached policy (pre ++ op :: mid)
  refine ⟨_, snapshot_of_some hnow, hc.version, fun hp => ⟨hc.increasing hp, hc.le_version hp,
    fun version cs hw => ?_, fun version cs e hv he => ?_⟩⟩
  · obtain ⟨w, hw, hle⟩ := hw
    exact step_change_of_stale (hpolicy.trans hp) hnow (Int32.le_trans hle (hc.le_version hp w hw))
  · have hsame := step_change_of_error hnow hv he
    refine ⟨hsame, fun ds t ht => ?_⟩
    rw [hsame]
    exact answer_change_of_ok hnow hv ht

def sheet : Uri := ⟨"file:///sheet", by rfl⟩

def sheetOpened : Document := ⟨"hare", 5, ['a']⟩

/-- A change that is accepted, a late one, and one with a range that is not there once the first
change of its batch is made. -/
def sheetChanges : List Operation := [.change sheet 7 [.full ['b']], .change sheet 6 [],
  .change sheet 9 [.full ['c'], .ranged ⟨⟨3, 0⟩, ⟨3, 0⟩⟩ []]]

theorem run_accepted_once_sheet :
    let s := reached .strict (.openNew sheet sheetOpened :: sheetChanges)
    Lives .strict [] (.openNew sheet sheetOpened) sheetOpened sheetChanges ∧
    s.snapshot sheet = .ok ⟨sheet, "hare", 7, ['b']⟩ ∧
    (∀ version cs, version ≤ 7 →
      s.step (.change sheet version cs) = (s, .refused (.staleVersion sheet 7 version))) ∧
    ∀ ds t, Text.changes ['b'] ds = .ok t →
      ((s.step (.change sheet 9 [.full ['c'], .ranged ⟨⟨3, 0⟩, ⟨3, 0⟩⟩ []])).1.step
        (.change sheet 9 ds)).2 = .done := by
  intro s
  have hlives : Lives .strict [] (.openNew sheet sheetOpened) sheetOpened sheetChanges :=
    ⟨rfl, rfl, by decide⟩
  have haccepted : accepted sheet ((reached .strict ([] ++ [.openNew sheet sheetOpened])).history
      sheetChanges) = [7] := by decide
  have hshown : s.snapshot sheet = .ok ⟨sheet, "hare", 7, ['b']⟩ := by decide
  obtain ⟨now, hsnapshot, -, hstrict⟩ := run_accepted_once.1 .strict [] _ _ _ hlives
  obtain ⟨-, -, hstale, hagain⟩ := hstrict rfl
  obtain rfl : now = ⟨sheet, "hare", 7, ['b']⟩ := Except.ok.inj (hsnapshot.symm.trans hshown)
  rw [Operation.uri, haccepted] at hstale
  refine ⟨hlives, hshown, fun version cs hle => ?_, ?_⟩
  · exact hstale version cs ⟨7, by simp, hle⟩
  · exact (hagain 9 _ _ (by decide) rfl).2

end DocSync.Store
