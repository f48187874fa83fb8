import DocSync.Store.Operation
import DocSync.Proofs.Store.Entries

/-! # What an operation does to a store

An operation sees nothing of a store but the document under its own identifier. `Operation.act` says
what becomes of that document and what the answer is, and `step_eq` that this is all there is to a
step: the documents under all other identifiers stay as they are, and a method that is refused has
left the whole store as it was, though it may have worked on it before (`step_eq_of_refused`).
-/

namespace DocSync.Store

/-- What becomes of the document under the identifier of an operation, with the answer. -/
def Operation.act (policy : VersionPolicy) :
    Operation → Option Document → Option Document × Answer
  | .openNew _ d, none => (some d, .done)
  | .openNew u _, some d => (some d, .refused (.alreadyOpen u))
  | .reopen _ d, _ => (some d, .done)
  | .close u, none => (none, .refused (.notOpen u))
  | .close _, some _ => (none, .done)
  | .change u _ _, none => (none, .refused (.notOpen u))
  | .change u version cs, some d =>
    if policy = .strict ∧ version ≤ d.version then
      (some d, .refused (.staleVersion u d.version version))
    else match d.text.changes cs with
      | .error e => (some d, .refused (.edit e))
      | .ok t => (some { d with text := t, version }, .done)
  | .snapshot u, none => (none, .refused (.notOpen u))
  | .snapshot u, some d => (some d, .snapshot ⟨u, d.languageId, d.version, d.text⟩)
  | .get _, d? => (d?, .document d?)
  | .contains _, d? => (d?, .truth d?.isSome)

section Methods
variable {s : Store} {u : Uri} {d : Document}

theorem run_openNew (s : Store) (u : Uri) (d : Document) : (openNew u d).run s =
    if (s.get? u).isSome then .error (.alreadyOpen u) s else .ok () (s.put u d) := by
  rw [← contains_eq, openNew]
  cases h : s.contains u <;> simp [h]

/-- Closing takes the document out first. Where there was none, this changes nothing. -/
theorem run_close (s : Store) (u : Uri) : (close u).run s =
    if (s.get? u).isSome then .ok () (s.erase u) else .error (.notOpen u) s := by
  simp only [close, take, EStateM.run_bind, EStateM.run_modifyGet]
  cases h : s.get? u with
  | none => simp [erase_of_get? h]
  | some d => simp

section OnDocument
variable {x : EStateM StoreError Document Unit}

theorem run_onDocument_of_none (h : s.get? u = none) :
    (onDocument u x).run s = .error (.notOpen u) s := by
  change onDocument u x s = _
  simp only [onDocument, h]

/-- A method that leaves the document as it was leaves the store as it was. -/
theorem run_onDocument_of_error {e : StoreError} (h : s.get? u = some d)
    (hx : x.run d = .error e d) : (onDocument u x).run s = .error e s := by
  change onDocument u x s = _
  simp only [onDocument, h, hx, put_of_get? h]

theorem run_onDocument_of_ok {d' : Document} (h : s.get? u = some d) (hx : x.run d = .ok () d') :
    (onDocument u x).run s = .ok () (s.put u d') := by
  change onDocument u x s = _
  simp only [onDocument, h, hx]

end OnDocument

section Changes
variable {version : Int32} {cs : List Change}

theorem run_change_of_none (h : s.get? u = none) :
    (change u version cs).run s = .error (.notOpen u) s := by
  rw [change, EStateM.run_bind, EStateM.run_get]
  exact run_onDocument_of_none h

theorem run_change_of_stale (h : s.get? u = some d)
    (hv : s.policy = .strict ∧ version ≤ d.version) :
    (change u version cs).run s = .error (.staleVersion u d.version version) s := by
  rw [change, EStateM.run_bind, EStateM.run_get]
  refine run_onDocument_of_error h ?_
  rw [EStateM.run_bind, EStateM.run_get]
  simp only [if_pos hv, EStateM.run_bind, EStateM.run_throw]

/-- A batch that is refused leaves the store as it was, because it leaves the document as it was. -/
theorem run_change_of_error {e : EditError} (h : s.get? u = some d)
    (hv : ¬ (s.policy = .strict ∧ version ≤ d.version)) (he : d.text.changes cs = .error e) :
    (change u version cs).run s = .error (.edit e) s := by
  rw [change, EStateM.run_bind, EStateM.run_get]
  refine run_onDocument_of_error h ?_
  rw [EStateM.run_bind, EStateM.run_get]
  simp only [if_neg hv, EStateM.run_adaptExcept, Document.change_of_error he]

theorem run_change_of_ok {t : Text} (h : s.get? u = some d)
    (hv : ¬ (s.policy = .strict ∧ version ≤ d.version)) (ht : d.text.changes cs = .ok t) :
    (change u version cs).run s = .ok () (s.put u { d with text := t, version }) := by
  rw [change, EStateM.run_bind, EStateM.run_get]
  refine run_onDocument_of_ok h ?_
  rw [EStateM.run_bind, EStateM.run_get]
  simp only [if_neg hv, EStateM.run_adaptExcept, Document.change_of_ok ht]

end Changes

end Methods

section Steps
variable {s : Store}

/-- The store and the answer that `Operation.act` leads to. -/
def acted (s : Store) (op : Operation) : Store × Answer :=
  let (d?, a) := op.act s.policy (s.get? op.uri)
  (s.set op.uri d?, a)

theorem acted_of_same {op : Operation} {d? : Option Document} {a : Answer}
    (h : s.get? op.uri = d?) (ha : op.act s.policy d? = (d?, a)) : s.acted op = (s, a) := by
  rw [acted, h, ha, ← h]
  simp only [set_get?]

theorem step_change (u : Uri) (version : Int32) (cs : List Change) :
    s.step (.change u version cs) = s.acted (.change u version cs) := by
  rw [step]
  cases h : s.get? u with
  | none =>
    rw [run_change_of_none h]
    exact (acted_of_same h rfl).symm
  | some d =>
    by_cases hv : s.policy = .strict ∧ version ≤ d.version
    · rw [run_change_of_stale h hv]
      exact (acted_of_same h (by rw [Operation.act, if_pos hv])).symm
    cases hc : d.text.changes cs with
    | error e =>
      rw [run_change_of_error h hv hc]
      exact (acted_of_same h (by rw [Operation.act, if_neg hv, hc])).symm
    | ok t =>
      rw [run_change_of_ok h hv hc, acted, Operation.uri, h, Operation.act, if_neg hv, hc]
      rfl

theorem step_eq (s : Store) (op : Operation) : s.step op = s.acted op := by
  cases op with
  | openNew u d =>
    rw [step, run_openNew]
    cases h : s.get? u with
    | none =>
      rw [acted, Operation.uri, h]
      rfl
    | some e => exact (acted_of_same h rfl).symm
  | reopen u d => rfl
  | close u =>
    rw [step, run_close]
    cases h : s.get? u with
    | none => exact (acted_of_same h rfl).symm
    | some e =>
      rw [acted, Operation.uri, h]
      rfl
  | change u version cs => exact step_change u version cs
  | snapshot u =>
    rw [step]
    cases h : s.get? u with
    | none =>
      rw [snapshot_of_none h]
      exact (acted_of_same h rfl).symm
    | some d =>
      rw [snapshot_of_some h]
      exact (acted_of_same h rfl).symm
  | get u => exact (acted_of_same rfl rfl).symm
  | contains u =>
    rw [step, contains_eq]
    exact (acted_of_same rfl rfl).symm

/-- An operation that is refused leaves its document as it was. -/
theorem act_of_refused {policy : VersionPolicy} {op : Operation} {d? : Option Document}
    {e : StoreError} (h : (op.act policy d?).2 = .refused e) : (op.act policy d?).1 = d? := by
  cases op with
  | change u version cs =>
    cases d? with
    | none => rfl
    | some d =>
      by_cases hv : policy = .strict ∧ version ≤ d.version
      · rw [Operation.act, if_pos hv]
      rw [Operation.act, if_neg hv] at h ⊢
      cases hc : d.text.changes cs with
      | error c => rfl
      | ok t =>
        rw [hc] at h
        cases h
  | openNew u d =>
    cases d? with
    | none => cases h
    | some c => rfl
  | close u =>
    cases d? with
    | none => rfl
    | some c => cases h
  | reopen u d => cases h
  | snapshot u => cases d? <;> rfl
  | get u => cases h
  | contains u => cases h

/-- An operation that is refused leaves the store as it was. -/
theorem step_eq_of_refused {op : Operation} {e : StoreError}
    (h : (s.step op).2 = .refused e) : s.step op = (s, .refused e) := by
  rw [step_eq, acted] at h ⊢
  simp only at h ⊢
  rw [act_of_refused h, set_get?, h]

theorem policy_step (s : Store) (op : Operation) : (s.step op).1.policy = s.policy := by
  rw [step_eq, acted, policy_set]

theorem answer_step (s : Store) (op : Operation) :
    (s.step op).2 = (op.act s.policy (s.get? op.uri)).2 := by
  rw [step_eq, acted]

theorem get?_step (s : Store) (op : Operation) (v : Uri) : (s.step op).1.get? v =
    if op.uri = v then (op.act s.policy (s.get? op.uri)).1 else s.get? v := by
  rw [step_eq, acted, get?_set]

theorem nodup_step (h : s.uris.Nodup) (op : Operation) : (s.step op).1.uris.Nodup := by
  rw [step_eq, acted]
  exact nodup_set h op.uri _

end Steps

end DocSync.Store
