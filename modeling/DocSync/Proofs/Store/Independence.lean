import DocSync.Proofs.Store.Life

/-! # Documents are independent

What a store does with one document depends on no other document, and on nothing that came before
its last opening. Two runs are compared by the stores that they lead to: these agree on a document
if they hold the same under its identifier, and go on to agree as long as both take the operations
that name it.
-/

namespace DocSync.Store

/-- Stores with one policy and the same document under an identifier. -/
structure AgreeOn (u : Uri) (s t : Store) : Prop where
  policy : s.policy = t.policy
  get? : s.get? u = t.get? u

section Agreement
variable {u : Uri} {s t : Store} {op : Operation}

theorem AgreeOn.answer_step (h : AgreeOn u s t) (hu : op.uri = u) :
    (s.step op).2 = (t.step op).2 := by
  rw [Store.answer_step, Store.answer_step, hu, h.policy, h.get?]

theorem AgreeOn.step (h : AgreeOn u s t) (hu : op.uri = u) :
    AgreeOn u (s.step op).1 (t.step op).1 where
  policy := by rw [policy_step, policy_step, h.policy]
  get? := by rw [get?_step, get?_step, if_pos hu, if_pos hu, hu, h.policy, h.get?]

/-- An operation that names another document is not noticed. -/
theorem AgreeOn.step_left (h : AgreeOn u s t) (hu : op.uri ≠ u) : AgreeOn u (s.step op).1 t where
  policy := by rw [policy_step, h.policy]
  get? := by rw [get?_step, if_neg hu, h.get?]

/-- A store that takes all operations keeps to one that takes those that name the document. -/
theorem AgreeOn.run (h : AgreeOn u s t) (ops : List Operation) :
    (s.history ops).filter (·.1.uri = u) = t.history (ops.filter (·.uri = u)) ∧
      AgreeOn u (s.run ops).1 (t.run (ops.filter (·.uri = u))).1 := by
  -- Both stores take the operations that name the document, and the first one takes all others.
  induction ops generalizing s t with
  | nil => exact ⟨rfl, h⟩
  | cons op ops ih =>
    by_cases hu : op.uri = u
    · obtain ⟨hhist, hrun⟩ := ih (h.step hu)
      simp only [List.filter_cons, history_cons, run_cons, hu, decide_true, if_true]
      exact ⟨by rw [hhist, h.answer_step hu], hrun⟩
    · simp only [List.filter_cons, history_cons, run_cons, hu, decide_false, Bool.false_eq_true,
        if_false]
      exact ih (h.step_left hu)

/-- An opening that succeeds makes any two stores with one policy agree. -/
theorem agreeOn_opened {d : Document} (hd : op.opened? = some d) (hs : (s.step op).2 = .done)
    (ht : (t.step op).2 = .done) (hp : s.policy = t.policy) :
    AgreeOn op.uri (s.step op).1 (t.step op).1 where
  policy := by rw [policy_step, policy_step, hp]
  get? := by rw [get?_step_opened hd hs, get?_step_opened hd ht]

end Agreement

section Runs
variable {s : Store}

theorem answer_step_empty {op : Operation} {d : Document} (hd : op.opened? = some d)
    (policy : VersionPolicy) : ((empty policy).step op).2 = .done := by
  cases op with
  | openNew u e => rfl
  | reopen u e => rfl
  | _ => cases hd

theorem answer_step_comm {a b : Operation} (h : a.uri ≠ b.uri) :
    ((s.step a).1.step b).2 = (s.step b).2 := by
  rw [answer_step, answer_step, policy_step, get?_step, if_neg h]

theorem get?_step_comm {a b : Operation} (h : a.uri ≠ b.uri) (u : Uri) :
    ((s.step a).1.step b).1.get? u = ((s.step b).1.step a).1.get? u := by
  simp only [get?_step, policy_step, if_neg h, if_neg h.symm]
  split
  · next hb => rw [if_neg fun ha => h (ha.trans hb.symm)]
  · rfl

/-- **Documents are independent.** In a run of a store that was empty, the answers to the operations
that name a document, and the document at the end, are those of a run of these operations alone.
Once it is opened, they are those of a run that begins with this opening, and it keeps its language
until its next turn. Operations on two documents may change places. -/
theorem run_independent (policy : VersionPolicy) (u : Uri) :
    (∀ ops, ((empty policy).history ops).filter (·.1.uri = u) =
        (empty policy).history (ops.filter (·.uri = u)) ∧
      (reached policy ops).get? u = (reached policy (ops.filter (·.uri = u))).get? u) ∧
    (∀ pre op post, op.uri = u → op.opened?.isSome = true →
      ((reached policy pre).step op).2 = .done →
      ((reached policy pre).history (op :: post)).filter (·.1.uri = u) =
        (empty policy).history (op :: post.filter (·.uri = u)) ∧
      (reached policy (pre ++ op :: post)).get? u =
        (reached policy (op :: post.filter (·.uri = u))).get? u) ∧
    (∀ pre op d mid, op.uri = u → Lives policy pre op d mid →
      ∃ now, (reached policy (pre ++ op :: mid)).get? u = some now ∧
        now.languageId = d.languageId) ∧
    (∀ pre a b, a.uri = u → b.uri ≠ u →
      (((reached policy pre).step a).1.step b).2 = ((reached policy pre).step b).2 ∧
      (((reached policy pre).step b).1.step a).2 = ((reached policy pre).step a).2 ∧
      (((reached policy pre).step a).1.step b).1.entries.Perm
        (((reached policy pre).step b).1.step a).1.entries) := by
  refine ⟨fun ops => ?_, ?_, ?_, fun pre a b ha hb => ?_⟩
  · have hempty : AgreeOn u (empty policy) (empty policy) := ⟨rfl, rfl⟩
    obtain ⟨hhist, hagree⟩ := hempty.run ops
    exact ⟨hhist, hagree.get?⟩
  · rintro pre op post rfl ho hdone
    obtain ⟨d, hd⟩ := Option.isSome_iff_exists.1 ho
    have hfirst := answer_step_empty hd policy
    have hopened := agreeOn_opened hd hdone hfirst (policy_reached policy pre)
    obtain ⟨hhist, hagree⟩ := hopened.run post
    constructor
    · simp only [history_cons, List.filter_cons, decide_true, if_true, hhist, hdone, hfirst]
    · rw [reached_append, run_cons]
      exact hagree.get?
  · rintro pre op d mid rfl h
    obtain ⟨now, hnow, hc⟩ := h.exists_carries
    exact ⟨now, hnow, hc.languageId⟩
  · have hne : a.uri ≠ b.uri := fun h => hb (h.symm.trans ha)
    have hnodup := nodup_reached policy pre
    exact ⟨answer_step_comm hne, answer_step_comm hne.symm,
      perm_of_get? (nodup_step (nodup_step hnodup a) b) (nodup_step (nodup_step hnodup b) a)
        (get?_step_comm hne)⟩

end Runs

end DocSync.Store
