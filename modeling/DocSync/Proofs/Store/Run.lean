import DocSync.Proofs.Store.Step

/-! # Runs of a store

The history of a run is its operations with their answers. A run keeps the policy of the store, and
an identifier that stands once among the entries.
-/

namespace DocSync.Store

section Runs
variable (s : Store)

@[simp] theorem run_nil : s.run [] = (s, []) := rfl

@[simp] theorem run_cons (op : Operation) (ops : List Operation) : s.run (op :: ops) =
    (((s.step op).1.run ops).1, (s.step op).2 :: ((s.step op).1.run ops).2) := rfl

theorem run_append (ops rest : List Operation) : s.run (ops ++ rest) =
    (((s.run ops).1.run rest).1, (s.run ops).2 ++ ((s.run ops).1.run rest).2) := by
  induction ops generalizing s with
  | nil => rfl
  | cons op ops ih => simp only [List.cons_append, run_cons, ih]

theorem length_run (ops : List Operation) : (s.run ops).2.length = ops.length := by
  induction ops generalizing s with
  | nil => rfl
  | cons op ops ih => simp only [run_cons, List.length_cons, ih]

theorem policy_run (ops : List Operation) : (s.run ops).1.policy = s.policy := by
  induction ops generalizing s with
  | nil => rfl
  | cons op ops ih => rw [run_cons, ih, policy_step]

theorem nodup_run {s : Store} (h : s.uris.Nodup) (ops : List Operation) :
    (s.run ops).1.uris.Nodup := by
  induction ops generalizing s with
  | nil => exact h
  | cons op ops ih => exact ih (nodup_step h op)

/-- The store that a run of an empty one leads to. -/
def reached (policy : VersionPolicy) (ops : List Operation) : Store := ((empty policy).run ops).1

theorem reached_append (policy : VersionPolicy) (ops rest : List Operation) :
    reached policy (ops ++ rest) = ((reached policy ops).run rest).1 := by
  rw [reached, run_append]
  rfl

theorem reached_concat (policy : VersionPolicy) (ops : List Operation) (op : Operation) :
    reached policy (ops ++ [op]) = ((reached policy ops).step op).1 :=
  reached_append policy ops [op]

theorem policy_reached (policy : VersionPolicy) (ops : List Operation) :
    (reached policy ops).policy = policy := policy_run _ ops

theorem nodup_reached (policy : VersionPolicy) (ops : List Operation) :
    (reached policy ops).uris.Nodup := by
  have hempty : (empty policy).uris.Nodup := List.nodup_nil
  exact nodup_run hempty ops

/-- The operations of a run with their answers. -/
def history (ops : List Operation) : List (Operation × Answer) := ops.zip (s.run ops).2

@[simp] theorem history_nil : s.history [] = [] := rfl

@[simp] theorem history_cons (op : Operation) (ops : List Operation) :
    s.history (op :: ops) = (op, (s.step op).2) :: (s.step op).1.history ops := rfl

theorem history_append (ops rest : List Operation) :
    s.history (ops ++ rest) = s.history ops ++ (s.run ops).1.history rest := by
  rw [history, run_append, List.zip_append (length_run s ops).symm]
  rfl

end Runs

end DocSync.Store
