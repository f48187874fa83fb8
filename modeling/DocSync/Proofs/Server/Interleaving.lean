import DocSync.Server.Schedule
import DocSync.Proofs.Server.Step
import DocSync.Proofs.Store.Run
import Mathlib.Data.List.Perm.Basic

/-! # What a turn does

A turn receives a message, finishes a job or sends the response of one. The documents and the latch
change as in `Server.step`. A request makes one response due, which is fixed when the request is
received, and all that a turn does with responses is to send them or to pass them on
(`Consistent.perm_next`).
-/

namespace DocSync.Server

section Turns

/-- The request that a turn receives. -/
def Turn.request? : Turn → Option Request
  | .receive (.request r) => some r
  | _ => none

/-- What a turn asks of the store. -/
def Turn.operation? (c : Config) : Turn → Option Store.Operation
  | .receive (.notification n) => Server.operation? c n
  | _ => none

/-- What becomes of the server in a turn, and what is sent in it. -/
def next (s : Server) : Turn → Step
  | .receive (.request r) => s.ask r
  | .receive (.response _) => (s, [])
  | .receive (.notification n) => s.notify n
  | .finishJob i => (s.finishJob i, [])
  | .deliver => s.deliver

/-- No turn fails. -/
theorem turn_eq (t : Turn) : turn t = perform (·.next t) := by
  cases t with
  | receive m =>
    cases m with
    | request r => exact onRequest_eq r
    | response x => exact pure_eq_perform
    | notification n => exact onNotification_eq n
  | finishJob i => rfl
  | deliver => rfl

theorem run_runTurns_cons (s : Server) (sent : List Message) (t : Turn) (ts : List Turn) :
    (runTurns (t :: ts)).run (s, sent) =
      (runTurns ts).run ((s.next t).1, sent ++ (s.next t).2) := by
  rw [runTurns, List.forM, EStateM.run_bind, turn_eq, run_perform]
  rfl

theorem run_runTurns_concat {x : Step} {s : Server} {ts : List Turn} {sent : List Message}
    (h : (runTurns ts).run x = .ok () (s, sent)) (t : Turn) :
    (runTurns (ts ++ [t])).run x = .ok () ((s.next t).1, sent ++ (s.next t).2) := by
  induction ts generalizing x with
  | nil =>
    cases h
    exact run_runTurns_cons s sent t []
  | cons u ts ih =>
    rw [run_runTurns_cons] at h
    rw [List.cons_append, run_runTurns_cons]
    exact ih h

end Turns

section Notifications
variable (s : Server) (n : Notification)

/-- A notification changes nothing but the documents. -/
theorem notify_fst : (s.notify n).1 =
    { s with documents := (s.documents.run (operation? s.config n).toList).1 } := by
  unfold notify
  cases operation? s.config n <;> rfl

end Notifications

section Responses

/-- The responses among some messages. -/
def responses (sent : List Message) : List Response :=
  sent.filterMap fun
    | .response x => some x
    | _ => none

/-- The responses that the server has still to send. -/
def outstanding (s : Server) : List Response := s.jobs.map Job.run ++ s.finished

theorem responses_append (sent more : List Message) :
    responses (sent ++ more) = responses sent ++ responses more := List.filterMap_append

theorem map_id_outstanding (s : Server) : s.outstanding.map (·.id) = s.pending := by
  simp [outstanding, pending]

theorem responses_notify (s : Server) (n : Notification) : responses (s.notify n).2 = [] := by
  unfold notify
  cases operation? s.config n with
  | none => rfl
  | some op =>
    simp only [carryOut]
    cases (s.documents.step op).2 <;> rfl

/-- Each request in flight has one response that is still to be sent. -/
structure Consistent (s : Server) : Prop where
  nodup : s.inFlight.Nodup
  perm : s.inFlight.Perm s.pending

/-- A turn receives no request whose id is in flight. -/
def Accepts (s : Server) (t : Turn) : Prop := ∀ r, t.request? = some r → r.id ∉ s.inFlight

theorem consistent_start (c : Config) : (start c).Consistent := ⟨List.nodup_nil, .nil⟩

theorem Consistent.mem_inFlight {s : Server} (h : s.Consistent) {x : Response}
    {xs : List Response} (hx : s.finished = x :: xs) : x.id ∈ s.inFlight := by
  rw [h.perm.mem_iff, pending, hx]
  simp

/-- A response that is next to be sent is sent, since its request is in flight. -/
theorem Consistent.deliver_eq {s : Server} (h : s.Consistent) {x : Response} {xs : List Response}
    (hx : s.finished = x :: xs) : s.deliver =
      ({ s with finished := xs, inFlight := s.inFlight.filter (· ≠ x.id) }, [.response x]) := by
  rw [deliver, hx]
  exact if_pos (h.mem_inFlight hx)

theorem perm_outstanding_finishJob (s : Server) (i : Nat) :
    (s.finishJob i).outstanding.Perm s.outstanding := by
  unfold finishJob outstanding
  cases hj : s.jobs[i]? with
  | none => exact .refl _
  | some j =>
    obtain ⟨hi, rfl⟩ := List.getElem?_eq_some_iff.1 hj
    have hperm := (List.getElem_cons_eraseIdx_perm hi).map Job.run
    calc (s.jobs.eraseIdx i).map Job.run ++ (s.finished ++ [s.jobs[i].run])
        = ((s.jobs.eraseIdx i).map Job.run ++ s.finished) ++ [s.jobs[i].run] := by
          rw [List.append_assoc]
      _ |>.Perm ([s.jobs[i].run] ++ ((s.jobs.eraseIdx i).map Job.run ++ s.finished)) :=
          List.perm_append_comm
      _ |>.Perm (s.jobs.map Job.run ++ s.finished) := hperm.append_right _

theorem outstanding_register (s : Server) (j : Job) :
    ({ s.register j.id with jobs := s.jobs ++ [j] }.outstanding).Perm
      (s.outstanding ++ [j.run]) := by
  have hperm : (s.finished ++ [j.run]).Perm ([j.run] ++ s.finished) := List.perm_append_comm
  simpa [outstanding, register, List.append_assoc] using
    (hperm.append_left (s.jobs.map Job.run)).symm

/-- What a turn sends and what is to be sent after it is what was to be sent before it, and the
answer to the request that it receives. -/
theorem Consistent.perm_next {s : Server} (h : s.Consistent) {t : Turn} (ht : s.Accepts t) :
    (responses (s.next t).2 ++ (s.next t).1.outstanding).Perm
      (s.outstanding ++ (t.request?.map s.reply).toList) := by
  cases t with
  | receive m =>
    cases m with
    | request r =>
      rcases ask_cases (ht r rfl) with hnow | ⟨j, hid, hrun, -, hlater⟩
      · rw [next, hnow]
        exact List.perm_append_comm
      · rw [next, hlater, ← hid, Turn.request?, Option.map_some, ← hrun]
        exact outstanding_register s j
    | response x => simp [next, Turn.request?, responses]
    | notification n =>
      rw [next, responses_notify, notify_fst]
      simp [Turn.request?, outstanding]
  | finishJob i => simpa [next, Turn.request?, responses] using perm_outstanding_finishJob s i
  | deliver =>
    cases hx : s.finished with
    | nil => simp [next, Turn.request?, deliver, hx, responses]
    | cons x xs =>
      rw [next, h.deliver_eq hx]
      simpa [Turn.request?, outstanding, hx, responses] using List.perm_middle.symm

/-- A request comes into flight with its turn, and is in flight until its response is sent. -/
theorem Consistent.perm_inFlight {s : Server} (h : s.Consistent) {t : Turn} (ht : s.Accepts t) :
    ((responses (s.next t).2).map (·.id) ++ (s.next t).1.inFlight).Perm
      (s.inFlight ++ (t.request?.map (·.id)).toList) := by
  cases t with
  | receive m =>
    cases m with
    | request r =>
      have hnew := ht r rfl
      have hcomm : ([r.id] ++ s.inFlight).Perm (s.inFlight ++ [r.id]) := List.perm_append_comm
      rcases ask_cases hnew with hnow | ⟨j, -, -, -, hlater⟩
      · rw [next, hnow]
        simpa [responses, reply_id, Turn.request?] using hcomm
      · rw [next, hlater, register, filter_inFlight hnew]
        exact hcomm
    | response x => simp [next, Turn.request?, responses]
    | notification n =>
      rw [next, responses_notify, notify_fst]
      simp [Turn.request?]
  | finishJob i =>
    simp only [next, finishJob]
    cases s.jobs[i]? <;> simp [Turn.request?, responses]
  | deliver =>
    cases hx : s.finished with
    | nil => simp [next, Turn.request?, deliver, hx, responses]
    | cons x xs =>
      have herase : s.inFlight.filter (· ≠ x.id) = s.inFlight.erase x.id := by
        rw [h.nodup.erase_eq_filter]
        simp [bne, BEq.beq]
      rw [next, h.deliver_eq hx, herase]
      simpa [responses, Turn.request?] using (List.perm_cons_erase (h.mem_inFlight hx)).symm

theorem map_id_due (s : Server) (t : Turn) :
    (s.outstanding ++ (t.request?.map s.reply).toList).map (·.id) =
      s.pending ++ (t.request?.map (·.id)).toList := by
  rw [List.map_append, map_id_outstanding]
  cases t.request? <;> simp [reply_id]

theorem Consistent.nodup_due {s : Server} (h : s.Consistent) {t : Turn} (ht : s.Accepts t) :
    ((s.outstanding ++ (t.request?.map s.reply).toList).map (·.id)).Nodup := by
  have hpending : s.pending.Nodup := h.perm.nodup_iff.1 h.nodup
  rw [map_id_due]
  cases hr : t.request? with
  | none => simpa using hpending
  | some r =>
    have hnew := ht r hr
    rw [h.perm.mem_iff] at hnew
    simpa [List.nodup_append, hpending] using fun i hi => ne_of_mem_of_not_mem hi hnew

theorem Consistent.next {s : Server} (h : s.Consistent) {t : Turn} (ht : s.Accepts t) :
    (s.next t).1.Consistent := by
  have hdue := (h.perm_next ht).map (·.id)
  have hnodup := hdue.nodup_iff.2 (h.nodup_due ht)
  rw [List.map_append, map_id_outstanding] at hdue hnodup
  have hids : ((responses (s.next t).2).map (·.id) ++ (s.next t).1.inFlight).Perm
      ((responses (s.next t).2).map (·.id) ++ (s.next t).1.pending) := by
    calc ((responses (s.next t).2).map (·.id) ++ (s.next t).1.inFlight)
      _ |>.Perm (s.inFlight ++ (t.request?.map (·.id)).toList) := h.perm_inFlight ht
      _ |>.Perm (s.pending ++ (t.request?.map (·.id)).toList) := h.perm.append_right _
      _ = (s.outstanding ++ (t.request?.map s.reply).toList).map (·.id) := (map_id_due s t).symm
      _ |>.Perm ((responses (s.next t).2).map (·.id) ++ (s.next t).1.pending) := hdue.symm
  have hperm := (List.perm_append_left_iff _).1 hids
  exact ⟨hperm.nodup_iff.2 (List.nodup_append.1 hnodup).2.1, hperm⟩

end Responses

section State
variable {s : Server} {t : Turn}

/-- Beside the responses, a turn changes what its message changes. -/
theorem state_next (ht : s.Accepts t) :
    (s.next t).1.config = s.config ∧
      (s.next t).1.documents = (s.documents.run (t.operation? s.config).toList).1 ∧
      (s.next t).1.isShutDown = (s.isShutDown || t.request?.any shutsDown) := by
  cases t with
  | receive m =>
    cases m with
    | request r =>
      rcases ask_cases (ht r rfl) with hnow | ⟨j, -, -, hlatch, hlater⟩
      · rw [next, hnow]
        exact ⟨rfl, rfl, rfl⟩
      · rw [next, hlater]
        exact ⟨rfl, rfl, by simp [Turn.request?, hlatch, register]⟩
    | response x => exact ⟨rfl, rfl, by simp [next, Turn.request?]⟩
    | notification n =>
      rw [next, notify_fst]
      exact ⟨rfl, rfl, by simp [Turn.request?]⟩
  | finishJob i =>
    rw [next, finishJob]
    cases s.jobs[i]? <;> exact ⟨rfl, rfl, by simp [Turn.request?]⟩
  | deliver =>
    have hlatch : (s.isShutDown || Turn.deliver.request?.any shutsDown) = s.isShutDown := by
      simp [Turn.request?]
    rw [next, deliver, hlatch]
    cases s.finished with
    | nil => exact ⟨rfl, rfl, rfl⟩
    | cons x xs =>
      simp only [respond]
      split <;> exact ⟨rfl, rfl, rfl⟩

theorem reply_congr {s' : Server} (hd : s.documents = s'.documents)
    (hl : s.isShutDown = s'.isShutDown) : s.reply = s'.reply := by
  funext r
  rw [reply, reply, hd, hl]

end State

end DocSync.Server
