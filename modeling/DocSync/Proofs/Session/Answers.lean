import DocSync.Proofs.Session.Run

/-! # One answer for each request

While a session is alive, a request is answered in its own step, by one response with its own id.
Only a request that breaks the handshake has none, and closes the session. A notification is never
answered; the user is told of the ones that the store refuses.
-/

namespace DocSync.Session

/-- A request that the handshake has no answer for. -/
def Breaks (σ : Session) (r : Request) : Prop :=
  match σ with
  | .waiting => r.method = Method.handshake ∧ ∃ e, Initialize.readOptions r.params = .error e
  | .greeted _ => True
  | _ => False

/-- Why the store refuses what a notification asks of it. A session that does not serve has no
store, and asks nothing of it. -/
def refusal? (σ : Session) (n : Notification) : Option StoreError :=
  match σ with
  | .serving s => s.refusal? n
  | _ => none

/-- The message by which the user is told of a refusal. -/
def notice (method : String) (e : StoreError) : Message :=
  .notification ⟨Method.showMessage, .ofMembers [
    ("type", .int 1), ("message", .string ("harels: " ++ method ++ " refused: " ++ e.message))]⟩

/-- What a session may send for a message, and nothing else. -/
def Answers (σ : Session) : Message → List Message → Prop
  | .request r, sent =>
    (σ.isClosed → sent = []) ∧
    (¬ σ.isClosed → ¬ σ.Breaks r → ∃ x : Response, sent = [.response x] ∧ x.id = r.id ∧
      ∀ e, x.error = some e → e.code ≠ ErrorCode.internalError) ∧
    (σ.Breaks r → sent = [] ∧ ∃ e, (σ.step (.request r)).1 = .closed e ∧ e ≠ .done)
  | .response _, sent => sent = []
  | .notification n, sent => sent = ((σ.refusal? n).map (notice n.method)).toList

section Steps

theorem answers_waiting (m : Message) : Answers .waiting m (step .waiting m).2 := by
  cases m with
  | response x => rfl
  | notification n =>
    simp only [Answers, step, onWaiting, refusal?]
    split <;> rfl
  | request r =>
    refine ⟨fun h => absurd h Bool.false_ne_true, fun _ hb => ?_, fun hb => ?_⟩
    · by_cases hr : r.method = Method.handshake
      · cases ho : Initialize.readOptions r.params with
        | error e => exact absurd ⟨hr, e, ho⟩ hb
        | ok options =>
          obtain ⟨c, hc⟩ := exists_run_options options
          rw [step_handshake hr ho hc]
          exact ⟨_, rfl, rfl, fun e he => by cases he⟩
      · have hcode : ErrorCode.notInitialized ≠ ErrorCode.internalError := by decide
        rw [step_early hr]
        refine ⟨_, rfl, rfl, fun e he => ?_⟩
        cases he
        exact hcode
    · obtain ⟨hr, e, he⟩ := hb
      rw [step_unreadable hr he]
      exact ⟨rfl, _, rfl, by rintro ⟨⟩⟩

theorem answers_greeted (c : Config) (m : Message) :
    Answers (.greeted c) m (step (.greeted c) m).2 := by
  cases m with
  | response x => rfl
  | notification n =>
    simp only [Answers, step, refusal?]
    split <;> rfl
  | request r =>
    exact ⟨fun h => absurd h Bool.false_ne_true, fun _ hb => absurd trivial hb,
      fun _ => ⟨rfl, _, rfl, by rintro ⟨⟩⟩⟩

theorem answers_closed (e : Ending) (m : Message) :
    Answers (.closed e) m (step (.closed e) m).2 := by
  cases m with
  | response x => rfl
  | notification n => rfl
  | request r => exact ⟨fun _ => rfl, fun h => absurd rfl h, fun hb => hb.elim⟩

theorem answers_serving {s : Server} (h : s.Idle) (m : Message) :
    Answers (.serving s) m (step (.serving s) m).2 := by
  cases m with
  | response x =>
    rw [step_serving_response h]
    rfl
  | notification n =>
    simp only [Answers, refusal?]
    by_cases hn : n.method = Method.exit
    · rw [step_serving_exit s hn, Server.refusal?_exit hn]
      rfl
    · rw [step_serving_notification h hn]
      cases hr : s.refusal? n with
      | none => exact Server.sent_notify_of_none hr
      | some e =>
        rw [Server.notify_of_refusal? hr]
        rfl
  | request r =>
    refine ⟨fun h => absurd h Bool.false_ne_true, fun _ _ => ?_, fun hb => hb.elim⟩
    rw [step_serving_request h]
    refine ⟨_, rfl, Server.reply_id s r, fun e he => ?_⟩
    rcases Server.code_of_error_reply he with ⟨hc, -⟩ | hc | hc <;> rw [hc] <;> decide

end Steps

/-- **One answer for each request, and nothing else.** Whatever messages come before a message, and
whatever ids they carry, the session sends for it what it may send. -/
theorem run_answers (pre post : List Message) (m : Message) :
    ∃ sent, (waiting.run (pre ++ m :: post)).2[pre.length]? = some sent ∧
      (waiting.run pre).1.Answers m sent := by
  refine ⟨_, getElem?_run waiting pre post m, ?_⟩
  have h := rests_waiting.run pre
  cases hσ : (waiting.run pre).1 with
  | waiting => exact answers_waiting m
  | greeted c => exact answers_greeted c m
  | serving s => exact answers_serving (h s hσ) m
  | closed e => exact answers_closed e m

end DocSync.Session
