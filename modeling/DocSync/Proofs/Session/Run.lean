import DocSync.Session
import DocSync.Proofs.Config.LastWord
import DocSync.Proofs.Server.Step

/-! # Runs of a session

A run takes its messages one after the other. The request `initialize` fails only for parameters that
do not read, as no options are refused. Once a session serves, its server is idle between two
messages, so a step of the session is a step of `Server.reply` and `Server.notify`, and only `exit`
closes it.
-/

namespace DocSync.Session

section Run
variable (σ : Session)

@[simp] theorem run_nil : σ.run [] = (σ, []) := rfl

@[simp] theorem run_cons (m : Message) (ms : List Message) : σ.run (m :: ms) =
    (((σ.step m).1.run ms).1, (σ.step m).2 :: ((σ.step m).1.run ms).2) := rfl

theorem run_append (ms ns : List Message) : σ.run (ms ++ ns) =
    (((σ.run ms).1.run ns).1, (σ.run ms).2 ++ ((σ.run ms).1.run ns).2) := by
  induction ms generalizing σ with
  | nil => rfl
  | cons m ms ih => simp only [List.cons_append, run_cons, ih]

theorem length_run (ms : List Message) : (σ.run ms).2.length = ms.length := by
  induction ms generalizing σ with
  | nil => rfl
  | cons m ms ih => simp only [run_cons, List.length_cons, ih]

/-- What is sent for a message is what the session after the messages before it sends. -/
theorem getElem?_run (pre post : List Message) (m : Message) :
    (σ.run (pre ++ m :: post)).2[pre.length]? = some ((σ.run pre).1.step m).2 := by
  simp only [run_append, run_cons]
  rw [List.getElem?_append_right (Nat.le_of_eq (length_run σ pre)), length_run, Nat.sub_self,
    List.getElem?_cons_zero]

end Run

section Handshake
variable {r : Request}

theorem exists_run_options (options : Option Json) :
    ∃ c, (options.forM Config.update).run .initial = .ok () c := by
  cases options with
  | none => exact ⟨_, rfl⟩
  | some j => exact Config.exists_run_update .initial j

theorem step_handshake {options : Option Json} {c : Config} (hr : r.method = Method.handshake)
    (ho : Initialize.readOptions r.params = .ok options)
    (hc : (options.forM Config.update).run .initial = .ok () c) :
    waiting.step (.request r) = (.greeted c, [.response (.ok r.id Initialize.result)]) := by
  rw [step, onWaiting, if_pos hr, onInitialize, ho]
  simp only [hc]

theorem step_unreadable {e : DecodeError} (hr : r.method = Method.handshake)
    (he : Initialize.readOptions r.params = .error e) :
    waiting.step (.request r) = (.closed (.invalidParams e), []) := by
  rw [step, onWaiting, if_pos hr, onInitialize, he]

theorem step_early (hr : r.method ≠ Method.handshake) : waiting.step (.request r) =
    (.waiting, [.response (.failed r.id ErrorCode.notInitialized
      ("expected initialize request, got " ++ r.outline))]) := by
  rw [step, onWaiting, if_neg hr]

end Handshake

section Serving
variable {s : Server}

theorem step_serving_request (h : s.Idle) (r : Request) : (serving s).step (.request r) =
    (.serving { s with isShutDown := s.isShutDown || Server.shutsDown r },
      [.response (s.reply r)]) := by
  simp only [step, isNotification, Bool.false_eq_true, if_false, Server.step_request h]

theorem step_serving_response (h : s.Idle) (x : Response) :
    (serving s).step (.response x) = (.serving s, []) := by
  simp only [step, isNotification, Bool.false_eq_true, if_false, Server.step_response h]

theorem step_serving_notification (h : s.Idle) {n : Notification} (hn : n.method ≠ Method.exit) :
    (serving s).step (.notification n) = (.serving (s.notify n).1, (s.notify n).2) := by
  simp only [step, isNotification, decide_eq_true_eq, hn, if_false, Server.step_notification h]

theorem step_serving_exit (s : Server) {n : Notification} (hn : n.method = Method.exit) :
    (serving s).step (.notification n) = (.closed .done, []) := by
  simp only [step, isNotification, decide_eq_true_eq, hn, if_true]

end Serving

/-- A session past its handshake: its server has nothing left to do, or it has ended well. -/
inductive Begun : Session → Prop where
  | serving {s : Server} (h : s.Idle) : Begun (.serving s)
  | closed : Begun (.closed .done)

section Begun
variable {σ : Session}

theorem begun_serve (c : Config) : Begun (serve c) := .serving (Server.idle_start c)

theorem Begun.step (h : σ.Begun) (m : Message) : (σ.step m).1.Begun := by
  cases h with
  | closed => exact .closed
  | serving h =>
    cases m with
    | request r =>
      rw [step_serving_request h]
      exact .serving ⟨h.inFlight, h.jobs, h.finished⟩
    | response x =>
      rw [step_serving_response h]
      exact .serving h
    | notification n =>
      by_cases hn : n.method = Method.exit
      · rw [step_serving_exit _ hn]
        exact .closed
      · rw [step_serving_notification h hn]
        exact .serving (h.notify n)

theorem Begun.step_exit (h : σ.Begun) {n : Notification} (hn : n.method = Method.exit) :
    σ.step (.notification n) = (.closed .done, []) := by
  cases h with
  | serving h => exact step_serving_exit _ hn
  | closed => rfl

theorem Begun.run (h : σ.Begun) (ms : List Message) : (σ.run ms).1.Begun := by
  induction ms generalizing σ with
  | nil => exact h
  | cons m ms ih => exact ih (h.step m)

theorem Begun.finish (h : σ.Begun) : σ.finish = .done := by
  cases h <;> rfl

end Begun

/-- The server of a session has nothing left to do between two messages. -/
def Rests (σ : Session) : Prop := ∀ s, σ = .serving s → s.Idle

section Rests
variable {σ : Session}

theorem rests_waiting : Rests .waiting := by
  rintro s ⟨⟩

theorem Begun.rests (h : σ.Begun) : σ.Rests := by
  rintro s rfl
  cases h with
  | serving h => exact h

theorem Rests.step (h : σ.Rests) (m : Message) : (σ.step m).1.Rests := by
  cases σ with
  | waiting =>
    cases m with
    | request r =>
      by_cases hr : r.method = Method.handshake
      · cases ho : Initialize.readOptions r.params with
        | error e =>
          rw [step_unreadable hr ho]
          rintro s ⟨⟩
        | ok options =>
          obtain ⟨c, hc⟩ := exists_run_options options
          rw [step_handshake hr ho hc]
          rintro s ⟨⟩
      · rw [step_early hr]
        exact rests_waiting
    | notification n =>
      simp only [Session.step, onWaiting]
      split <;> rintro s ⟨⟩
    | response x => rintro s ⟨⟩
  | greeted c =>
    simp only [Session.step]
    split
    · exact (begun_serve c).rests
    · rintro s ⟨⟩
  | closed e => rintro s ⟨⟩
  | serving s => exact ((Begun.serving (h s rfl)).step m).rests

theorem Rests.run (h : σ.Rests) (ms : List Message) : (σ.run ms).1.Rests := by
  induction ms generalizing σ with
  | nil => exact h
  | cons m ms ih => exact ih (h.step m)

end Rests

end DocSync.Session
