import DocSync.Proofs.Session.Run

/-! # The latch of a shutdown

The first request `shutdown` without parameters sets a latch, and nothing takes it back. A request
is refused as invalid exactly if it comes after that one. Notifications do not see the latch, so
what is sent for them does not change when requests are left out.
-/

namespace DocSync

namespace Server
variable {s : Server} {r : Request}

/-- Only `null` reads as no parameters. -/
theorem isOk_decode_unit {what : String} {j : Json} :
    (Wire.decode what j : Except Malformed Unit).isOk = true ↔ j = .null := by
  cases j with
  | null => exact ⟨fun _ => rfl, fun _ => rfl⟩
  | _ => exact ⟨nofun, nofun⟩

theorem shutsDown_iff : shutsDown r = true ↔ r.method = Method.shutdown ∧ r.params = .null := by
  rw [shutsDown, Bool.and_eq_true, decide_eq_true_eq, isOk_decode_unit]

theorem reply_of_isShutDown (h : s.isShutDown = true) :
    s.reply r = .failed r.id ErrorCode.invalidRequest "shutdown was requested" := by
  rw [reply, if_pos h]

theorem reply_of_shutsDown (h : ¬ s.isShutDown = true) (hr : shutsDown r = true) :
    s.reply r = .ok r.id .null := by
  obtain ⟨hm, hp⟩ := shutsDown_iff.1 hr
  rw [reply, if_neg h, if_pos hm, hp]
  rfl

/-- A request to shut down that has parameters is refused for them. -/
theorem reply_of_params_ne (h : ¬ s.isShutDown = true) (hm : r.method = Method.shutdown)
    (hp : r.params ≠ .null) :
    ∃ message, s.reply r = .failed r.id ErrorCode.invalidParams message := by
  rw [reply, if_neg h, if_pos hm]
  cases hd : (Wire.decode r.method r.params : Except Malformed Unit) with
  | ok p =>
    have hok : (Wire.decode r.method r.params : Except Malformed Unit).isOk = true := by
      rw [hd]
      rfl
    exact absurd (isOk_decode_unit.1 hok) hp
  | error m => exact ⟨m.message, rfl⟩

theorem isShutDown_notify (s : Server) (n : Notification) :
    (s.notify n).1.isShutDown = s.isShutDown := by
  unfold notify
  split <;> rfl

/-- Notifications neither see the latch nor move it. -/
theorem notify_isShutDown (s : Server) (n : Notification) (b : Bool) :
    { s with isShutDown := b }.notify n =
      ({ (s.notify n).1 with isShutDown := b }, (s.notify n).2) := by
  simp only [notify]
  cases operation? s.config n <;> rfl

end Server

namespace Session

/-- A request to shut down without parameters. -/
def Latches : Message → Prop
  | .request r => r.method = Method.shutdown ∧ r.params = .null
  | _ => False

section Latch
variable {s : Server}

/-- The latch is set by a message that latches, and by nothing else. -/
theorem step_latch (h : s.Idle) {m : Message} (hm : ¬ isNotification Method.exit m = true) :
    ∃ t, ((serving s).step m).1 = .serving t ∧ t.Idle ∧
      (t.isShutDown = true ↔ s.isShutDown = true ∨ Latches m) := by
  cases m with
  | request r =>
    rw [step_serving_request h]
    refine ⟨_, rfl, ⟨h.inFlight, h.jobs, h.finished⟩, ?_⟩
    rw [Latches, ← Server.shutsDown_iff]
    exact Bool.or_eq_true_iff
  | response x =>
    rw [step_serving_response h]
    exact ⟨s, rfl, h, by simp [Latches]⟩
  | notification n =>
    have hn : n.method ≠ Method.exit := fun he => hm (decide_eq_true he)
    rw [step_serving_notification h hn]
    exact ⟨_, rfl, h.notify n, by simp [Latches, Server.isShutDown_notify]⟩

theorem run_latched (h : s.Idle) {ms : List Message}
    (hms : ∀ m ∈ ms, ¬ isNotification Method.exit m = true) :
    ∃ t, ((serving s).run ms).1 = .serving t ∧ t.Idle ∧
      (t.isShutDown = true ↔ s.isShutDown = true ∨ ∃ m ∈ ms, Latches m) := by
  induction ms generalizing s with
  | nil => exact ⟨s, rfl, h, by simp⟩
  | cons m ms ih =>
    obtain ⟨t, ht, hidle, hlatch⟩ := step_latch h (hms m List.mem_cons_self)
    obtain ⟨t', ht', hidle', hlatch'⟩ := ih hidle fun k hk => hms k (List.mem_cons_of_mem m hk)
    refine ⟨t', by rw [run_cons, ht, ht'], hidle', ?_⟩
    simp only [hlatch', hlatch, List.mem_cons, exists_eq_or_imp, or_assoc]

end Latch

section Reports

def isRequest : Message → Bool
  | .request _ => true
  | _ => false

/-- The notifications among some messages, with what is sent for each. -/
def reports (σ : Session) (ms : List Message) : List (Notification × List Message) :=
  (ms.zip (σ.run ms).2).filterMap fun
    | (.notification n, sent) => some (n, sent)
    | _ => none

/-- A session with its latch taken back. -/
def unlatched : Session → Session
  | .serving s => .serving { s with isShutDown := false }
  | σ => σ

variable {σ τ : Session}

theorem Begun.unlatched_request (h : σ.Begun) (r : Request) :
    (σ.step (.request r)).1.unlatched = σ.unlatched := by
  cases h with
  | serving h =>
    rw [step_serving_request h]
    rfl
  | closed => rfl

theorem Begun.step_response (h : σ.Begun) (x : Response) :
    (σ.step (.response x)).1 = σ := by
  cases h with
  | serving h => rw [step_serving_response h]
  | closed => rfl

theorem Begun.unlatched_notification (h : σ.Begun) (n : Notification) :
    (σ.unlatched.step (.notification n)).1 = (σ.step (.notification n)).1.unlatched ∧
      (σ.unlatched.step (.notification n)).2 = (σ.step (.notification n)).2 := by
  cases h with
  | @serving s h =>
    have hidle : { s with isShutDown := false }.Idle := ⟨h.inFlight, h.jobs, h.finished⟩
    by_cases hn : n.method = Method.exit
    · rw [unlatched, step_serving_exit _ hn, step_serving_exit _ hn]
      exact ⟨rfl, rfl⟩
    · rw [unlatched, step_serving_notification hidle hn, step_serving_notification h hn,
        Server.notify_isShutDown]
      exact ⟨rfl, rfl⟩
  | closed => exact ⟨rfl, rfl⟩

theorem reports_filter (hσ : σ.Begun) (hτ : τ.Begun) (h : σ.unlatched = τ.unlatched)
    (ms : List Message) : σ.reports ms = τ.reports (ms.filter (!isRequest ·)) := by
  -- The sessions agree but for the latch, which the requests set on one side only.
  induction ms generalizing σ τ with
  | nil => rfl
  | cons m ms ih =>
    cases m with
    | request r => exact ih (hσ.step _) hτ ((hσ.unlatched_request r).trans h)
    | response x =>
      change (σ.step (.response x)).1.reports ms = (τ.step (.response x)).1.reports _
      rw [hσ.step_response, hτ.step_response, ih hσ hτ h]
    | notification n =>
      obtain ⟨hσ₁, hσ₂⟩ := hσ.unlatched_notification n
      obtain ⟨hτ₁, hτ₂⟩ := hτ.unlatched_notification n
      have hnext : (σ.step (.notification n)).1.unlatched =
          (τ.step (.notification n)).1.unlatched := by rw [← hσ₁, ← hτ₁, h]
      change (n, (σ.step (.notification n)).2) :: (σ.step (.notification n)).1.reports ms =
        (n, (τ.step (.notification n)).2) :: (τ.step (.notification n)).1.reports _
      rw [ih (hσ.step _) (hτ.step _) hnext, ← hσ₂, ← hτ₂, h]

end Reports

/-- **The latch of a shutdown.** Before `exit` every request has one response. It is a refusal as
invalid exactly after a request to shut down that has no parameters; the first of these is answered
by `null`, and one with parameters is refused for them. What is sent for notifications is what is
sent without a request and all later ones. -/
theorem run_shutdown_latch (c : Config) (pre post : List Message) (r : Request) :
    ((∀ m ∈ pre, isNotification Method.exit m = false) →
      ∃ x, ((serve c).run (pre ++ .request r :: post)).2[pre.length]? = some [.response x] ∧
        ((∃ m ∈ pre, Latches m) →
          x = .failed r.id ErrorCode.invalidRequest "shutdown was requested") ∧
        ((∀ m ∈ pre, ¬ Latches m) →
          (∀ e, x.error = some e → e.code ≠ ErrorCode.invalidRequest) ∧
          (Latches (.request r) → x = .ok r.id .null) ∧
          (r.method = Method.shutdown → r.params ≠ .null →
            ∃ message, x = .failed r.id ErrorCode.invalidParams message))) ∧
    (serve c).reports (pre ++ .request r :: post) =
      (serve c).reports (pre ++ post.filter (!isRequest ·)) := by
  constructor
  · intro hpre
    have hexit : ∀ m ∈ pre, ¬ isNotification Method.exit m = true := fun m hm =>
      Bool.eq_false_iff.1 (hpre m hm)
    obtain ⟨s, hs, hidle, hlatch⟩ := run_latched (Server.idle_start c) hexit
    simp only [Server.start, Bool.false_eq_true, false_or] at hlatch
    refine ⟨s.reply r, ?_, fun hl => ?_, fun hl => ?_⟩
    · rw [getElem?_run, serve, hs, step_serving_request hidle]
    · exact Server.reply_of_isShutDown (hlatch.2 hl)
    · have hfree : ¬ s.isShutDown = true := fun hset =>
        let ⟨m, hm, hlm⟩ := hlatch.1 hset
        hl m hm hlm
      exact ⟨fun e he hc => hfree (Server.isShutDown_of_invalidRequest he hc),
        fun hr => Server.reply_of_shutsDown hfree (Server.shutsDown_iff.2 hr),
        Server.reply_of_params_ne hfree⟩
  · have hbegun := begun_serve c
    rw [reports_filter hbegun hbegun rfl (pre ++ .request r :: post),
      reports_filter hbegun hbegun rfl (pre ++ post.filter (!isRequest ·))]
    simp [isRequest]

end Session
end DocSync
