import DocSync.Proofs.Session.Options
import DocSync.Proofs.Session.Run

/-! # The grammar of a session

A session ends well exactly if its messages begin with a handshake: anything that is passed over,
the request `initialize` with parameters that read, and at once the notification `initialized`.
After that nothing can make it fail, and it does what a session without a handshake does under the
first configuration, updated by the member `initializationOptions` of the request.
-/

namespace DocSync

/-- The endings by which a session leaves its protocol. -/
def Ending.isProtocolError : Ending → Bool
  | .expectedInitialize _ | .expectedInitialized _ | .disconnected => true
  | _ => false

namespace Session

/-- What a session takes before the request `initialize`, and stays as it is. -/
def IsPassedOver : Message → Prop
  | .request r => r.method ≠ Method.handshake
  | .notification n => n.method ≠ Method.exit
  | .response _ => False

/-- A whole handshake, and the options that it asks for. -/
def IsHandshake (ms : List Message) (options : Option Json) : Prop :=
  ∃ pre r n, ms = pre ++ [.request r, .notification n] ∧ (∀ m ∈ pre, IsPassedOver m) ∧
    r.method = Method.handshake ∧ Initialize.Asks r.params options ∧
    n.method = Method.initialized

/-- A handshake up to its request, whose parameters do not read. -/
def IsUnreadable (ms : List Message) (e : DecodeError) : Prop :=
  ∃ pre r, ms = pre ++ [.request r] ∧ (∀ m ∈ pre, IsPassedOver m) ∧
    r.method = Method.handshake ∧ Initialize.paramsShape.read r.params = .error e

section Opening

theorem step_isPassedOver {m : Message} (hm : IsPassedOver m) : (waiting.step m).1 = .waiting := by
  cases m with
  | request r => rw [step_early hm]
  | notification n => rw [step, onWaiting, if_neg hm]
  | response x => exact hm.elim

theorem run_isPassedOver {pre : List Message} (h : ∀ m ∈ pre, IsPassedOver m) :
    (waiting.run pre).1 = .waiting := by
  induction pre with
  | nil => rfl
  | cons m ms ih =>
    rw [run_cons, step_isPassedOver (h m List.mem_cons_self)]
    exact ih fun k hk => h k (List.mem_cons_of_mem m hk)

theorem step_initialized (c : Config) {n : Notification} (hn : n.method = Method.initialized) :
    ((greeted c).step (.notification n)).1 = serve c := by
  rw [step, isNotification, if_pos (decide_eq_true hn)]

theorem step_not_initialized (c : Config) {m : Message}
    (hm : ¬ isNotification Method.initialized m = true) :
    (greeted c).step m = (.closed (.expectedInitialized m), []) := by
  rw [step, if_neg hm]

theorem run_handshake {ms : List Message} {options : Option Json} (h : IsHandshake ms options) :
    ∃ c, (options.forM Config.update).run .initial = .ok () c ∧ (waiting.run ms).1 = serve c := by
  obtain ⟨pre, r, n, rfl, hpre, hr, hasks, hn⟩ := h
  obtain ⟨c, hc⟩ := exists_run_options options
  have ho := Initialize.readOptions_eq_ok_iff.2 hasks
  refine ⟨c, hc, ?_⟩
  rw [run_append]
  simp only [run_isPassedOver hpre, run_cons, run_nil, step_handshake hr ho hc,
    step_initialized _ hn]

theorem run_unreadable {ms : List Message} {e : DecodeError} (h : IsUnreadable ms e) :
    (waiting.run ms).1 = .closed (.invalidParams e) := by
  obtain ⟨pre, r, rfl, hpre, hr, he⟩ := h
  rw [run_append]
  simp only [run_isPassedOver hpre, run_cons, run_nil,
    step_unreadable hr (Initialize.readOptions_eq_error_iff.2 he)]

end Opening

theorem run_closed (e : Ending) (ms : List Message) :
    (closed e).run ms = (.closed e, List.replicate ms.length []) := by
  induction ms with
  | nil => rfl
  | cons m ms ih =>
    rw [run_cons, step, ih]
    rfl

/-- Nothing that comes after `exit` has an effect. -/
theorem run_exit {σ : Session} (h : σ.Begun) (body after : List Message) {n : Notification}
    (hn : n.method = Method.exit) : σ.run (body ++ .notification n :: after) =
      (.closed .done, (σ.run body).2 ++ List.replicate (after.length + 1) []) := by
  rw [run_append, run_cons, (h.run body).step_exit hn, run_closed]
  rfl

section Grammar
variable {ms hs : List Message} {options : Option Json} {e : DecodeError}

theorem IsHandshake.cons {m : Message} (hm : IsPassedOver m) (h : IsHandshake ms options) :
    IsHandshake (m :: ms) options := by
  obtain ⟨pre, r, n, rfl, hpre, hh⟩ := h
  exact ⟨m :: pre, r, n, rfl, List.forall_mem_cons.2 ⟨hm, hpre⟩, hh⟩

theorem IsUnreadable.cons {m : Message} (hm : IsPassedOver m) (h : IsUnreadable ms e) :
    IsUnreadable (m :: ms) e := by
  obtain ⟨pre, r, rfl, hpre, hh⟩ := h
  exact ⟨m :: pre, r, rfl, List.forall_mem_cons.2 ⟨hm, hpre⟩, hh⟩

theorem IsHandshake.finish_run (h : IsHandshake hs options) (rest : List Message) :
    (waiting.run (hs ++ rest)).1.finish = .done := by
  obtain ⟨c, -, hs⟩ := run_handshake h
  rw [run_append, hs]
  exact ((begun_serve c).run rest).finish

theorem IsUnreadable.finish_run (h : IsUnreadable hs e) (rest : List Message) :
    (waiting.run (hs ++ rest)).1.finish = .invalidParams e := by
  rw [run_append, run_unreadable h, run_closed]
  rfl

/-- After a request that reads, only `initialized` goes on with the handshake. -/
theorem request_cases {r : Request} (hr : r.method = Method.handshake)
    (ho : Initialize.readOptions r.params = .ok options) (ms : List Message) :
    (∃ n rest, ms = .notification n :: rest ∧ IsHandshake [.request r, .notification n] options) ∨
    (waiting.run (.request r :: ms)).1.finish.isProtocolError = true := by
  obtain ⟨c, hc⟩ := exists_run_options options
  rw [run_cons, step_handshake hr ho hc]
  cases ms with
  | nil => exact .inr rfl
  | cons k rest =>
    by_cases hk : isNotification Method.initialized k = true
    · cases k with
      | notification n =>
        exact .inl ⟨n, rest, rfl, [], r, n, rfl, List.forall_mem_nil _, hr,
          Initialize.readOptions_eq_ok_iff.1 ho, of_decide_eq_true hk⟩
      | request q => cases hk
      | response x => cases hk
    · refine .inr ?_
      rw [run_cons, step_not_initialized _ hk, run_closed]
      rfl

/-- Every sequence of messages begins with a handshake, or with one whose request does not read, or
it leaves the protocol. -/
theorem opening_cases (ms : List Message) :
    (∃ hs options rest, ms = hs ++ rest ∧ IsHandshake hs options) ∨
    (∃ hs e rest, ms = hs ++ rest ∧ IsUnreadable hs e) ∨
    (waiting.run ms).1.finish.isProtocolError = true := by
  induction ms with
  | nil => exact .inr (.inr rfl)
  | cons m ms ih =>
    by_cases hm : IsPassedOver m
    · rcases ih with ⟨hs, options, rest, rfl, hh⟩ | ⟨hs, e, rest, rfl, hu⟩ | hp
      · exact .inl ⟨m :: hs, options, rest, rfl, hh.cons hm⟩
      · exact .inr (.inl ⟨m :: hs, e, rest, rfl, hu.cons hm⟩)
      · rw [run_cons, step_isPassedOver hm]
        exact .inr (.inr hp)
    cases m with
    | response x =>
      refine .inr (.inr ?_)
      rw [run_cons, step, onWaiting, run_closed]
      rfl
    | notification n =>
      have hn : n.method = Method.exit := not_not.1 hm
      refine .inr (.inr ?_)
      rw [run_cons, step, onWaiting, if_pos hn, run_closed]
      rfl
    | request r =>
      have hr : r.method = Method.handshake := not_not.1 hm
      cases ho : Initialize.readOptions r.params with
      | error e =>
        have hu : IsUnreadable [.request r] e :=
          ⟨[], r, rfl, List.forall_mem_nil _, hr, Initialize.readOptions_eq_error_iff.1 ho⟩
        exact .inr (.inl ⟨[.request r], e, ms, rfl, hu⟩)
      | ok options =>
        rcases request_cases hr ho ms with ⟨n, rest, rfl, hh⟩ | hp
        · exact .inl ⟨[.request r, .notification n], options, rest, rfl, hh⟩
        · exact .inr (.inr hp)

/-- **The grammar of a session.** A session ends well exactly if its messages begin with a
handshake. The options that it asks for are never refused, and what is sent after it is what is sent
without one under the configuration that they make of the first, and nothing after `exit`.
Any other session ends with the fault of its request, or else with that of its protocol, and never
has a server that could act on a message. -/
theorem run_handshake_grammar (ms : List Message) :
    ((waiting.run ms).1.finish = .done ↔
      ∃ hs options rest, ms = hs ++ rest ∧ IsHandshake hs options) ∧
    (∀ hs options rest, ms = hs ++ rest → IsHandshake hs options →
      ∃ c, (options.forM Config.update).run .initial = .ok () c ∧
        (waiting.run ms).2 = (waiting.run hs).2 ++ ((serve c).run rest).2 ∧
        ∀ body n after, rest = body ++ .notification n :: after → n.method = Method.exit →
          (serve c).run rest =
            (.closed .done, ((serve c).run body).2 ++ List.replicate (after.length + 1) [])) ∧
    (∀ e, (waiting.run ms).1.finish = .invalidParams e ↔
      ∃ hs rest, ms = hs ++ rest ∧ IsUnreadable hs e) ∧
    ((waiting.run ms).1.finish ≠ .done →
      ((∃ e, (waiting.run ms).1.finish = .invalidParams e) ∨
        (waiting.run ms).1.finish.isProtocolError = true) ∧
      ∀ n s, (waiting.run (ms.take n)).1 ≠ .serving s) := by
  refine ⟨⟨fun h => ?_, ?_⟩, ?_, fun e => ⟨fun h => ?_, ?_⟩, fun h => ⟨?_, ?_⟩⟩
  · rcases opening_cases ms with hh | ⟨hs, e, rest, rfl, hu⟩ | hp
    · exact hh
    · rw [hu.finish_run] at h
      cases h
    · rw [h] at hp
      cases hp
  · rintro ⟨hs, options, rest, rfl, hh⟩
    exact hh.finish_run rest
  · rintro hs options rest rfl hh
    obtain ⟨c, hc, hserve⟩ := run_handshake hh
    refine ⟨c, hc, ?_, ?_⟩
    · rw [run_append, hserve]
    · rintro body n after rfl hn
      exact run_exit (begun_serve c) body after hn
  · rcases opening_cases ms with ⟨hs, options, rest, rfl, hh⟩ | ⟨hs, d, rest, rfl, hu⟩ | hp
    · rw [hh.finish_run] at h
      cases h
    · rw [hu.finish_run] at h
      cases h
      exact ⟨hs, rest, rfl, hu⟩
    · rw [h] at hp
      cases hp
  · rintro ⟨hs, rest, rfl, hu⟩
    exact hu.finish_run rest
  · rcases opening_cases ms with ⟨hs, options, rest, rfl, hh⟩ | ⟨hs, d, rest, rfl, hu⟩ | hp
    · exact absurd (hh.finish_run rest) h
    · exact .inl ⟨d, hu.finish_run rest⟩
    · exact .inr hp
  · intro n s hs
    have hbegun := Begun.serving (rests_waiting.run (ms.take n) s hs)
    refine h ?_
    rw [← List.take_append_drop n ms, run_append, hs]
    exact (hbegun.run (ms.drop n)).finish

end Grammar

section Den

def denOptions : Json :=
  .object [("reopen", .string "replace"), ("version_policy", .string "strict")]

/-- The request `initialize`, with these parameters. -/
def denAsked (params : Json) : Message := .request ⟨.number 1, Method.handshake, params⟩

def denOpened (version : Int) (text : String) : Message := .notification ⟨Method.didOpen,
  .array [.array [.string "file:///den", .string "hare", .int version, .string text]]⟩

def denChanged (version : Int) : Message := .notification ⟨Method.didChange,
  .object [("textDocument", .array [.string "file:///den", .int version]),
    ("contentChanges", .array [])]⟩

def denRead (id : RequestId) : Message :=
  .request ⟨id, Method.documentText, .array [.string "file:///den"]⟩

/-- A document is opened too early, and then the options are asked for. -/
def denHandshake : List Message := [denOpened 1 "a",
  denAsked (.object [("capabilities", .object []), ("initializationOptions", denOptions)]),
  .notification ⟨Method.initialized, .null⟩]

/-- The document is replaced, a late change refused, and after `exit` there is no answer. -/
def denBody : List Message := [denRead (.number 2), denOpened 2 "b", denOpened 5 "c", denChanged 4,
  denRead (.number 3), .notification ⟨Method.exit, .null⟩, denRead (.number 4)]

theorem run_handshake_grammar_den : IsHandshake denHandshake (some denOptions) ∧
    (waiting.run (denHandshake ++ denBody)).1.finish = .done ∧
    (waiting.run (denHandshake ++ denBody)).2 = [
      [], [.response (.ok (.number 1) Initialize.result)], [],
      [.response (.failed (.number 2) (-32602) "document not open: file:///den")], [], [],
      [.notification ⟨"window/showMessage", .object [("message", .string
        ("harels: textDocument/didChange refused: stale version for file:///den: received 4, " ++
          "current is 5")), ("type", .int 1)]⟩],
      [.response (.ok (.number 3) (.object [("languageId", .string "hare"), ("text", .string "c"),
        ("uri", .string "file:///den"), ("version", .int 5)]))], [], []] ∧
    (waiting.run (denAsked (.string "garbage") :: denBody)).1.finish =
      .invalidParams (.invalidType (.string "garbage") "struct InitializeParams") ∧
    (waiting.run (denAsked (.object [("initializationOptions", denOptions)]) :: denBody)).1.finish =
      .invalidParams (.missingField "capabilities") := by
  have hh : IsHandshake denHandshake (some denOptions) :=
    ⟨[denOpened 1 "a"], _, _, rfl, by simp [IsPassedOver, denOpened, Method.didOpen, Method.exit],
      rfl, ⟨⟨_, rfl⟩, _, rfl, .given (j := denOptions) rfl nofun⟩, rfl⟩
  have hunreadable (params : Json) (e : DecodeError)
      (he : Initialize.paramsShape.read params = .error e) :
      (waiting.run (denAsked params :: denBody)).1.finish = .invalidParams e :=
    ((run_handshake_grammar _).2.2.1 e).2
      ⟨[denAsked params], denBody, rfl, [], _, rfl, List.forall_mem_nil _, rfl, he⟩
  have hgrammar := run_handshake_grammar (denHandshake ++ denBody)
  refine ⟨hh, hgrammar.1.2 ⟨_, _, _, rfl, hh⟩, ?_, hunreadable _ _ rfl, hunreadable _ _ rfl⟩
  obtain ⟨c, hc, hsent, -⟩ := hgrammar.2.1 _ _ _ rfl hh
  have hstrict : ((some denOptions).forM Config.update).run .initial =
    .ok () ⟨.replace, .strict⟩ := rfl
  cases hstrict.symm.trans hc
  rw [hsent]
  rfl

end Den

end Session
end DocSync
