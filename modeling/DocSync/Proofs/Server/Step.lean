import DocSync.Proofs.Server.Dispatch
import DocSync.Proofs.Store.Step

/-! # What a step of the server does

No handler fails: `ask` and `notify` say what becomes of the server and what is sent, and handling a
message is performing one of them. A server that handles its messages one at a time is idle between
them: no request is in flight and no job is open. For such a server a step is a function of the store
and of the shutdown latch. A request is answered by `reply`, and may set the latch; a notification is
a store operation (`operation?`), and is reported if the store refuses it.
-/

namespace DocSync.Server

/-- Nothing is left to do before the next message. -/
structure Idle (s : Server) : Prop where
  inFlight : s.inFlight = []
  jobs : s.jobs = []
  finished : s.finished = []

theorem idle_start (c : Config) : (start c).Idle := ⟨rfl, rfl, rfl⟩

section Handling

theorem handling_ext {x y : Handling Unit}
    (h : ∀ s sent, x.run (s, sent) = y.run (s, sent)) : x = y := funext fun (s, sent) => h s sent

theorem perform_bind (f g : Server → Step) : (do perform f; perform g) =
    perform fun s => ((g (f s).1).1, (f s).2 ++ (g (f s).1).2) := by
  refine handling_ext fun s sent => ?_
  simp [List.append_assoc]

theorem pure_eq_perform : (pure () : Handling Unit) = perform (·, []) := by
  refine handling_ext fun s sent => ?_
  simp

theorem observing_update (f : Server → Server) :
    (observing (update f) : Handling (Except Failure Unit)) = Except.ok <$> update f := rfl

end Handling

section Requests

/-- What becomes of the server at a request, with the message that it sends at once, if any. -/
def ask (s : Server) (r : Request) : Step :=
  let s := s.register r.id
  if s.isShutDown then
    s.respond (.failed r.id ErrorCode.invalidRequest "shutdown was requested")
  else if r.method = Method.shutdown then
    match (Wire.decode Method.shutdown r.params : Except Malformed Unit) with
    | .ok _ => { s with isShutDown := true }.respond (.ok r.id .null)
    | .error m => s.respond (.failed r.id ErrorCode.invalidParams m.message)
  else if r.method = Method.documentText then
    match (Wire.decode Method.documentText r.params : Except Malformed DocumentId) with
    | .ok p => ({ s with
        jobs := s.jobs ++ [⟨r.id, s.documents, fun t => (t.documentText p).map Wire.write⟩] }, [])
    | .error m => s.respond (.failed r.id ErrorCode.invalidParams m.message)
  else s.respond (.failed r.id ErrorCode.methodNotFound "unknown request")

/-- A request never makes the server fail. -/
theorem onRequest_eq (r : Request) : onRequest r = perform (·.ask r) := by
  refine handling_ext fun s sent => ?_
  have hregister : (update (·.register r.id)).run (s, sent) =
    .ok () (s.register r.id, sent) := run_update _ s sent
  rw [onRequest, EStateM.run_bind, hregister]
  simp only [EStateM.run_bind, run_current, run_perform, ask]
  by_cases hl : (s.register r.id).isShutDown = true
  · rw [if_pos hl, if_pos hl]
    rfl
  rw [if_neg hl, if_neg hl, requests_eq]
  by_cases hs : r.method = Method.shutdown
  · rw [if_pos hs, if_pos hs]
    cases (Wire.decode Method.shutdown r.params : Except Malformed Unit) with
    | ok p =>
      have hok : Response.ofResult r.id ((.ok () : Except Failure Unit).map Wire.write) =
        .ok r.id .null := rfl
      simp [shutDown, observing_update, answer, hok]
    | error m => rfl
  rw [if_neg hs, if_neg hs]
  by_cases hd : r.method = Method.documentText
  · rw [if_pos hd, if_pos hd]
    cases (Wire.decode Method.documentText r.params : Except Malformed DocumentId) <;> rfl
  · rw [if_neg hd, if_neg hd]
    rfl

/-- The answer to a request. -/
def reply (s : Server) (r : Request) : Response :=
  if s.isShutDown then .failed r.id ErrorCode.invalidRequest "shutdown was requested"
  else if r.method = Method.shutdown then
    match (Wire.decode r.method r.params : Except Malformed Unit) with
    | .ok () => .ok r.id .null
    | .error m => .failed r.id ErrorCode.invalidParams m.message
  else if r.method = Method.documentText then
    match (Wire.decode r.method r.params : Except Malformed DocumentId) with
    | .ok p => .ofResult r.id ((s.documents.documentText p).map Wire.write)
    | .error m => .failed r.id ErrorCode.invalidParams m.message
  else .failed r.id ErrorCode.methodNotFound "unknown request"

/-- Whether a request sets the latch: its parameters have to read as none. -/
def shutsDown (r : Request) : Bool :=
  r.method = Method.shutdown && (Wire.decode r.method r.params : Except Malformed Unit).isOk

theorem settle_idle {s : Server} (h : s.Idle) : s.settle = (s, []) := by
  obtain ⟨c, documents, latch, inFlight, jobs, finished⟩ := s
  obtain ⟨rfl, rfl, rfl⟩ := h
  rfl

theorem step_of_handle {s s' : Server} {m : Message} {f : Server → Step} {sent : List Message}
    (hm : handle m = perform f) (hf : f s = (s', sent)) (h : s'.Idle) :
    (step m).run (s, []) = .ok () (s', sent) := by
  rw [step, hm, perform_bind, run_perform, hf, settle_idle h, List.append_nil, List.nil_append]

theorem shutsDown_of_ne {r : Request} (hs : r.method ≠ Method.shutdown) : shutsDown r = false := by
  rw [shutsDown, decide_eq_false hs, Bool.false_and]

theorem shutsDown_of_eq {r : Request} (hs : r.method = Method.shutdown) :
    shutsDown r = (Wire.decode r.method r.params : Except Malformed Unit).isOk := by
  rw [shutsDown, decide_eq_true hs, Bool.true_and]

theorem id_ofResult (id : RequestId) (x : Except Failure Json) :
    (Response.ofResult id x).id = id := by
  cases x <;> rfl

@[simp] theorem id_run (j : Job) : j.run.id = j.id := id_ofResult ..

theorem reply_id (s : Server) (r : Request) : (s.reply r).id = r.id := by
  unfold reply
  split
  · rfl
  · split
    · split <;> rfl
    · split
      · split
        · exact id_ofResult ..
        · rfl
      · rfl

theorem filter_inFlight {s : Server} {i : RequestId} (h : i ∉ s.inFlight) :
    s.inFlight.filter (· ≠ i) = s.inFlight := by
  rw [List.filter_eq_self]
  intro k hk
  simpa using ne_of_mem_of_not_mem hk h

/-- A request that is answered at once is not in flight after it. -/
theorem respond_register {s : Server} {x : Response} (h : x.id ∉ s.inFlight) :
    (s.register x.id).respond x = (s, [.response x]) := by
  have hfilter := filter_inFlight h
  simp only [ne_eq, decide_not] at hfilter
  simp [register, respond, hfilter]

/-- A request with a new id is answered at once, and may set the latch, or it leaves a job that will
answer it with the documents of this moment. -/
theorem ask_cases {s : Server} {r : Request} (h : r.id ∉ s.inFlight) :
    s.ask r = ({ s with isShutDown := s.isShutDown || shutsDown r }, [.response (s.reply r)]) ∨
      ∃ j : Job, j.id = r.id ∧ j.run = s.reply r ∧ shutsDown r = false ∧
        s.ask r = ({ s.register r.id with jobs := s.jobs ++ [j] }, []) := by
  by_cases hl : s.isShutDown = true
  · left
    have hlatch : (s.isShutDown || shutsDown r) = s.isShutDown := by rw [hl, Bool.true_or]
    rw [hlatch, reply, if_pos hl, ask,
      if_pos (show (s.register r.id).isShutDown = true from hl)]
    exact respond_register h
  have hreg : ¬ (s.register r.id).isShutDown = true := hl
  rw [ask, if_neg hreg, reply, if_neg hl]
  by_cases hs : r.method = Method.shutdown
  · left
    rw [if_pos hs, if_pos hs, shutsDown_of_eq hs, hs]
    cases (Wire.decode Method.shutdown r.params : Except Malformed Unit) with
    | ok p =>
      rw [Except.isOk, Except.toBool, Bool.or_true]
      have hset : (Response.ok r.id .null).id ∉ { s with isShutDown := true }.inFlight := h
      exact respond_register hset
    | error m =>
      rw [Except.isOk, Except.toBool, Bool.or_false]
      exact respond_register h
  rw [if_neg hs, if_neg hs, shutsDown_of_ne hs, Bool.or_false]
  by_cases hd : r.method = Method.documentText
  · rw [if_pos hd, if_pos hd, hd]
    cases (Wire.decode Method.documentText r.params : Except Malformed DocumentId) with
    | ok p => exact .inr ⟨_, rfl, rfl, rfl, rfl⟩
    | error m => exact .inl (respond_register h)
  · rw [if_neg hd, if_neg hd]
    exact .inl (respond_register h)

/-- A request with a job is answered when the job has run. -/
theorem settle_job {s : Server} (h : s.Idle) (j : Job) :
    { s.register j.id with jobs := s.jobs ++ [j] }.settle = (s, [.response j.run]) := by
  obtain ⟨c, documents, latch, inFlight, jobs, finished⟩ := s
  obtain ⟨rfl, rfl, rfl⟩ := h
  simp [settle, register, deliverTimes, deliver, respond]

/-- A request is answered in its own step, and changes nothing but the latch. -/
theorem step_request {s : Server} (h : s.Idle) (r : Request) : (step (.request r)).run (s, []) =
    .ok () ({ s with isShutDown := s.isShutDown || shutsDown r }, [.response (s.reply r)]) := by
  have hnew : r.id ∉ s.inFlight := by
    rw [h.inFlight]
    exact List.not_mem_nil
  rcases ask_cases hnew with hnow | ⟨j, hid, hrun, hlatch, hlater⟩
  · exact step_of_handle (onRequest_eq r) hnow ⟨h.inFlight, h.jobs, h.finished⟩
  · rw [step, handle, onRequest_eq, perform_bind, run_perform, hlater, ← hid, settle_job h, hrun,
      hlatch, Bool.or_false, List.nil_append, List.nil_append]

/-- What a store has under an identifier, as it is sent. -/
theorem ofResult_documentText (s : Store) (id : RequestId) (p : DocumentId) :
    Response.ofResult id ((s.documentText p).map Wire.write) = match s.get? p.uri with
      | none => .failed id (-32602) ("document not open: " ++ p.uri.text)
      | some d => .ok id (.object [("languageId", .string d.languageId),
          ("text", .string (String.ofList d.text)), ("uri", .string p.uri.text),
          ("version", .int d.version.toInt)]) := by
  rw [Store.documentText]
  cases h : s.get? p.uri with
  | none =>
    rw [Store.snapshot_of_none h]
    rfl
  | some d =>
    rw [Store.snapshot_of_some h]
    rfl

/-- A request for a text that can be read is answered with what the documents have for it. -/
theorem reply_documentText {s : Server} {r : Request} {p : DocumentId}
    (hl : s.isShutDown = false) (hm : r.method = Method.documentText)
    (hp : (Wire.decode r.method r.params : Except Malformed DocumentId) = .ok p) :
    s.reply r = .ofResult r.id ((s.documents.documentText p).map Wire.write) := by
  have hne : Method.documentText ≠ Method.shutdown := by decide
  rw [reply, hl, if_neg Bool.false_ne_true, if_neg (hm ▸ hne), if_pos hm, hp]

/-- A request is refused for a reason that lies with the client, and as invalid only once the latch
is set. -/
theorem code_of_error_reply {s : Server} {r : Request} {e : ResponseError}
    (h : (s.reply r).error = some e) :
    (e.code = ErrorCode.invalidRequest ∧ s.isShutDown = true) ∨
      e.code = ErrorCode.methodNotFound ∨ e.code = ErrorCode.invalidParams := by
  unfold reply at h
  split at h
  · next hl =>
    cases h
    exact .inl ⟨rfl, hl⟩
  · split at h
    · split at h
      · cases h
      · cases h
        exact .inr (.inr rfl)
    · split at h
      · split at h
        · next p _ =>
          cases hd : s.documents.snapshot p.uri with
          | ok x =>
            rw [Store.documentText, hd] at h
            cases h
          | error c =>
            rw [Store.documentText, hd] at h
            cases h
            exact .inr (.inr rfl)
        · cases h
          exact .inr (.inr rfl)
      · cases h
        exact .inr (.inl rfl)

theorem isShutDown_of_invalidRequest {s : Server} {r : Request} {e : ResponseError}
    (h : (s.reply r).error = some e) (hc : e.code = ErrorCode.invalidRequest) :
    s.isShutDown = true := by
  have hcodes : ErrorCode.invalidRequest ≠ ErrorCode.methodNotFound ∧
    ErrorCode.invalidRequest ≠ ErrorCode.invalidParams := by decide
  rcases code_of_error_reply h with ⟨-, hl⟩ | hn | hp
  · exact hl
  · exact absurd (hc.symm.trans hn) hcodes.1
  · exact absurd (hc.symm.trans hp) hcodes.2

end Requests

section Notifications

/-- What a notification asks of the store. -/
def operation? (c : Config) (n : Notification) : Option Store.Operation :=
  if n.method = Method.didOpen then
    (Wire.read n.params : Except DecodeError DidOpen).toOption.map fun p =>
      match c.reopen with
      | .reject => .openNew p.document.uri p.document.toDocument
      | .replace => .reopen p.document.uri p.document.toDocument
  else if n.method = Method.didClose then
    (Wire.read n.params : Except DecodeError DidClose).toOption.map fun p =>
      .close p.document.uri
  else if n.method = Method.didChange then
    (Wire.read n.params : Except DecodeError DidChange).toOption.map fun p =>
      .change p.document.uri p.document.version (p.changes.map (·.toChange))
  else none

/-- What the user sees of the answer of the store. -/
def report (method : String) : Store.Answer → List Message
  | .refused e => [refusal method e]
  | _ => []

/-- Carries out a store operation, with its report. -/
def carryOut (s : Server) (method : String) (op : Store.Operation) : Step :=
  let (documents, answer) := s.documents.step op
  ({ s with documents }, report method answer)

/-- What becomes of the server at a notification, with the report of a refusal. -/
def notify (s : Server) (n : Notification) : Step :=
  match operation? s.config n with
  | none => (s, [])
  | some op => s.carryOut n.method op

/-- Why the store refuses what a notification asks of it, if it does. -/
def refusal? (s : Server) (n : Notification) : Option StoreError :=
  (operation? s.config n).bind fun op =>
    match (s.documents.step op).2 with
    | .refused e => some e
    | _ => none

theorem operation?_exit {c : Config} {n : Notification} (hn : n.method = Method.exit) :
    operation? c n = none := by
  have h : Method.exit ≠ Method.didOpen ∧ Method.exit ≠ Method.didClose ∧
    Method.exit ≠ Method.didChange := by decide
  rw [operation?, hn, if_neg h.1, if_neg h.2.1, if_neg h.2.2]

theorem refusal?_exit {s : Server} {n : Notification} (hn : n.method = Method.exit) :
    s.refusal? n = none := by
  rw [refusal?, operation?_exit hn, Option.bind_none]

theorem run_onDocuments (x : EStateM StoreError Store Unit) (s : Server) (sent : List Message) :
    (onDocuments x).run (s, sent) = match x.run s.documents with
      | .ok () documents => .ok (.ok ()) ({ s with documents }, sent)
      | .error e documents => .ok (.error e) ({ s with documents }, sent) := rfl

/-- What a method leaves of the documents stays, and its refusal is reported. -/
theorem report_onDocuments (method : String) (x : EStateM StoreError Store Unit) :
    (onDocuments x >>= reportRefused method) = perform fun s =>
      let (documents, answer) := Store.answered (x.run s.documents)
      ({ s with documents }, report method answer) := by
  refine handling_ext fun s sent => ?_
  rw [EStateM.run_bind, run_onDocuments, run_perform]
  cases x.run s.documents with
  | ok a documents => simp [reportRefused, Store.answered, report]
  | error e documents => simp [reportRefused, Store.answered, report]

theorem didOpen_eq (p : DidOpen) : didOpen p = perform fun s =>
    s.carryOut Method.didOpen <| match s.config.reopen with
      | .reject => .openNew p.document.uri p.document.toDocument
      | .replace => .reopen p.document.uri p.document.toDocument := by
  refine handling_ext fun s sent => ?_
  rw [didOpen, EStateM.run_bind, run_current]
  cases hr : s.config.reopen with
  | reject =>
    have h := report_onDocuments Method.didOpen
      (Store.openNew p.document.uri p.document.toDocument)
    simp only [h, run_perform, hr]
    rfl
  | replace =>
    simp only [report_onDocuments, run_perform, hr]
    rfl

theorem didClose_eq (p : DidClose) :
    didClose p = perform (·.carryOut Method.didClose (.close p.document.uri)) :=
  report_onDocuments Method.didClose _

theorem didChange_eq (p : DidChange) : didChange p = perform (·.carryOut Method.didChange
    (.change p.document.uri p.document.version (p.changes.map (·.toChange)))) :=
  report_onDocuments Method.didChange _

/-- A notification is a store operation with its report, and never makes the server fail. -/
theorem onNotification_eq (n : Notification) : onNotification n = perform (·.notify n) := by
  rw [onNotification, notifications_eq]
  unfold notify operation?
  by_cases ho : n.method = Method.didOpen
  · simp only [if_pos ho]
    cases (Wire.read n.params : Except DecodeError DidOpen) with
    | error e => exact pure_eq_perform
    | ok p =>
      rw [ho]
      exact didOpen_eq p
  simp only [if_neg ho]
  by_cases hc : n.method = Method.didClose
  · simp only [if_pos hc]
    cases (Wire.read n.params : Except DecodeError DidClose) with
    | error e => exact pure_eq_perform
    | ok p =>
      rw [hc]
      exact didClose_eq p
  simp only [if_neg hc]
  by_cases hm : n.method = Method.didChange
  · simp only [if_pos hm]
    cases (Wire.read n.params : Except DecodeError DidChange) with
    | error e => exact pure_eq_perform
    | ok p =>
      rw [hm]
      exact didChange_eq p
  simp only [if_neg hm]
  exact pure_eq_perform

theorem notify_of_operation? {s : Server} {n : Notification} (h : operation? s.config n = none) :
    s.notify n = (s, []) := by
  rw [notify, h]

/-- Only a refusal is reported, and a refusal changes nothing. -/
theorem notify_of_refusal? {s : Server} {n : Notification} {e : StoreError}
    (h : s.refusal? n = some e) : s.notify n = (s, [refusal n.method e]) := by
  obtain ⟨op, hop, hs⟩ := Option.bind_eq_some_iff.1 h
  cases ha : (s.documents.step op).2 with
  | refused c =>
    obtain rfl : c = e := by simpa [ha] using hs
    rw [notify, hop]
    simp only [carryOut, Store.step_eq_of_refused ha, report]
  | _ => simp [ha] at hs

theorem sent_notify_of_none {s : Server} {n : Notification} (h : s.refusal? n = none) :
    (s.notify n).2 = [] := by
  unfold notify
  unfold refusal? at h
  cases hop : operation? s.config n with
  | none => rfl
  | some op =>
    rw [hop, Option.bind_some] at h
    simp only [carryOut]
    cases ha : (s.documents.step op).2 with
    | refused e => simp [ha] at h
    | _ => rfl

theorem Idle.notify {s : Server} (h : s.Idle) (n : Notification) : (s.notify n).1.Idle := by
  unfold Server.notify
  split
  · exact h
  · exact ⟨h.inFlight, h.jobs, h.finished⟩

theorem step_notification {s : Server} (h : s.Idle) (n : Notification) :
    (step (.notification n)).run (s, []) = .ok () (s.notify n) :=
  step_of_handle (onNotification_eq n) rfl (h.notify n)

theorem step_response {s : Server} (h : s.Idle) (x : Response) :
    (step (.response x)).run (s, []) = .ok () (s, []) :=
  step_of_handle pure_eq_perform rfl h

end Notifications

end DocSync.Server
