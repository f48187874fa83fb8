import DocSync.Proofs.Session.Run

/-! # Messages that may be left out

A session without a handshake stays as it is on every message that it refuses or does not know, and
on every request for the text of a document. Such messages may be left out of a run in any number:
all others are answered as before.
-/

namespace DocSync.Session

/-- The messages that have no effect on a session, by what they are or by how they are answered. -/
inductive Ineffective (σ : Session) : Message → Prop where
  | documentText {r : Request} (h : r.method = Method.documentText) : Ineffective σ (.request r)
  | unknownRequest {r : Request} (hs : r.method ≠ Method.shutdown)
    (hd : r.method ≠ Method.documentText) : Ineffective σ (.request r)
  | malformedShutdown {r : Request} {e : Malformed} (h : r.method = Method.shutdown)
    (hp : (Wire.decode r.method r.params : Except Malformed Unit) = .error e) :
    Ineffective σ (.request r)
  | refusedRequest {r : Request} {x : Response} {e : ResponseError}
    (hx : .response x ∈ (σ.step (.request r)).2) (he : x.error = some e)
    (hc : e.code = ErrorCode.invalidRequest) : Ineffective σ (.request r)
  | response (x : Response) : Ineffective σ (.response x)
  | unknownNotification {n : Notification} (ho : n.method ≠ Method.didOpen)
    (hc : n.method ≠ Method.didClose) (hm : n.method ≠ Method.didChange)
    (he : n.method ≠ Method.exit) : Ineffective σ (.notification n)
  | malformedOpen {n : Notification} {e : DecodeError} (h : n.method = Method.didOpen)
    (hp : (Wire.read n.params : Except DecodeError DidOpen) = .error e) :
    Ineffective σ (.notification n)
  | malformedClose {n : Notification} {e : DecodeError} (h : n.method = Method.didClose)
    (hp : (Wire.read n.params : Except DecodeError DidClose) = .error e) :
    Ineffective σ (.notification n)
  | malformedChange {n : Notification} {e : DecodeError} (h : n.method = Method.didChange)
    (hp : (Wire.read n.params : Except DecodeError DidChange) = .error e) :
    Ineffective σ (.notification n)
  | refusedNotification {n : Notification} {x : Message}
    (hx : x ∈ (σ.step (.notification n)).2) (hs : isNotification Method.showMessage x = true) :
    Ineffective σ (.notification n)

/-- What is left of a list when each of its elements is marked as kept or not. -/
def kept {α : Type} (xs : List (α × Bool)) : List α := (xs.filter (·.2)).map (·.1)

/-- The messages that are not kept are ineffective where they stand. -/
def Erasable (σ : Session) : List (Message × Bool) → Prop
  | [] => True
  | (m, keep) :: ms => (keep = false → Ineffective σ m) ∧ Erasable (σ.step m).1 ms

section Steps
variable {s : Server}

theorem step_request_of_not_shutsDown (h : s.Idle) {r : Request}
    (hr : Server.shutsDown r = false) : ((serving s).step (.request r)).1 = .serving s := by
  rw [step_serving_request h, hr, Bool.or_false]

theorem step_request_of_isShutDown (h : s.Idle) (r : Request) (hl : s.isShutDown = true) :
    ((serving s).step (.request r)).1 = .serving s := by
  have hlatch : (s.isShutDown || Server.shutsDown r) = s.isShutDown := by rw [hl, Bool.true_or]
  rw [step_serving_request h, hlatch]

theorem step_notification_of_operation? (h : s.Idle) {n : Notification}
    (hn : n.method ≠ Method.exit) (hop : Server.operation? s.config n = none) :
    ((serving s).step (.notification n)).1 = .serving s := by
  rw [step_serving_notification h hn, Server.notify_of_operation? hop]

/-- A notification that is reported was refused, and `exit` is not reported. -/
theorem step_notification_of_sent (h : s.Idle) {n : Notification} {x : Message}
    (hx : x ∈ ((serving s).step (.notification n)).2) :
    ((serving s).step (.notification n)).1 = .serving s := by
  by_cases hn : n.method = Method.exit
  · rw [step_serving_exit s hn] at hx
    cases hx
  rw [step_serving_notification h hn] at hx ⊢
  cases hr : s.refusal? n with
  | none =>
    rw [Server.sent_notify_of_none hr] at hx
    cases hx
  | some e => rw [Server.notify_of_refusal? hr]

theorem Ineffective.step_serving (h : s.Idle) {m : Message} (hm : Ineffective (.serving s) m) :
    ((serving s).step m).1 = .serving s := by
  have hdistinct : Method.documentText ≠ Method.shutdown ∧ Method.didOpen ≠ Method.exit ∧
    Method.didClose ≠ Method.exit ∧ Method.didChange ≠ Method.exit ∧
    Method.didClose ≠ Method.didOpen ∧ Method.didChange ≠ Method.didOpen ∧
    Method.didChange ≠ Method.didClose := by decide
  obtain ⟨hds, hoe, hce, hme, hco, hmo, hmc⟩ := hdistinct
  cases hm with
  | documentText hr => exact step_request_of_not_shutsDown h (Server.shutsDown_of_ne (hr ▸ hds))
  | unknownRequest hs hd => exact step_request_of_not_shutsDown h (Server.shutsDown_of_ne hs)
  | malformedShutdown hr hp =>
    refine step_request_of_not_shutsDown h ?_
    rw [Server.shutsDown_of_eq hr, hp]
    rfl
  | refusedRequest hx he hc =>
    rw [step_serving_request h] at hx
    obtain rfl := Message.response.inj (List.mem_singleton.1 hx)
    exact step_request_of_isShutDown h _ (Server.isShutDown_of_invalidRequest he hc)
  | response x => rw [step_serving_response h]
  | unknownNotification ho hc hm he =>
    refine step_notification_of_operation? h he ?_
    rw [Server.operation?, if_neg ho, if_neg hc, if_neg hm]
  | malformedOpen hn hp =>
    refine step_notification_of_operation? h (hn ▸ hoe) ?_
    rw [Server.operation?, if_pos hn, hp]
    rfl
  | malformedClose hn hp =>
    refine step_notification_of_operation? h (hn ▸ hce) ?_
    rw [Server.operation?, if_neg (hn ▸ hco), if_pos hn, hp]
    rfl
  | malformedChange hn hp =>
    refine step_notification_of_operation? h (hn ▸ hme) ?_
    rw [Server.operation?, if_neg (hn ▸ hmo), if_neg (hn ▸ hmc), if_pos hn, hp]
    rfl
  | refusedNotification hx hs => exact step_notification_of_sent h hx

end Steps

theorem Ineffective.step {σ : Session} {m : Message} (hm : Ineffective σ m) (h : σ.Begun) :
    (σ.step m).1 = σ := by
  cases h with
  | serving h => exact hm.step_serving h
  | closed => rfl

section Runs

theorem kept_cons_true {α : Type} (x : α) (xs : List (α × Bool)) :
    kept ((x, true) :: xs) = x :: kept xs := rfl

theorem kept_cons_false {α : Type} (x : α) (xs : List (α × Bool)) :
    kept ((x, false) :: xs) = kept xs := rfl

theorem run_kept {σ : Session} (h : σ.Begun) (ms : List (Message × Bool)) (he : Erasable σ ms) :
    σ.run (kept ms) = ((σ.run (ms.map (·.1))).1,
      kept ((σ.run (ms.map (·.1))).2.zip (ms.map (·.2)))) := by
  induction ms generalizing σ with
  | nil => rfl
  | cons m ms ih =>
    obtain ⟨m, _ | _⟩ := m
    · have hσ := (he.1 rfl).step h
      have hms := ih (h.step m) he.2
      rw [kept_cons_false, List.map_cons, run_cons, List.map_cons, List.zip_cons_cons,
        kept_cons_false, ← hms, hσ]
    · rw [kept_cons_true, run_cons, ih (h.step m) he.2]
      rfl

/-- **Ineffective messages may be left out.** Whichever of them are left out of the messages to a
session without a handshake, all others are answered as in the full run, and lead to the same
session. -/
theorem run_erased (c : Config) (ms : List (Message × Bool)) (he : Erasable (serve c) ms) :
    (serve c).run (kept ms) = (((serve c).run (ms.map (·.1))).1,
      kept (((serve c).run (ms.map (·.1))).2.zip (ms.map (·.2)))) :=
  run_kept (begun_serve c) ms he

def opening : Message := .notification ⟨Method.didOpen,
  .array [.array [.string "file:///wax", .string "hare", .int 1, .string "a"]]⟩

/-- The first change of the batch could be made, and the second is in a line that is not there. -/
def halfChanging : Message := .notification ⟨Method.didChange,
  .object [("textDocument", .array [.string "file:///wax", .int 2]),
    ("contentChanges", .array [.object [("text", .string "b")],
      .object [("range", .array [.array [.int 3, .int 0], .array [.int 3, .int 0]]),
        ("text", .string "c")]])]⟩

def asking (id : RequestId) : Message :=
  .request ⟨id, Method.documentText, .array [.string "file:///wax"]⟩

/-- The document is opened a second time, changed and asked for, and the session shut down a second
time. -/
def repeated : List (Message × Bool) := [(opening, true), (opening, false), (halfChanging, false),
  (asking (.number 1), false), (asking (.number 2), true),
  (.request ⟨.number 3, Method.shutdown, .null⟩, true),
  (.request ⟨.number 4, Method.shutdown, .null⟩, false), (halfChanging, true)]

theorem run_erased_repeated : Erasable (serve ⟨.reject, .strict⟩) repeated ∧
    (serve ⟨.reject, .strict⟩).run (kept repeated) =
      (((serve ⟨.reject, .strict⟩).run (repeated.map (·.1))).1, [[],
        [.response (.ok (.number 2) (.object [("languageId", .string "hare"), ("text", .string "a"),
          ("uri", .string "file:///wax"), ("version", .int 1)]))],
        [.response (.ok (.number 3) .null)],
        [.notification ⟨"window/showMessage", .object [("message", .string
          ("harels: textDocument/didChange refused: invalid position 3:0: " ++
            "line out of bounds (document has 1 lines)")), ("type", .int 1)]⟩]]) := by
  have he : Erasable (serve ⟨.reject, .strict⟩) repeated :=
    ⟨nofun, fun _ => .refusedNotification (.head _) rfl,
      fun _ => .refusedNotification (.head _) rfl, fun _ => .documentText rfl, nofun, nofun,
      fun _ => .refusedRequest (.head _) rfl rfl, nofun, trivial⟩
  refine ⟨he, (run_erased ⟨.reject, .strict⟩ repeated he).trans ?_⟩
  rfl

end Runs

end DocSync.Session
