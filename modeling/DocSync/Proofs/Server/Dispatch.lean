import DocSync.Server.Handler
import Mathlib.Tactic.Common

/-! # Messages and their handlers

What each handler of a chain does with a message: one of another method is passed on, one of its own
is taken, and behind the handler that has taken it nothing is left to do. With these equations a
chain of handlers is a case distinction on the method (`requests_eq`, `notifications_eq`).
-/

namespace DocSync.Server

@[simp] theorem run_take {ρ : Type} (x : Option ρ) :
    (take : Dispatch ρ (Option ρ)).run x = pure (x, none) := rfl

section Requests
variable {α β : Type} [Wire α] [Wire β] {method : String} {r : Request} {p : α} {m : Malformed}

theorem parse_none :
    (parse method : Dispatch Request (Option (RequestId × α))).run none = pure (none, none) := by
  simp [parse]

theorem parse_of_ne (h : r.method ≠ method) :
    (parse method : Dispatch Request (Option (RequestId × α))).run (some r) =
      pure (none, some r) := by
  simp [parse, h]

theorem parse_of_ok (h : r.method = method) (hp : Wire.decode method r.params = .ok p) :
    (parse method : Dispatch Request (Option (RequestId × α))).run (some r) =
      pure (some (r.id, p), none) := by
  simp [parse, h, hp]

/-- A request that does not read has been answered, and is not put back. -/
theorem parse_of_error (h : r.method = method)
    (hm : (Wire.decode method r.params : Except Malformed α) = .error m) :
    (parse method : Dispatch Request (Option (RequestId × α))).run (some r) =
      (fun _ => (none, none)) <$> answer (.failed r.id ErrorCode.invalidParams m.message) := by
  simp [parse, h, hm]

section OnSync
variable {handler : α → Handling β}

theorem onSync_of_ne (h : r.method ≠ method) :
    (onSync method handler).run (some r) = pure ((), some r) := by
  simp [onSync, parse_of_ne h]

theorem onSync_of_ok (h : r.method = method) (hp : Wire.decode method r.params = .ok p) :
    (onSync method handler).run (some r) = (fun _ => ((), none)) <$>
      ((observing (handler p) : Handling (Except Failure β)) >>= fun result =>
        answer (.ofResult r.id (result.map Wire.write))) := by
  simp [onSync, parse_of_ok h hp]

theorem onSync_of_error (h : r.method = method)
    (hm : (Wire.decode method r.params : Except Malformed α) = .error m) :
    (onSync method handler).run (some r) =
      (fun _ => ((), none)) <$> answer (.failed r.id ErrorCode.invalidParams m.message) := by
  simp [onSync, parse_of_error h hm]

end OnSync

section OnPool
variable {handler : Store → α → Except Failure β}

theorem onPool_none : (onPool method handler).run none = pure ((), none) := by
  simp [onPool, parse_none]

theorem onPool_of_ne (h : r.method ≠ method) :
    (onPool method handler).run (some r) = pure ((), some r) := by
  simp [onPool, parse_of_ne h]

theorem onPool_of_ok (h : r.method = method) (hp : Wire.decode method r.params = .ok p) :
    (onPool method handler).run (some r) = (fun _ => ((), none)) <$> update fun s =>
      { s with jobs := s.jobs ++ [⟨r.id, s.documents, fun t => (handler t p).map Wire.write⟩] } := by
  simp [onPool, parse_of_ok h hp]

theorem onPool_of_error (h : r.method = method)
    (hm : (Wire.decode method r.params : Except Malformed α) = .error m) :
    (onPool method handler).run (some r) =
      (fun _ => ((), none)) <$> answer (.failed r.id ErrorCode.invalidParams m.message) := by
  simp [onPool, parse_of_error h hm]

end OnPool

theorem finish_none : finish.run none = pure ((), none) := by
  simp [finish]

theorem finish_some : finish.run (some r) = (fun _ => ((), none)) <$>
    answer (.failed r.id ErrorCode.methodNotFound "unknown request") := by
  simp [finish]

/-- What the chain of the requests does with one. -/
theorem requests_eq (r : Request) : requests.run' (some r) =
    if r.method = Method.shutdown then
      match (Wire.decode Method.shutdown r.params : Except Malformed Unit) with
      | .ok p => do
        let result ← (observing (shutDown p) : Handling _)
        answer (.ofResult r.id (result.map Wire.write))
      | .error m => answer (.failed r.id ErrorCode.invalidParams m.message)
    else if r.method = Method.documentText then
      match (Wire.decode Method.documentText r.params : Except Malformed DocumentId) with
      | .ok p => update fun s => { s with
          jobs := s.jobs ++ [⟨r.id, s.documents, fun t => (t.documentText p).map Wire.write⟩] }
      | .error m => answer (.failed r.id ErrorCode.invalidParams m.message)
    else answer (.failed r.id ErrorCode.methodNotFound "unknown request") := by
  rw [StateT.run'_eq, requests, StateT.run_bind]
  by_cases hs : r.method = Method.shutdown
  · rw [if_pos hs]
    cases hp : (Wire.decode Method.shutdown r.params : Except Malformed Unit) with
    | ok p => simp [onSync_of_ok hs hp, onPool_none, finish_none]
    | error m => simp [onSync_of_error hs hp, onPool_none, finish_none]
  rw [if_neg hs]
  by_cases hd : r.method = Method.documentText
  · rw [if_pos hd]
    cases hp : (Wire.decode Method.documentText r.params : Except Malformed DocumentId) with
    | ok p => simp [onSync_of_ne hs, onPool_of_ok hd hp, finish_none]
    | error m => simp [onSync_of_ne hs, onPool_of_error hd hp, finish_none]
  · rw [if_neg hd]
    simp [onSync_of_ne hs, onPool_of_ne hd, finish_some]

end Requests

section Notifications
variable {α : Type} [Wire α] {method : String} {n : Notification} {handler : α → Handling Unit}

theorem on_none : (on method handler).run none = pure ((), none) := by
  simp [on]

theorem on_of_ne (h : n.method ≠ method) :
    (on method handler).run (some n) = pure ((), some n) := by
  simp [on, h]

theorem on_of_ok {p : α} (h : n.method = method) (hp : Wire.read n.params = .ok p) :
    (on method handler).run (some n) = (fun _ => ((), none)) <$> handler p := by
  simp [on, h, hp]

/-- A notification that does not read is dropped, and not put back. -/
theorem on_of_error {e : DecodeError} (h : n.method = method)
    (he : (Wire.read n.params : Except DecodeError α) = .error e) :
    (on method handler).run (some n) = pure ((), none) := by
  simp [on, h, he]

/-- What the chain of the notifications does with one. -/
theorem notifications_eq (n : Notification) : notifications.run' (some n) =
    if n.method = Method.didOpen then
      match (Wire.read n.params : Except DecodeError DidOpen) with
      | .ok p => didOpen p
      | .error _ => pure ()
    else if n.method = Method.didClose then
      match (Wire.read n.params : Except DecodeError DidClose) with
      | .ok p => didClose p
      | .error _ => pure ()
    else if n.method = Method.didChange then
      match (Wire.read n.params : Except DecodeError DidChange) with
      | .ok p => didChange p
      | .error _ => pure ()
    else pure () := by
  rw [StateT.run'_eq, notifications, StateT.run_bind]
  by_cases ho : n.method = Method.didOpen
  · rw [if_pos ho]
    cases hp : (Wire.read n.params : Except DecodeError DidOpen) with
    | ok p => simp [on_of_ok ho hp, on_none]
    | error e => simp [on_of_error ho hp, on_none]
  rw [if_neg ho]
  by_cases hc : n.method = Method.didClose
  · rw [if_pos hc]
    cases hp : (Wire.read n.params : Except DecodeError DidClose) with
    | ok p => simp [on_of_ne ho, on_of_ok hc hp, on_none]
    | error e => simp [on_of_ne ho, on_of_error hc hp, on_none]
  rw [if_neg hc]
  by_cases hm : n.method = Method.didChange
  · rw [if_pos hm]
    cases hp : (Wire.read n.params : Except DecodeError DidChange) with
    | ok p => simp [on_of_ne ho, on_of_ne hc, on_of_ok hm hp]
    | error e => simp [on_of_ne ho, on_of_ne hc, on_of_error hm hp]
  · rw [if_neg hm]
    simp [on_of_ne ho, on_of_ne hc, on_of_ne hm]

end Notifications

end DocSync.Server
