import DocSync.Server.Basic

/-! # Dispatchers

A message is offered to one handler after the other. A dispatcher holds it until a handler takes it;
a handler of another method puts it back, and one whose parameters cannot be read does not. A
request that is still there at the end is answered as unknown, a notification is left alone.
-/

namespace DocSync.Server

/-- Work of the server on a message, as long as no handler has taken it. -/
abbrev Dispatch (ρ : Type) := StateT (Option ρ) Handling

def take {ρ : Type} : Dispatch ρ (Option ρ) := modifyGet (·, none)

section Requests

/-- Takes a request of a method, with its parameters. Without their shape the request is answered at
once. -/
def parse {α : Type} [Wire α] (method : String) : Dispatch Request (Option (RequestId × α)) := do
  match ← take with
  | none => return none
  | some r =>
    if r.method = method then
      match (Wire.decode method r.params : Except Malformed α) with
      | .ok p => return some (r.id, p)
      | .error m =>
        answer (.failed r.id ErrorCode.invalidParams m.message)
        return none
    else
      set (some r)
      return none

/-- Answers a request of a method at once. A handler that fails is no failure of the server. -/
def onSync {α β : Type} [Wire α] [Wire β] (method : String) (handler : α → Handling β) :
    Dispatch Request Unit := do
  match ← parse method with
  | none => return
  | some (id, p) =>
    let result ← (observing (handler p) : Handling (Except Failure β))
    answer (.ofResult id (result.map Wire.write))

/-- Leaves a request of a method to a job, with the documents of this moment. -/
def onPool {α β : Type} [Wire α] [Wire β] (method : String)
    (handler : Store → α → Except Failure β) : Dispatch Request Unit := do
  match ← parse method with
  | none => return
  | some (id, p) =>
    update fun s =>
      { s with jobs := s.jobs ++ [⟨id, s.documents, fun t => (handler t p).map Wire.write⟩] }

def finish : Dispatch Request Unit := do
  match ← take with
  | none => return
  | some r => answer (.failed r.id ErrorCode.methodNotFound "unknown request")

end Requests

/-- Handles a notification of a method. Without the shape of its parameters it is dropped. -/
def on {α : Type} [Wire α] (method : String) (handler : α → Handling Unit) :
    Dispatch Notification Unit := do
  match ← take with
  | none => return
  | some n =>
    if n.method = method then
      match (Wire.read n.params : Except DecodeError α) with
      | .ok p => handler p
      | .error _ => return
    else set (some n)

end DocSync.Server
