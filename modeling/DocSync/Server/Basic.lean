import DocSync.Config
import DocSync.Protocol.Document
import DocSync.Protocol.Message

/-! # The server

The server owns the store and takes one message at a time. What it does with a message is a handler:
it works on the server in place, sends messages on its way and may fail, and what it has done before
a failure stays done. A job of a request holds the documents of the moment at which the request came
in. It may finish at any later time, and its response is sent if the request is still in flight.
-/

namespace DocSync

def Response.ok (id : RequestId) (result : Json) : Response := ⟨id, some result, none⟩

def Response.failed (id : RequestId) (code : Int32) (message : String) : Response :=
  ⟨id, none, some ⟨code, message, none⟩⟩

def Response.ofResult (id : RequestId) : Except Failure Json → Response
  | .ok result => .ok id result
  | .error e => .failed id e.code e.message

/-- The work on a request that is done beside the server. -/
structure Job where
  id : RequestId
  /-- The documents as they were when the request came in. -/
  documents : Store
  handler : Store → Except Failure Json

def Job.run (j : Job) : Response := .ofResult j.id (j.handler j.documents)

structure Server where
  config : Config
  documents : Store
  isShutDown : Bool
  /-- The requests that have not been answered. -/
  inFlight : List RequestId
  jobs : List Job
  /-- The responses of finished jobs, in the order in which they finished. -/
  finished : List Response

/-- The server after some work, and the messages sent in it. -/
abbrev Server.Step := Server × List Message

/-- Work of the server, behind the messages that it has already sent. -/
abbrev Server.Handling := EStateM Failure Server.Step

namespace Server

def start (c : Config) : Server := ⟨c, .empty c.versionPolicy, false, [], [], []⟩

section Handling

/-- Does a step, which never fails. -/
def perform (f : Server → Step) : Handling Unit :=
  modify fun (s, sent) => ((f s).1, sent ++ (f s).2)

def update (f : Server → Server) : Handling Unit := perform (f ·, [])

def send (m : Message) : Handling Unit := perform (·, [m])

def current : Handling Server := return (← get).1

@[simp] theorem run_perform (f : Server → Step) (s : Server) (sent : List Message) :
    (perform f).run (s, sent) = .ok () ((f s).1, sent ++ (f s).2) := rfl

@[simp] theorem run_update (f : Server → Server) (s : Server) (sent : List Message) :
    (update f).run (s, sent) = .ok () (f s, sent) := by
  rw [update, run_perform, List.append_nil]

@[simp] theorem run_send (m : Message) (s : Server) (sent : List Message) :
    (send m).run (s, sent) = .ok () (s, sent ++ [m]) := rfl

@[simp] theorem run_current (s : Server) (sent : List Message) :
    current.run (s, sent) = .ok s (s, sent) := rfl

end Handling

section Responses

def register (s : Server) (id : RequestId) : Server :=
  { s with inFlight := id :: s.inFlight.filter (· ≠ id) }

/-- Sends a response, if its request is still in flight. -/
def respond (s : Server) (r : Response) : Step :=
  if r.id ∈ s.inFlight then
    ({ s with inFlight := s.inFlight.filter (· ≠ r.id) }, [.response r])
  else (s, [])

def answer (r : Response) : Handling Unit := perform (·.respond r)

/-- Job `i` finishes. -/
def finishJob (s : Server) (i : Nat) : Server :=
  match s.jobs[i]? with
  | some j => { s with jobs := s.jobs.eraseIdx i, finished := s.finished ++ [j.run] }
  | none => s

/-- The first response of a finished job is sent. -/
def deliver (s : Server) : Step :=
  match s.finished with
  | r :: rs => { s with finished := rs }.respond r
  | [] => (s, [])

def deliverTimes : Nat → Server → Step
  | 0, s => (s, [])
  | n + 1, s =>
    let (s, sent) := s.deliver
    let (s, more) := s.deliverTimes n
    (s, sent ++ more)

/-- All jobs finish in their order, and then all responses are sent. -/
def settle (s : Server) : Step :=
  let s := { s with jobs := [], finished := s.finished ++ s.jobs.map Job.run }
  s.deliverTimes s.finished.length

end Responses

end Server
end DocSync
