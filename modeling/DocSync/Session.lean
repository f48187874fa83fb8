import DocSync.Protocol.Initialize
import DocSync.Server.Handler

/-! # Sessions

A session begins with a handshake: a request `initialize`, its response and a notification
`initialized`. After it the server takes every message up to `exit`, or up to a message on which it
fails.
-/

namespace DocSync

/-- How a session ends. -/
inductive Ending where
  | done
  | expectedInitialize (found : Message)
  | expectedInitialized (found : Message)
  | disconnected
  | invalidParams (cause : DecodeError)
  | failed (cause : Failure)

def Ending.message : Ending → String
  | .done => "ok"
  | .expectedInitialize found => "expected initialize request, got " ++ found.outline
  | .expectedInitialized found => "expected initialized notification, got: " ++ found.outline
  | .disconnected => "disconnected channel"
  | .invalidParams cause => cause.message
  | .failed cause => cause.message

inductive Session where
  | waiting
  /-- The request `initialize` has been answered. -/
  | greeted (config : Config)
  | serving (server : Server)
  | closed (ending : Ending)

namespace Session

/-- A session without a handshake. -/
def serve (c : Config) : Session := .serving (.start c)

def onInitialize (r : Request) : Session × List Message :=
  match Initialize.readOptions r.params with
  | .error e => (.closed (.invalidParams e), [])
  | .ok options => match (options.forM Config.update).run .initial with
    | .error e _ => (.closed (.failed e), [])
    | .ok () config => (.greeted config, [.response (.ok r.id Initialize.result)])

def onWaiting : Message → Session × List Message
  | .request r =>
    if r.method = Method.handshake then onInitialize r
    else (.waiting, [.response (.failed r.id ErrorCode.notInitialized
      ("expected initialize request, got " ++ r.outline))])
  | .notification n =>
    if n.method = Method.exit then (.closed (.expectedInitialize (.notification n)), [])
    else (.waiting, [])
  | .response r => (.closed (.expectedInitialize (.response r)), [])

def isNotification (method : String) : Message → Bool
  | .notification n => n.method = method
  | _ => false

def step : Session → Message → Session × List Message
  | .waiting, m => onWaiting m
  | .greeted c, m =>
    if isNotification Method.initialized m then (serve c, [])
    else (.closed (.expectedInitialized m), [])
  | .serving s, m =>
    if isNotification Method.exit m then (.closed .done, [])
    else match (Server.step m).run (s, []) with
      | .ok () (s, sent) => (.serving s, sent)
      | .error e (_, sent) => (.closed (.failed e), sent)
  | .closed e, _ => (.closed e, [])

/-- How the session ends if the connection is dropped. -/
def finish : Session → Ending
  | .waiting => .disconnected
  | .greeted _ => .disconnected
  | .serving _ => .done
  | .closed e => e

def isClosed : Session → Bool
  | .closed _ => true
  | _ => false

/-- The session after some messages, and what was sent for each. -/
def run : Session → List Message → Session × List (List Message)
  | s, [] => (s, [])
  | s, m :: ms =>
    let (s, sent) := s.step m
    let (s, more) := s.run ms
    (s, sent :: more)

end Session
end DocSync
