import DocSync.Cli.Arguments
import DocSync.Cli.Frame
import DocSync.Session

/-! # The service on a byte stream

Bytes come in parts; whenever they make up a frame, its message goes to the session. The service
stops reading after `exit`, at a frame that is none, and when the session is closed.
-/

namespace DocSync.Cli

structure Service where
  session : Session
  /-- The bytes that have been read and make up no frame yet. -/
  buffer : List UInt8
  stopped : Bool
  failed : Bool

namespace Service

def start : Service := ⟨.waiting, [], false, false⟩

def take (s : Service) (m : Message) (rest : List UInt8) : Service × List Message :=
  let (session, sent) := s.session.step m
  (⟨session, rest, Session.isNotification Method.exit m || session.isClosed, false⟩, sent)

/-- Handles the frames at the front of the buffer, at most `fuel` of them. -/
def drain : Nat → Service → Service × List Message
  | 0, s => (s, [])
  | fuel + 1, s =>
    if s.stopped then (s, [])
    else match Frame.front s.buffer with
      | .incomplete _ => (s, [])
      | .malformed => ({ s with stopped := true, failed := true }, [])
      | .body body rest => match Frame.message? body with
        | none => ({ s with stopped := true, failed := true }, [])
        | some m =>
          let (s, sent) := s.take m rest
          let (s, more) := s.drain fuel
          (s, sent ++ more)

/-- More bytes come in. A frame has at least one byte, so all frames are handled. -/
def feed (s : Service) (bytes : List UInt8) : Service × List Message :=
  let s := { s with buffer := s.buffer ++ bytes }
  s.drain (s.buffer.length + 1)

/-- The stream has ended: the service did well if no frame was cut short and the session ended
well. -/
def succeeds (s : Service) : Bool :=
  let complete := s.stopped || match Frame.front s.buffer with
    | .incomplete mayEnd => mayEnd
    | _ => false
  complete && !s.failed && match s.session.finish with
    | .done => true
    | _ => false

end Service

/-- What a run of the program does. -/
structure Report where
  exitCode : Nat
  /-- Whether a log file is kept. -/
  log : Bool
  output : String
  errors : String
  deriving DecidableEq, Repr

def Service.exitCode (s : Service) : Nat := if s.succeeds then 0 else 1

/-- A run over a whole stream. A command line that does not ask for the service is answered without
looking at the stream. -/
def run (arguments : List String) (input : List UInt8) : Report :=
  match parse arguments with
  | .serve log =>
    let (s, sent) := Service.start.feed input
    ⟨s.exitCode, log, String.join (sent.map Frame.ofMessage), ""⟩
  | .help => ⟨0, false, helpText, ""⟩
  | .version => ⟨0, false, versionText, ""⟩
  | .refuse e => ⟨2, false, "", e.message⟩

end DocSync.Cli
