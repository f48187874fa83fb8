import DocSync.Server.Handler

/-! # Schedules

Jobs run beside the server, so messages, finishing jobs and deliveries may come in any order. A
schedule is such an order, up to the notification `exit` or the end of the connection, after which
the server takes nothing any more; what is sent depends on it only by when, not by what.
-/

namespace DocSync.Server

inductive Turn where
  | receive (m : Message)
  | finishJob (i : Nat)
  | deliver

def turn : Turn → Handling Unit
  | .receive m => handle m
  | .finishJob i => update (·.finishJob i)
  | .deliver => perform deliver

/-- The turns of a schedule, up to one that fails. -/
def runTurns (ts : List Turn) : Handling Unit := ts.forM turn

/-- The requests whose jobs have not been delivered. -/
def pending (s : Server) : List RequestId := s.jobs.map (·.id) ++ s.finished.map (·.id)

end DocSync.Server
