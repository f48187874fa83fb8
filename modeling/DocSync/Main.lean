import DocSync.Cli.Service

/-! # The program

Reads standard input as it comes in and writes what the service sends.
-/

namespace DocSync.Cli

def logFile : String := "harels.log"

def keepLog : IO Unit := IO.FS.withFile logFile .append fun _ => pure ()

def chunkSize : USize := 65536

partial def serve (input output : IO.FS.Stream) (s : Service) : IO Service := do
  let bytes ← input.read chunkSize
  if bytes.isEmpty then return s
  let (s, sent) := s.feed bytes.toList
  for m in sent do output.putStr (Frame.ofMessage m)
  output.flush
  if s.stopped then return s else serve input output s

end DocSync.Cli

open DocSync.Cli in
def main (arguments : List String) : IO UInt32 := do
  match parse arguments with
  | .serve log =>
    if log then keepLog
    let s ← serve (← IO.getStdin) (← IO.getStdout) Service.start
    return s.exitCode.toUInt32
  | _ =>
    let r := run arguments []
    (← IO.getStdout).putStr r.output
    (← IO.getStderr).putStr r.errors
    return r.exitCode.toUInt32
