import DocSync.Server.Dispatch

/-! # Handlers

Notifications change the store at once, and the user is told of one that the store refuses. A
request for the text of a document is left to a job. Once the server has been asked to shut down it
refuses all requests.
-/

namespace DocSync

def Snapshot.toDocumentText (s : Snapshot) : DocumentText :=
  ⟨s.uri, s.languageId, s.version, String.ofList s.text⟩

/-- The handler of the request for the text of a document. -/
def Store.documentText (s : Store) (d : DocumentId) : Except Failure DocumentText :=
  match s.snapshot d.uri with
  | .ok x => .ok x.toDocumentText
  | .error e => .error (.store e)

namespace Server

section Notifications

/-- Runs a method of the store in place: what it leaves of the documents is kept on both ways out. -/
def onDocuments (x : EStateM StoreError Store Unit) : Handling (Except StoreError Unit) :=
  fun (s, sent) => match x.run s.documents with
    | .ok () documents => .ok (.ok ()) ({ s with documents }, sent)
    | .error e documents => .ok (.error e) ({ s with documents }, sent)

/-- The report that a notification was refused, for the user to see. -/
def refusal (method : String) (e : StoreError) : Message :=
  .notification ⟨Method.showMessage, .ofMembers [
    ("type", .int 1), ("message", .string ("harels: " ++ method ++ " refused: " ++ e.message))]⟩

def reportRefused (method : String) : Except StoreError Unit → Handling Unit
  | .ok () => return
  | .error e => send (refusal method e)

def didOpen (p : DidOpen) : Handling Unit := do
  let u := p.document.uri
  let d := p.document.toDocument
  let result ← match (← current).config.reopen with
    | .reject => onDocuments (Store.openNew u d)
    | .replace => onDocuments (modify (·.reopen u d))
  reportRefused Method.didOpen result

def didClose (p : DidClose) : Handling Unit := do
  reportRefused Method.didClose (← onDocuments (Store.close p.document.uri))

def didChange (p : DidChange) : Handling Unit := do
  let cs := p.changes.map (·.toChange)
  reportRefused Method.didChange
    (← onDocuments (Store.change p.document.uri p.document.version cs))

def notifications : Dispatch Notification Unit := do
  on Method.didOpen didOpen
  on Method.didClose didClose
  on Method.didChange didChange

def onNotification (n : Notification) : Handling Unit := notifications.run' (some n)

end Notifications

section Requests

/-- The handler of the request to shut down. -/
def shutDown (_ : Unit) : Handling Unit := update ({ · with isShutDown := true })

def requests : Dispatch Request Unit := do
  onSync Method.shutdown shutDown
  onPool Method.documentText Store.documentText
  finish

def onRequest (r : Request) : Handling Unit := do
  update (·.register r.id)
  if (← current).isShutDown then
    answer (.failed r.id ErrorCode.invalidRequest "shutdown was requested")
  else requests.run' (some r)

end Requests

/-- Takes a message. The server sends no requests, so responses are not for it. -/
def handle : Message → Handling Unit
  | .request r => onRequest r
  | .response _ => return
  | .notification n => onNotification n

/-- Takes a message and answers it before anything else happens. -/
def step (m : Message) : Handling Unit := do
  handle m
  perform settle

end Server
end DocSync
