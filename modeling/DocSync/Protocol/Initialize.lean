import DocSync.Protocol.Capabilities
import DocSync.Wire.Basic

/-! # The parameters of the first request

Of all that a client says about itself, only its options for the server are used; but all of it has
to have its shape.
-/

namespace DocSync.Initialize

def paramsFields : Fields :=
  .optional "processId" .uint32 .dropped <|
  .optional "rootPath" .string .dropped <|
  .optional "rootUri" .uri .trailing <|
  .optional "initializationOptions" .any .dropped <|
  .required "capabilities" Capabilities.shape <|
  .optional "trace" (.choice ["off", "messages", "verbose"]) .trailing <|
  .optional "workspaceFolders"
    (.list (.record "WorkspaceFolder" (.required "uri" .uri (.required "name" .string .nil))))
    .dropped <|
  .optional "clientInfo"
    (.record "ClientInfo" (.required "name" .string (.optional "version" .string .dropped .nil)))
    .dropped <|
  .optional "locale" .string .dropped .nil

def progressFields : Fields :=
  .optional "workDoneToken" (.either (some "NumberOrString") .int32 .string) .dropped .nil

def paramsShape : Shape := .extended "InitializeParams" paramsFields progressFields

def options : paramsShape.Value → Option Json
  | ((_, _, _, options, _), _) => options

/-- The options in the parameters of the request. -/
def readOptions (params : Json) : Except DecodeError (Option Json) :=
  (paramsShape.read params).map options

/-- What the server answers: changes are taken as ranges, and the text of a document can be asked
for. -/
def result : Json :=
  .ofMembers [
    ("capabilities", .ofMembers [
      ("experimental", .ofMembers [("documentTextProvider", .bool true)]),
      ("textDocumentSync", .ofMembers [("openClose", .bool true), ("change", .int 2)])]),
    ("serverInfo", .ofMembers [("name", .string "harels"), ("version", .string "0.1.0")])]

end DocSync.Initialize
