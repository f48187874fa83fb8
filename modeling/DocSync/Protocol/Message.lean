import DocSync.Wire.Basic
import DocSync.Json.Outline

/-! # Messages

A request asks for a response with its own id; a notification does not. A value is read as the first
of request, response and notification that it fits.
-/

namespace DocSync

inductive RequestId where
  | number (n : Int32)
  | name (s : String)
  deriving DecidableEq

structure Request where
  id : RequestId
  method : String
  params : Json

structure ResponseError where
  code : Int32
  message : String
  data : Option Json

structure Response where
  id : RequestId
  result : Option Json
  error : Option ResponseError

structure Notification where
  method : String
  params : Json

inductive Message where
  | request (r : Request)
  | response (r : Response)
  | notification (n : Notification)

section Shapes

def RequestId.shape : Shape := .either (some "IdRepr") .int32 .string

def RequestId.ofValue : RequestId.shape.Value → RequestId
  | .inl n => .number n
  | .inr s => .name s

def RequestId.toValue : RequestId → RequestId.shape.Value
  | .number n => .inl n
  | .name s => .inr s

def Request.shape : Shape :=
  .record "Request"
    (.required "id" RequestId.shape (.required "method" .string
      (.optional "params" .any .trailing .nil)))

def ResponseError.shape : Shape :=
  .record "ResponseError"
    (.required "code" .int32 (.required "message" .string (.optional "data" .any .dropped .nil)))

def ResponseError.ofValue : ResponseError.shape.Value → ResponseError
  | (code, message, data, ()) => ⟨code, message, data⟩

def ResponseError.toValue (e : ResponseError) : ResponseError.shape.Value :=
  (e.code, e.message, e.data, ())

def Response.shape : Shape :=
  .record "Response"
    (.required "id" RequestId.shape (.optional "result" .any .dropped
      (.optional "error" ResponseError.shape .dropped .nil)))

def Notification.shape : Shape :=
  .record "Notification" (.required "method" .string (.optional "params" .any .trailing .nil))

def Message.shape : Shape :=
  .either (some "Message") Request.shape
    (.either (some "Message") Response.shape Notification.shape)

/-- Parameters that are `null` are left out. -/
def optionalParams : Json → Option Json
  | .null => none
  | j => some j

theorem getD_optionalParams (j : Json) : (optionalParams j).getD .null = j := by cases j <;> rfl

def Message.ofValue : Message.shape.Value → Message
  | .inl (id, method, params, ()) =>
    .request ⟨RequestId.ofValue id, method, params.getD .null⟩
  | .inr (.inl (id, result, error, ())) =>
    .response ⟨RequestId.ofValue id, result, error.map ResponseError.ofValue⟩
  | .inr (.inr (method, params, ())) => .notification ⟨method, params.getD .null⟩

def Message.toValue : Message → Message.shape.Value
  | .request r => .inl (r.id.toValue, r.method, optionalParams r.params, ())
  | .response r => .inr (.inl (r.id.toValue, r.result, r.error.map ResponseError.toValue, ()))
  | .notification n => .inr (.inr (n.method, optionalParams n.params, ()))

theorem RequestId.ofValue_toValue (i : RequestId) : RequestId.ofValue i.toValue = i := by
  cases i <;> rfl

instance : Wire Message where
  shape := Message.shape
  ofValue := Message.ofValue
  toValue := Message.toValue
  ofValue_toValue m := by
    match m with
    | .request r =>
      simp only [Message.ofValue, Message.toValue, RequestId.ofValue_toValue, getD_optionalParams]
    | .response ⟨id, result, error⟩ =>
      cases error <;> simp only [Message.ofValue, Message.toValue, RequestId.ofValue_toValue] <;> rfl
    | .notification n => simp only [Message.ofValue, Message.toValue, getD_optionalParams]

end Shapes

section Outline

def RequestId.outline : RequestId → String
  | .number n => "RequestId(I32(" ++ toString n.toInt ++ "))"
  | .name s => "RequestId(String(" ++ Text.quoted s ++ "))"

def outlineOption (f : α → String) : Option α → String
  | none => "None"
  | some x => "Some(" ++ f x ++ ")"

def Request.outline (r : Request) : String :=
  "Request \x7b id: " ++ r.id.outline ++ ", method: " ++ Text.quoted r.method ++ ", params: " ++
    r.params.outline ++ " \x7d"

def ResponseError.outline (e : ResponseError) : String :=
  "ResponseError \x7b code: " ++ toString e.code.toInt ++ ", message: " ++ Text.quoted e.message ++
    ", data: " ++ outlineOption Json.outline e.data ++ " \x7d"

def Response.outline (r : Response) : String :=
  "Response \x7b id: " ++ r.id.outline ++ ", result: " ++ outlineOption Json.outline r.result ++
    ", error: " ++ outlineOption ResponseError.outline r.error ++ " \x7d"

def Notification.outline (n : Notification) : String :=
  "Notification \x7b method: " ++ Text.quoted n.method ++ ", params: " ++ n.params.outline ++ " \x7d"

/-- How diagnostics show a message. -/
def Message.outline : Message → String
  | .request r => "Request(" ++ r.outline ++ ")"
  | .response r => "Response(" ++ r.outline ++ ")"
  | .notification n => "Notification(" ++ n.outline ++ ")"

end Outline
end DocSync
