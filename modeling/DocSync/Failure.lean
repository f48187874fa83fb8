import DocSync.Protocol.Method
import DocSync.Store.Error

/-! # Failures

What goes wrong in the server beside a message that is refused: the store has refused a call, or
something else has happened, of which only the message is left.
-/

namespace DocSync

inductive Failure where
  | store (cause : StoreError)
  | internal (message : String)

/-- What the store refuses is the fault of the client, and everything else is ours. -/
def Failure.code : Failure → Int32
  | .store _ => ErrorCode.invalidParams
  | .internal _ => ErrorCode.internalError

def Failure.message : Failure → String
  | .store cause => cause.message
  | .internal message => message

end DocSync
