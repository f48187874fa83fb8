/-! # Methods and error codes

The names of the requests and notifications that have a meaning here, and the codes of refused
requests.
-/

namespace DocSync

namespace Method
def handshake := "initialize"
def initialized := "initialized"
def shutdown := "shutdown"
def exit := "exit"
def documentText := "harels/documentText"
def didOpen := "textDocument/didOpen"
def didClose := "textDocument/didClose"
def didChange := "textDocument/didChange"
def showMessage := "window/showMessage"
end Method

namespace ErrorCode
def notInitialized : Int32 := -32002
def invalidRequest : Int32 := -32600
def methodNotFound : Int32 := -32601
def invalidParams : Int32 := -32602
def internalError : Int32 := -32603
end ErrorCode

end DocSync
