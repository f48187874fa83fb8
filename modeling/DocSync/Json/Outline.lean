import DocSync.Json.Number
import DocSync.Text.Quoted

/-! # The outline of a value

Diagnostics show a value with the kind of each part.
-/

namespace DocSync.Json

mutual
def outline : Json → String
  | .null => "Null"
  | .bool b => if b then "Bool(true)" else "Bool(false)"
  | .int n => "Number(" ++ toString n ++ ")"
  | .float x => "Number(" ++ floatText x ++ ")"
  | .string s => "String(" ++ Text.quoted s ++ ")"
  | .array vs => "Array [" ++ itemOutlines vs ++ "]"
  | .object ms => "Object \x7b" ++ memberOutlines ms ++ "\x7d"

def itemOutlines : List Json → String
  | [] => ""
  | [v] => outline v
  | v :: vs => outline v ++ ", " ++ itemOutlines vs

def memberOutlines : Members → String
  | [] => ""
  | [(k, v)] => Text.quoted k ++ ": " ++ outline v
  | (k, v) :: ms => Text.quoted k ++ ": " ++ outline v ++ ", " ++ memberOutlines ms
end

end DocSync.Json
