import DocSync.Json.Printer
import DocSync.Text.Quoted
import DocSync.Uri.Grammar

/-! # Why a JSON value has the wrong shape -/

namespace DocSync

inductive DecodeError where
  | invalidType (found : Json) (expected : String)
  | invalidValue (found : Json) (expected : String)
  | invalidLength (length : Nat) (expected : String)
  | unknownVariant (name : String) (variants : List String)
  | missingField (key : String)
  | duplicateField (key : String)
  /-- None of the shapes that a value may have fits it. -/
  | noAlternative (name : String)
  | invalidUri (refusal : Uri.Refusal)

namespace DecodeError

/-- The kind of a value, and the value itself where it is short. -/
def kind : Json → String
  | .null => "null"
  | .bool b => if b then "boolean `true`" else "boolean `false`"
  | .int n => "integer `" ++ toString n ++ "`"
  | .float x => "floating point `" ++ Json.floatText x ++ "`"
  | .string s => "string " ++ Text.quoted s
  | .array _ => "sequence"
  | .object _ => "map"

def ticked (s : String) : String := "`" ++ s ++ "`"

def oneOf : List String → String
  | [] => "there are no variants"
  | [a] => "expected " ++ ticked a
  | [a, b] => "expected " ++ ticked a ++ " or " ++ ticked b
  | names => "expected one of " ++ String.intercalate ", " (names.map ticked)

def message : DecodeError → String
  | .invalidType found expected => "invalid type: " ++ kind found ++ ", expected " ++ expected
  | .invalidValue found expected => "invalid value: " ++ kind found ++ ", expected " ++ expected
  | .invalidLength n expected => "invalid length " ++ toString n ++ ", expected " ++ expected
  | .unknownVariant name variants => "unknown variant " ++ ticked name ++ ", " ++ oneOf variants
  | .missingField key => "missing field " ++ ticked key
  | .duplicateField key => "duplicate field " ++ ticked key
  | .noAlternative name => "data did not match any variant of untagged enum " ++ name
  | .invalidUri refusal => refusal.message

end DecodeError
end DocSync
