import DocSync.Json.Number

/-! # Writing JSON

The compact form: no blanks, members in the order of the object, every character outside the control
range as it is.
-/

namespace DocSync.Json

def hexDigit (n : Nat) : Char := if n < 10 then Char.ofNat (48 + n) else Char.ofNat (87 + n)

def escapeChar (c : Char) : List Char :=
  if c = '"' then ['\\', '"']
  else if c = '\\' then ['\\', '\\']
  else if c = '\x08' then ['\\', 'b']
  else if c = '\x0c' then ['\\', 'f']
  else if c = '\n' then ['\\', 'n']
  else if c = '\r' then ['\\', 'r']
  else if c = '\t' then ['\\', 't']
  else if c.toNat < 0x20 then
    ['\\', 'u', '0', '0', hexDigit (c.toNat / 16), hexDigit (c.toNat % 16)]
  else [c]

def quote (s : String) : List Char := '"' :: s.toList.flatMap escapeChar ++ ['"']

mutual
def chars : Json → List Char
  | .null => "null".toList
  | .bool b => (if b then "true" else "false").toList
  | .int n => (toString n).toList
  | .float x => (floatText x).toList
  | .string s => quote s
  | .array vs => '[' :: itemChars vs
  | .object ms => '\x7b' :: memberChars ms

/-- The items and the closing bracket. -/
def itemChars : List Json → List Char
  | [] => [']']
  | [v] => chars v ++ [']']
  | v :: vs => chars v ++ ',' :: itemChars vs

/-- The members and the closing brace. -/
def memberChars : Members → List Char
  | [] => ['\x7d']
  | [(k, v)] => quote k ++ ':' :: chars v ++ ['\x7d']
  | (k, v) :: ms => quote k ++ ':' :: chars v ++ ',' :: memberChars ms
end

def compact (v : Json) : String := String.ofList (chars v)

end DocSync.Json
