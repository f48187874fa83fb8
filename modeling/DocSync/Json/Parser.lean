import DocSync.Json.Number

/-! # Reading JSON

The grammar of JSON texts, without leading zeros, comments or trailing commas. A value may be nested
only so deep. Members of objects are left in the order in which they stand.
-/

namespace DocSync.Json

def isBlank (c : Char) : Bool := c = ' ' || c = '\n' || c = '\t' || c = '\r'

def skipBlanks (cs : List Char) : List Char := cs.dropWhile isBlank

section Strings

def hexValue? (c : Char) : Option Nat :=
  if c.isDigit then some (c.toNat - 48)
  else if 'a' ≤ c ∧ c ≤ 'f' then some (c.toNat - 87)
  else if 'A' ≤ c ∧ c ≤ 'F' then some (c.toNat - 55)
  else none

def hexUnit? (a b c d : Char) : Option Nat := do
  return (((← hexValue? a) * 16 + (← hexValue? b)) * 16 + (← hexValue? c)) * 16 + (← hexValue? d)

def shortEscape? : Char → Option Char
  | '"' => some '"'
  | '\\' => some '\\'
  | '/' => some '/'
  | 'b' => some '\x08'
  | 'f' => some '\x0c'
  | 'n' => some '\n'
  | 'r' => some '\r'
  | 't' => some '\t'
  | _ => none

/-- The character of one code unit, unless it is a surrogate. -/
def ofUnit? (u : Nat) : Option Char :=
  if h : u.isValidChar then some (Char.ofNatAux u h) else none

/-- The character of a surrogate pair. -/
def ofPair? (high low : Nat) : Option Char :=
  if 0xD800 ≤ high ∧ high < 0xDC00 ∧ 0xDC00 ≤ low ∧ low < 0xE000 then
    ofUnit? (0x10000 + (high - 0xD800) * 0x400 + (low - 0xDC00))
  else none

/-- The characters of a string up to its closing quote, and the text behind it. -/
def stringBody : List Char → Option (List Char × List Char)
  | '"' :: cs => some ([], cs)
  | '\\' :: 'u' :: a :: b :: c :: d :: cs => do
    let u ← hexUnit? a b c d
    match ofUnit? u with
    | some x =>
      let (s, rest) ← stringBody cs
      return (x :: s, rest)
    | none => match cs with
      | '\\' :: 'u' :: e :: f :: g :: h :: cs =>
        let x ← ofPair? u (← hexUnit? e f g h)
        let (s, rest) ← stringBody cs
        return (x :: s, rest)
      | _ => none
  | '\\' :: c :: cs => do
    let x ← shortEscape? c
    let (s, rest) ← stringBody cs
    return (x :: s, rest)
  | c :: cs => if c.toNat < 0x20 then none else do
    let (s, rest) ← stringBody cs
    return (c :: s, rest)
  | [] => none

end Strings

section Numbers

/-- A whole part has no leading zero. -/
def wholePart? (cs : List Char) : Option (List Char × List Char) :=
  match cs.takeWhile isDigit, cs.dropWhile isDigit with
  | [], _ => none
  | '0' :: _ :: _, _ => none
  | ds, rest => some (ds, rest)

def fractionPart? : List Char → Option (List Char × List Char)
  | '.' :: cs => match cs.takeWhile isDigit, cs.dropWhile isDigit with
    | [], _ => none
    | ds, rest => some (ds, rest)
  | cs => some ([], cs)

def exponentPart? : List Char → Option (Option (Bool × List Char) × List Char)
  | c :: cs =>
    if c = 'e' ∨ c = 'E' then
      let (negative, cs) : Bool × List Char := match cs with
        | '-' :: cs => (true, cs)
        | '+' :: cs => (false, cs)
        | cs => (false, cs)
      match cs.takeWhile isDigit, cs.dropWhile isDigit with
      | [], _ => none
      | ds, rest => some (some (negative, ds), rest)
    else some (none, c :: cs)
  | [] => some (none, [])

def number? (cs : List Char) : Option (Json × List Char) := do
  let (negative, cs) : Bool × List Char := match cs with
    | '-' :: cs => (true, cs)
    | cs => (false, cs)
  let (whole, cs) ← wholePart? cs
  let (fraction, cs) ← fractionPart? cs
  let (exponent, cs) ← exponentPart? cs
  return (← Numeral.toJson ⟨negative, whole, fraction, exponent⟩, cs)

end Numbers

def expect? (word cs : List Char) : Option (List Char) :=
  if word.isPrefixOf cs then some (cs.drop word.length) else none

mutual
/-- One value at the front of a text. `depth` counts the nestings that are still allowed and `fuel`
the steps; two for each character are always enough. -/
def value? (depth : Nat) : Nat → List Char → Option (Json × List Char)
  | 0, _ => none
  | fuel + 1, cs => match skipBlanks cs with
    | 'n' :: cs => (expect? ['u', 'l', 'l'] cs).map (Json.null, ·)
    | 't' :: cs => (expect? ['r', 'u', 'e'] cs).map (Json.bool true, ·)
    | 'f' :: cs => (expect? ['a', 'l', 's', 'e'] cs).map (Json.bool false, ·)
    | '"' :: cs => (stringBody cs).map fun (s, cs) => (.string (String.ofList s), cs)
    | '[' :: cs =>
      if depth = 0 then none
      else match skipBlanks cs with
        | ']' :: cs => some (.array [], cs)
        | cs => (items? (depth - 1) fuel cs).map fun (vs, cs) => (.array vs, cs)
    | '\x7b' :: cs =>
      if depth = 0 then none
      else match skipBlanks cs with
        | '\x7d' :: cs => some (.object [], cs)
        | cs => (members? (depth - 1) fuel cs).map fun (ms, cs) => (.object ms, cs)
    | cs => number? cs

/-- Items up to the closing bracket; there is at least one. -/
def items? (depth : Nat) : Nat → List Char → Option (List Json × List Char)
  | 0, _ => none
  | fuel + 1, cs => do
    let (v, cs) ← value? depth fuel cs
    match skipBlanks cs with
    | ',' :: cs =>
      let (vs, cs) ← items? depth fuel cs
      return (v :: vs, cs)
    | ']' :: cs => return ([v], cs)
    | _ => none

/-- Members up to the closing brace; there is at least one. -/
def members? (depth : Nat) : Nat → List Char → Option (Members × List Char)
  | 0, _ => none
  | fuel + 1, cs => match skipBlanks cs with
    | '"' :: cs => do
      let (k, cs) ← stringBody cs
      match skipBlanks cs with
      | ':' :: cs =>
        let (v, cs) ← value? depth fuel cs
        match skipBlanks cs with
        | ',' :: cs =>
          let (ms, cs) ← members? depth fuel cs
          return ((String.ofList k, v) :: ms, cs)
        | '\x7d' :: cs => return ([(String.ofList k, v)], cs)
        | _ => none
      | _ => none
    | _ => none
end

/-- A text that is one value and nothing else but blanks. -/
def parse? (depth : Nat) (cs : List Char) : Option Json := do
  let (v, rest) ← value? depth (2 * cs.length + 1) cs
  if skipBlanks rest = [] then some v else none

end DocSync.Json
