import DocSync.Json.Basic
import DocSync.Number.Shortest

/-! # JSON numbers

Reading: a number without fraction and exponent that fits 64 bits is whole, except `-0`. Any other
one is `s * 10 ^ e`, where `s` takes the digits as long as it fits 64 bits; it is read with one
rounding for `s`, one for the power and one for their product or quotient. Writing uses the
shortest decimal, positionally as long as the point is close to the digits.
-/

namespace DocSync.Json

section Reading

def isDigit (c : Char) : Bool := c.isDigit

def digitValue (c : Char) : Nat := c.toNat - 48

/-- The digits of a significand up to the first one with which it would not fit 64 bits, and the
number of digits left over. -/
def significand (s : Nat) : List Char → Nat × Nat
  | [] => (s, 0)
  | c :: cs =>
    if UInt64.size ≤ s * 10 + digitValue c then (s, (c :: cs).length)
    else significand (s * 10 + digitValue c) cs

/-- Powers of ten beyond this one are taken in several steps. -/
def greatestPower : Nat := 308

def power? (k : Nat) : Option Double := Double.ofNat (Double.power 10 k)

/-- `x * 10 ^ e`, a quotient for negative `e`; none if it is too large. -/
def scale (fuel : Nat) (x : Double) (e : Int) : Option Double :=
  if e.natAbs ≤ greatestPower then do
    let p ← power? e.natAbs
    if 0 ≤ e then x.mul p else x.div p
  else if x.isZero then some x
  else if 0 ≤ e then none
  else match fuel with
    | 0 => some Double.zero
    | n + 1 => do scale n (← x.div (← power? greatestPower)) (e + greatestPower)

/-- The parts of a number as it is written. -/
structure Numeral where
  negative : Bool
  whole : List Char
  fraction : List Char
  exponent : Option (Bool × List Char)
  deriving DecidableEq, Repr

def exponentLimit : Nat := 0x80000000

/-- An exponent of 32 bits or more leaves only zero or nothing. -/
def Numeral.toDouble (n : Numeral) : Option Double := do
  let (s, dropped) := significand 0 n.whole
  let (s, e) : Nat × Int :=
    let (s', rest) := significand s n.fraction
    (s', dropped - (n.fraction.length - rest : Nat))
  let x ← match n.exponent with
    | none => scale 4 (← Double.ofNat s) e
    | some (negative, digits) =>
      let k := digits.foldl (fun k c => k * 10 + digitValue c) 0
      if exponentLimit ≤ k then
        if s ≠ 0 ∧ ¬ negative then none else some Double.zero
      else scale 4 (← Double.ofNat s) (if negative then e - k else e + k)
  return if n.negative then x.neg else x

def Numeral.toJson (n : Numeral) : Option Json :=
  let k := n.whole.foldl (fun k c => k * 10 + digitValue c) 0
  if n.fraction = [] ∧ n.exponent = none ∧
      (if n.negative then 0 < k ∧ 2 * k ≤ UInt64.size else k < UInt64.size) then
    some (.int (if n.negative then -k else k))
  else n.toDouble.map .float

end Reading

section Writing

def zeros (n : Nat) : String := String.ofList (List.replicate n '0')

/-- Digits and a power of ten, positionally if the point stands at most 16 places behind the first
digit and at most 5 before it, and with an exponent otherwise. -/
def layout (digits : String) (e : Int) : String :=
  let n := digits.length
  let point : Int := n + e
  if 0 ≤ e ∧ point ≤ 16 then digits ++ zeros e.toNat ++ ".0"
  else if 0 < point ∧ point ≤ 16 then
    String.ofList (digits.toList.take point.toNat) ++ "." ++
      String.ofList (digits.toList.drop point.toNat)
  else if -5 < point ∧ point ≤ 0 then "0." ++ zeros (-point).toNat ++ digits
  else if n = 1 then digits ++ "e" ++ toString (point - 1)
  else String.ofList (digits.toList.take 1) ++ "." ++ String.ofList (digits.toList.drop 1) ++
    "e" ++ toString (point - 1)

def floatText (x : Double) : String :=
  let sign := if x.negative then "-" else ""
  if x.isZero then sign ++ "0.0"
  else
    let d := x.shortest
    sign ++ layout (toString d.digits) d.exponent

end Writing
end DocSync.Json
