/-! # Binary floating-point numbers

Finite numbers of 53 significant bits, kept as a sign, a significand and a power of two. Every
operation is the exact one followed by one rounding to the nearest number, where a tie goes to the
even significand; a result that is too large is none.
-/

namespace DocSync

/-- The number `± significand * 2 ^ exponent`. Rounding makes the significand less than `2 ^ 53` and
the exponent at least `-1074`, and as small as both bounds allow. -/
structure Double where
  negative : Bool
  significand : Nat
  exponent : Int
  deriving DecidableEq, Repr

namespace Double

def leastExponent : Int := -1074
def greatestExponent : Int := 971

/-- Two to the 53: significands are less. -/
def significandLimit : Nat := 0x20000000000000

/-- The power `b ^ e`, or one for a negative `e`: the power itself is the fraction
`power b e / power b (-e)`. -/
def power (b : Nat) (e : Int) : Nat := Nat.pow b e.toNat

def zero : Double := ⟨false, 0, leastExponent⟩

def neg (x : Double) : Double := { x with negative := !x.negative }

def isZero (x : Double) : Bool := x.significand = 0

/-- The quotient to the nearest whole number, a tie to the even one. -/
def roundDiv (a b : Nat) : Nat :=
  let q := a / b
  let r := a % b
  if 2 * r < b ∨ 2 * r = b ∧ q % 2 = 0 then q else q + 1

/-- The quotient `a / (b * 2 ^ e)` as a fraction. -/
def scaled (a b : Nat) (e : Int) : Nat × Nat := (a * power 2 (-e), b * power 2 e)

/-- The least exponent that leaves the whole part of `a / b` no more than 53 bits. -/
def fittingExponent (a b : Nat) : Int :=
  let guess : Int := max leastExponent ((a.log2 : Int) - (b.log2 : Int) - 53)
  let (n, d) := scaled a b guess
  if n / d < significandLimit then guess else guess + 1

/-- The number nearest to `a / b`. -/
def ofRatio (a b : Nat) : Option Double :=
  let e := fittingExponent a b
  let (n, d) := scaled a b e
  let m := roundDiv n d
  let (m, e) := if m = significandLimit then (significandLimit / 2, e + 1) else (m, e)
  if greatestExponent < e then none else some ⟨false, m, e⟩

def ofNat (n : Nat) : Option Double := ofRatio n 1

/-- The magnitude as a fraction. -/
def ratio (x : Double) : Nat × Nat := (x.significand * power 2 x.exponent, power 2 (-x.exponent))

def mul (x y : Double) : Option Double :=
  let (a, b) := x.ratio
  let (c, d) := y.ratio
  (ofRatio (a * c) (b * d)).map ({ · with negative := x.negative != y.negative })

def div (x y : Double) : Option Double :=
  let (a, b) := x.ratio
  let (c, d) := y.ratio
  if c = 0 then none
  else (ofRatio (a * d) (b * c)).map ({ · with negative := x.negative != y.negative })

end Double
end DocSync
