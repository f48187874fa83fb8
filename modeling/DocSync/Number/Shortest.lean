import DocSync.Number.Double

/-! # Shortest decimals

The decimal with the fewest digits that rounds back to a given number, and of those the nearest; a
tie goes to the even digit.
-/

namespace DocSync

/-- The number `digits * 10 ^ exponent`. -/
structure Decimal where
  digits : Nat
  exponent : Int
  deriving DecidableEq, Repr

namespace Decimal

/-- The decimal as a fraction. -/
def ratio (d : Decimal) : Nat × Nat :=
  (d.digits * Double.power 10 d.exponent, Double.power 10 (-d.exponent))

/-- Without trailing zeros among the digits. -/
def strip (fuel : Nat) (d : Decimal) : Decimal :=
  match fuel with
  | 0 => d
  | n + 1 => if d.digits ≠ 0 ∧ d.digits % 10 = 0 then strip n ⟨d.digits / 10, d.exponent + 1⟩ else d

end Decimal

namespace Double

/-- The magnitude is the nearest one to the decimal. -/
def readsBack (x : Double) (d : Decimal) : Bool :=
  let (a, b) := d.ratio
  ofRatio a b = some { x with negative := false }

/-- The least `k` with `a / b < 10 ^ k`, at most `fuel` above `k`. -/
def scaleFrom (a b : Nat) : Nat → Int → Int
  | 0, k => k
  | n + 1, k => if a * power 10 (-k) < b * power 10 k then k else scaleFrom a b n (k + 1)

/-- The power of ten just above the magnitude, searched from an estimate that is not too large. -/
def scale (x : Double) : Int :=
  let (a, b) := x.ratio
  let bits : Int := x.significand.log2 + x.exponent
  scaleFrom a b 4 (bits * 30103 / 100000 - 1)

/-- Of the two decimals around the magnitude on the grid of `10 ^ e`, the nearest one that reads
back. -/
def onGrid (x : Double) (e : Int) : Option Decimal :=
  let (a, b) := x.ratio
  let n := a * power 10 (-e)
  let d := b * power 10 e
  let low : Decimal := ⟨n / d, e⟩
  let high : Decimal := ⟨n / d + 1, e⟩
  let near := if roundDiv n d = n / d then [low, high] else [high, low]
  near.find? x.readsBack

def shortestFrom (x : Double) (k : Int) : Nat → Nat → Decimal
  | 0, n => ⟨roundDiv (x.ratio.1 * power 10 (n - k)) (x.ratio.2 * power 10 (k - n)), k - n⟩
  | fuel + 1, n => match x.onGrid (k - n) with
    | some d => d
    | none => shortestFrom x k fuel (n + 1)

/-- The shortest decimal of the magnitude; seventeen digits are always enough. -/
def shortest (x : Double) : Decimal :=
  if x.isZero then ⟨0, 0⟩ else (shortestFrom x x.scale 17 1).strip 18

end Double
end DocSync
