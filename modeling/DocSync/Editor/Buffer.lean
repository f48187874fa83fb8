import DocSync.Text.Position

/-! # Buffers of an editor

An editor on the other side keeps a text as an array of UTF-16 code units. It finds its lines by a
scan of its own, counts characters in units and replaces units, so it shares no index with the
server.
-/

namespace DocSync.Editor

abbrev Units := List UInt16

def lineFeed : UInt16 := 10
def carriageReturn : UInt16 := 13

def isBreak (u : UInt16) : Bool := u = lineFeed || u = carriageReturn

def isHigh (u : UInt16) : Bool := 0xD800 ≤ u && u < 0xDC00
def isLow (u : UInt16) : Bool := 0xDC00 ≤ u && u < 0xE000

/-- Where lines start behind unit `i`, at which the rest of the buffer begins. A return and a feed
behind it end one line. -/
def startsFrom (i : Nat) : Units → List Nat
  | [] => []
  | u :: us =>
    if u = carriageReturn ∧ us.head? = some lineFeed then startsFrom (i + 1) us
    else if isBreak u then (i + 1) :: startsFrom (i + 1) us
    else startsFrom (i + 1) us

def lineStarts (us : Units) : List Nat := 0 :: startsFrom 0 us

/-- The number of units of the line that starts at `i`, up to its terminator. -/
def lineLength (us : Units) (i : Nat) : Nat := ((us.drop i).takeWhile (! isBreak ·)).length

/-- Between the two halves of a surrogate pair. -/
def splitsPair (us : Units) (i : Nat) : Bool :=
  0 < i && us[i - 1]?.any isHigh && us[i]?.any isLow

/-- The unit at a position that the editor may send: its line exists, its character is on the line,
and it splits no pair. -/
def address? (us : Units) (p : Position) : Option Nat := do
  let start ← (lineStarts us)[p.line.toNat]?
  let i := start + p.character.toNat
  if p.character.toNat ≤ lineLength us start ∧ ¬ splitsPair us i then some i else none

/-- Puts other units in the place of a range. -/
def replace? (us : Units) (r : Range) (w : Units) : Option Units := do
  let i ← address? us r.start
  let j ← address? us r.stop
  if i ≤ j then some (us.take i ++ w ++ us.drop j) else none

end DocSync.Editor
