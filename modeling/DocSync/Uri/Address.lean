/-! # Numeric host addresses

The textual forms of 4-part and 8-group addresses. An 8-group address may leave out one run of zero
groups, written `::`, and may end in a 4-part address, which stands for two groups.
-/

namespace DocSync.Uri

def isHexDigit (c : Char) : Bool :=
  c.isDigit || ('a' ≤ c && c ≤ 'f') || ('A' ≤ c && c ≤ 'F')

/-- The pieces between the characters `c`; there is always one more of them than there are of
those. -/
def splitAt (c : Char) : List Char → List (List Char)
  | [] => [[]]
  | d :: s => if d = c then [] :: splitAt c s else (splitAt c s).modifyHead (d :: ·)

/-- The text before the first `::` and the text after it. -/
def splitElision : List Char → Option (List Char × List Char)
  | ':' :: ':' :: s => some ([], s)
  | c :: s => (splitElision s).map fun (a, b) => (c :: a, b)
  | [] => none

/-- A decimal number up to 255 without leading zeros. -/
def isOctet (s : List Char) : Bool :=
  s.all Char.isDigit && 0 < s.length && s.length ≤ 3 && (s.length = 1 || s.head? != some '0') &&
    s.foldl (fun n c => n * 10 + (c.toNat - 48)) 0 ≤ 255

def isQuad (s : List Char) : Bool :=
  let parts := splitAt '.' s
  parts.length = 4 && parts.all isOctet

def isGroup (s : List Char) : Bool := s.all isHexDigit && 0 < s.length && s.length ≤ 4

/-- The number of groups that a list of pieces stands for, if all are well formed; only the last
piece may be a 4-part address. -/
def groupCount : List (List Char) → Option Nat
  | [] => some 0
  | [p] => if isGroup p then some 1 else if isQuad p then some 2 else none
  | p :: ps => if isGroup p then (groupCount ps).map (· + 1) else none

/-- The pieces of one side of an address; an empty side has none. -/
def pieces (s : List Char) : List (List Char) := if s.isEmpty then [] else splitAt ':' s

def isAddress (s : List Char) : Bool :=
  match splitElision s with
  | none => groupCount (splitAt ':' s) = some 8
  | some (a, b) =>
    (pieces a).all isGroup &&
      ((groupCount (pieces b)).any fun n => (pieces a).length + n ≤ 7)

end DocSync.Uri
