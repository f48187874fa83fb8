/-! # Similar words

Two words are similar by the characters that they share at nearly the same places. With `m` shared
characters, of which half of `t` stand out of order, the similarity is the mean of `m` over either
length and of `m - t / 2` over `m`.
-/

namespace DocSync.Text

/-- Pairs the characters of a word, the first of which is at `i`, with equal characters of another
one no more than `range` places away, each taken once. The result marks what was taken. -/
def pairUp (range : Nat) (other : List Char) : Nat → List Char → List Bool → List Bool × List Bool
  | _, [], taken => ([], taken)
  | i, c :: cs, taken =>
    let fits (j : Nat) : Bool := i - range ≤ j && j < i + range + 1 &&
      other[j]? == some c && taken[j]? == some false
    match (List.range other.length).find? fits with
    | some j =>
      let (paired, taken) := pairUp range other (i + 1) cs (taken.set j true)
      (true :: paired, taken)
    | none =>
      let (paired, taken) := pairUp range other (i + 1) cs taken
      (false :: paired, taken)

def selected (cs : List Char) (marks : List Bool) : List Char :=
  ((cs.zip marks).filter (·.2)).map (·.1)

/-- The similarity as a fraction; words that share nothing have none. -/
def similarity (a b : List Char) : Nat × Nat :=
  let range := max a.length b.length / 2 - 1
  let (inA, inB) := pairUp range b 0 a (List.replicate b.length false)
  let sharedA := selected a inA
  let sharedB := selected b inB
  let m := sharedA.length
  let t := ((sharedA.zip sharedB).filter fun (c, d) => c ≠ d).length / 2
  if m = 0 then (0, 1)
  else (m * m * b.length + m * m * a.length + (m - t) * a.length * b.length,
    3 * m * a.length * b.length)

def isSimilar (a b : List Char) : Bool :=
  let (n, d) := similarity a b
  7 * d ≤ 10 * n

/-- The most similar of some words, and the last one of those, if any is similar enough. -/
def mostSimilar (a : String) (words : List String) : Option String :=
  (words.filter fun w => isSimilar a.toList w.toList).foldl (fun best w => match best with
    | none => some w
    | some v =>
      let (n, d) := similarity a.toList v.toList
      let (n', d') := similarity a.toList w.toList
      if n * d' ≤ n' * d then some w else some v) none

end DocSync.Text
