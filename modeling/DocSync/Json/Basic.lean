import DocSync.Number.Double

/-! # JSON values

Whole numbers are kept apart from floating-point ones: `1` and `1.0` are different values. An object
is the list of its members. In normal form the keys are distinct and in the order of their
characters; of several members with one key the last one counts.
-/

namespace DocSync

inductive Json where
  | null
  | bool (b : Bool)
  | int (n : Int)
  | float (x : Double)
  | string (s : String)
  | array (items : List Json)
  | object (members : List (String × Json))
  deriving Repr, Inhabited, BEq

namespace Json

abbrev Members := List (String × Json)

/-- Puts a member in its place among members in normal form. -/
def insert (k : String) (v : Json) : Members → Members
  | [] => [(k, v)]
  | (l, w) :: ms =>
    if k = l then (k, v) :: ms
    else if k < l then (k, v) :: (l, w) :: ms
    else (l, w) :: insert k v ms

mutual
/-- The value with all its objects in normal form. -/
def normalize : Json → Json
  | .array items => .array (normalizeItems items)
  | .object ms => .object (normalizeMembers [] ms)
  | .null => .null
  | .bool b => .bool b
  | .int n => .int n
  | .float x => .float x
  | .string s => .string s

def normalizeItems : List Json → List Json
  | [] => []
  | v :: vs => normalize v :: normalizeItems vs

def normalizeMembers (done : Members) : Members → Members
  | [] => done
  | (k, v) :: ms => normalizeMembers (insert k (normalize v) done) ms
end

/-- An object in normal form, of members that are. -/
def ofMembers (ms : Members) : Json := .object (ms.foldl (fun done (k, v) => insert k v done) [])

end Json
end DocSync
