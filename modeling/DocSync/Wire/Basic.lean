import DocSync.Wire.Shape.Reader
import DocSync.Wire.Shape.Writer

/-! # Types with a JSON form

A type goes over the wire by its shape. Nothing of a value is lost on the way into the shape.
-/

namespace DocSync

class Wire (α : Type) where
  shape : Shape
  ofValue : shape.Value → α
  toValue : α → shape.Value
  ofValue_toValue : ∀ x, ofValue (toValue x) = x

namespace Wire
variable {α : Type} [Wire α]

def read (j : Json) : Except DecodeError α := ((shape α).read j).map ofValue

def write (x : α) : Json := (shape α).write (toValue x)

end Wire

/-- A value that was expected to be `what` and is not. -/
structure Malformed where
  what : String
  cause : DecodeError
  value : Json

def Malformed.message (m : Malformed) : String :=
  "could not deserialize " ++ m.what ++ ": " ++ m.cause.message ++ " - " ++ m.value.compact

/-- Reads a value, for a reader who is told what it was expected to be. -/
def Wire.decode {α : Type} [Wire α] (what : String) (j : Json) : Except Malformed α :=
  match Wire.read j with
  | .ok x => .ok x
  | .error e => .error ⟨what, e, j⟩

instance : Wire Unit := ⟨.unit, id, id, fun _ => rfl⟩

instance : Wire Uri := ⟨.uri, id, id, fun _ => rfl⟩

end DocSync
