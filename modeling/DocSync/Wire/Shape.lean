import DocSync.Json.Basic
import DocSync.Uri.Basic

/-! # Shapes of JSON values

A shape says which JSON values stand for the values of a type, and `Shape.Value` is that type. The
types of a record's fields come from its shape, so a value of a record is the tuple of its fields.
-/

namespace DocSync

/-- How an optional field without a value is written, and whether an array may end before it. -/
inductive Omission where
  | asNull
  | dropped
  | trailing
  deriving DecidableEq, Repr

mutual
inductive Shape where
  | any
  | unit
  | bool
  | int32
  | uint32
  | string
  | uri
  /-- One of some words, which may also be the only key of an object, over `null`. -/
  | choice (variants : List String)
  | list (item : Shape)
  | record (name : String) (fields : Fields)
  /-- A record that takes over the fields of another one; it is no array. -/
  | extended (name : String) (fields extra : Fields)
  /-- The first shape, or else the second. A value that fits neither is reported under the name of
  the choice, or as the second shape reports it. -/
  | either (name : Option String) (first second : Shape)

inductive Fields where
  | nil
  | required (key : String) (shape : Shape) (rest : Fields)
  /-- A field that may be `null` or, in an object, missing. -/
  | optional (key : String) (shape : Shape) (omission : Omission) (rest : Fields)
end

mutual
@[reducible] def Shape.Value : Shape → Type
  | .any => Json
  | .unit => Unit
  | .bool => Bool
  | .int32 => Int32
  | .uint32 => UInt32
  | .string => String
  | .uri => Uri
  | .choice variants => Fin variants.length
  | .list item => List item.Value
  | .record _ fields => fields.Value
  | .extended _ fields extra => fields.Value × extra.Value
  | .either _ first second => first.Value ⊕ second.Value

@[reducible] def Fields.Value : Fields → Type
  | .nil => Unit
  | .required _ shape rest => shape.Value × rest.Value
  | .optional _ shape _ rest => Option shape.Value × rest.Value
end

end DocSync
