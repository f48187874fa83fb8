import DocSync.Wire.DecodeError
import DocSync.Wire.Shape

/-! # Reading by a shape

A record is read from an object or from the array of its fields. The members of an object are read
in their order, so the first bad one is reported; fields that are missing are reported after that,
in the order of the record.
-/

namespace DocSync

/-- The fields of a record that have been read so far. -/
@[reducible] def Fields.Slots : Fields → Type
  | .nil => Unit
  | .required _ shape rest => Option shape.Value × rest.Slots
  | .optional _ shape _ rest => Option (Option shape.Value) × rest.Slots

namespace Fields

def empty : (fs : Fields) → fs.Slots
  | .nil => ()
  | .required _ _ rest => (none, rest.empty)
  | .optional _ _ _ rest => (none, rest.empty)

/-- The record, once every member has been read. -/
def finish : (fs : Fields) → fs.Slots → Except DecodeError fs.Value
  | .nil, () => .ok ()
  | .required key _ _, (none, _) => .error (.missingField key)
  | .required _ _ rest, (some v, slots) => do return (v, ← rest.finish slots)
  | .optional _ _ _ rest, (v, slots) => do return (v.join, ← rest.finish slots)

def size : Fields → Nat
  | .nil => 0
  | .required _ _ rest => rest.size + 1
  | .optional _ _ _ rest => rest.size + 1

def describe (name : String) (fs : Fields) : String :=
  "struct " ++ name ++ " with " ++ toString fs.size ++
    (if fs.size = 1 then " element" else " elements")

end Fields

def readInt (least greatest : Int) (name : String) : Json → Except DecodeError Int
  | .int n => if least ≤ n ∧ n ≤ greatest then .ok n else .error (.invalidValue (.int n) name)
  | j => .error (.invalidType j name)

def readUri : Json → Except DecodeError Uri
  | .string s => match Uri.parse s with
    | .ok u => .ok u
    | .error e => .error (.invalidUri e)
  | j => .error (.invalidType j "a string")

def readVariant (variants : List String) (s : String) : Except DecodeError (Fin variants.length) :=
  match variants.finIdxOf? s with
  | some i => .ok i
  | none => .error (.unknownVariant s variants)

def readChoice (variants : List String) : Json → Except DecodeError (Fin variants.length)
  | .string s => readVariant variants s
  | .object [(s, j)] => do
    let i ← readVariant variants s
    match j with
    | .null => return i
    | j => throw (.invalidType j "unit")
  | .object ms => .error (.invalidValue (.object ms) "map with a single key")
  | j => .error (.invalidType j "string or map")

mutual
def Shape.read : (s : Shape) → Json → Except DecodeError s.Value
  | .any, j => .ok j.normalize
  | .unit, j => match j with
    | .null => .ok ()
    | j => .error (.invalidType j "unit")
  | .bool, j => match j with
    | .bool b => .ok b
    | j => .error (.invalidType j "a boolean")
  | .int32, j => (readInt (-0x80000000) 0x7fffffff "i32" j).map Int32.ofInt
  | .uint32, j => (readInt 0 0xffffffff "u32" j).map fun n => .ofNat n.toNat
  | .string, j => match j with
    | .string s => .ok s
    | j => .error (.invalidType j "a string")
  | .uri, j => readUri j
  | .choice variants, j => readChoice variants j
  | .list item, j => match j with
    | .array vs => vs.mapM item.read
    | j => .error (.invalidType j "a sequence")
  | .record name fs, j => match j with
    | .object ms => do
      fs.finish (← ms.foldlM (fun slots (k, v) => fs.readMember k v slots) fs.empty)
    | .array vs => do
      let (v, rest) ← fs.readItems (fs.describe name) 0 vs
      if rest = 0 then return v
      else throw (.invalidLength vs.length "fewer elements in array")
    | j => .error (.invalidType j ("struct " ++ name))
  | .extended name fs extra, j => match j with
    | .object ms => do
      let v ← fs.finish (← ms.foldlM (fun slots (k, v) => fs.readMember k v slots) fs.empty)
      let w ← extra.finish (← ms.foldlM (fun slots (k, v) => extra.readMember k v slots) extra.empty)
      return (v, w)
    | j => .error (.invalidType j ("struct " ++ name))
  | .either name first second, j =>
    match first.read j with
    | .ok v => .ok (.inl v)
    | .error _ => match second.read j, name with
      | .ok v, _ => .ok (.inr v)
      | .error _, some name => .error (.noAlternative name)
      | .error e, none => .error e

/-- Reads a member into the field of its key. Other members are passed over. -/
def Fields.readMember : (fs : Fields) → String → Json → fs.Slots → Except DecodeError fs.Slots
  | .nil, _, _, () => .ok ()
  | .required key shape rest, k, j, (slot, slots) =>
    if k = key then
      if slot.isSome then .error (.duplicateField key)
      else do return (some (← shape.read j), slots)
    else do return (slot, ← rest.readMember k j slots)
  | .optional key shape _ rest, k, j, (slot, slots) =>
    if k = key then
      if slot.isSome then .error (.duplicateField key)
      else match j with
        | .null => .ok (some none, slots)
        | j => do return (some (some (← shape.read j)), slots)
    else do return (slot, ← rest.readMember k j slots)

/-- Reads the fields from the front of an array, of which `i` items have been read, and counts the
items that are left. -/
def Fields.readItems (expected : String) : (fs : Fields) → Nat → List Json →
    Except DecodeError (fs.Value × Nat)
  | .nil, _, vs => .ok ((), vs.length)
  | .required _ shape rest, i, vs => match vs with
    | [] => .error (.invalidLength i expected)
    | j :: js => do
      let v ← shape.read j
      let (w, n) ← rest.readItems expected (i + 1) js
      return ((v, w), n)
  | .optional _ shape omission rest, i, vs => match vs, omission with
    | [], .trailing => do
      let (w, n) ← rest.readItems expected i []
      return ((none, w), n)
    | [], _ => .error (.invalidLength i expected)
    | .null :: js, _ => do
      let (w, n) ← rest.readItems expected (i + 1) js
      return ((none, w), n)
    | j :: js, _ => do
      let v ← shape.read j
      let (w, n) ← rest.readItems expected (i + 1) js
      return ((some v, w), n)
end

end DocSync
