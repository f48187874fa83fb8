import DocSync.Wire.Shape

/-! # Writing by a shape

A record is written as an object in normal form. A field without a value is left out or written as
`null`, as its shape says.
-/

namespace DocSync

mutual
def Shape.write : (s : Shape) → s.Value → Json
  | .any, j => j
  | .unit, () => .null
  | .bool, b => .bool b
  | .int32, n => .int n.toInt
  | .uint32, n => .int n.toNat
  | .string, s => .string s
  | .uri, u => .string u.text
  | .choice variants, i => .string variants[i]
  | .list item, vs => .array (vs.map item.write)
  | .record _ fs, v => .ofMembers (fs.write v)
  | .extended _ fs extra, (v, w) => .ofMembers (fs.write v ++ extra.write w)
  | .either _ first second, v => match v with
    | .inl v => first.write v
    | .inr v => second.write v

def Fields.write : (fs : Fields) → fs.Value → Json.Members
  | .nil, () => []
  | .required key shape rest, (v, w) => (key, shape.write v) :: rest.write w
  | .optional key shape omission rest, (v, w) => match v, omission with
    | some v, _ => (key, shape.write v) :: rest.write w
    | none, .asNull => (key, .null) :: rest.write w
    | none, _ => rest.write w
end

end DocSync
