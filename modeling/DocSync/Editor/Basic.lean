import DocSync.Editor.Buffer
import DocSync.Protocol.Document
import DocSync.Protocol.Message
import DocSync.Protocol.Method
import DocSync.Config
import DocSync.Text.Encoding

/-! # An editor

What a client keeps of its open documents, and the notifications that it may send: it opens only
what it has not open, changes and closes only what it has, and its ranges fit the buffer that the
changes before them left. Under the strict policy its versions grow.
-/

namespace DocSync

/-- An open document of an editor. -/
structure Editor.Buffer where
  languageId : String
  version : Int32
  units : Editor.Units
  deriving DecidableEq

/-- The open documents of an editor. -/
abbrev Editor := Uri → Option Editor.Buffer

namespace Editor

inductive Action where
  | opens (p : DidOpen)
  | changes (p : DidChange)
  | closes (p : DidClose)
  deriving DecidableEq

/-- By which messages the server learns of an action: their parameters read as those of the action,
in whatever form they are written. -/
inductive Action.Tells : Action → Message → Prop where
  | opens {p : DidOpen} {j : Json} (h : Wire.read j = .ok p) :
    Tells (.opens p) (.notification ⟨Method.didOpen, j⟩)
  | changes {p : DidChange} {j : Json} (h : Wire.read j = .ok p) :
    Tells (.changes p) (.notification ⟨Method.didChange, j⟩)
  | closes {p : DidClose} {j : Json} (h : Wire.read j = .ok p) :
    Tells (.closes p) (.notification ⟨Method.didClose, j⟩)

def none : Editor := fun _ => .none

def set (e : Editor) (u : Uri) (b : Option Buffer) : Editor := fun v => if v = u then b else e v

def change? (us : Units) (c : ContentChange) : Option Units :=
  match c.range with
  | .none => some (Text.units c.text.toList)
  | some r => replace? us r (Text.units c.text.toList)

/-- The editor after an action, if it is one that the editor may take. -/
def act? (policy : VersionPolicy) (e : Editor) : Action → Option Editor
  | .opens ⟨d⟩ =>
    if (e d.uri).isNone then
      some (e.set d.uri (some ⟨d.languageId, d.version, Text.units d.text.toList⟩))
    else .none
  | .changes ⟨d, cs⟩ => do
    let b ← e d.uri
    if policy = .strict ∧ ¬ b.version < d.version then .none
    else
      let us ← cs.foldlM change? b.units
      some (e.set d.uri (some { b with version := d.version, units := us }))
  | .closes ⟨d⟩ => if (e d.uri).isSome then some (e.set d.uri .none) else .none

def actAll? (policy : VersionPolicy) (e : Editor) (as : List Action) : Option Editor :=
  as.foldlM (act? policy) e

end Editor
end DocSync
