import DocSync.Failure
import DocSync.Wire.Basic

/-! # Configuration

Options are given as JSON. Each key that is given replaces the one set before it; a value that does
not read as options is ignored as a whole.
-/

namespace DocSync

/-- What opening a document that is already open does: it is refused, or the document replaced. -/
inductive ReopenPolicy where
  | reject
  | replace
  deriving DecidableEq, Repr, Inhabited

structure Config where
  reopen : ReopenPolicy
  versionPolicy : VersionPolicy
  deriving DecidableEq, Repr

structure Options where
  reopen : Option ReopenPolicy
  versionPolicy : Option VersionPolicy
  deriving DecidableEq, Repr

def ReopenPolicy.shape : Shape := .choice ["reject", "replace"]

def ReopenPolicy.ofValue : ReopenPolicy.shape.Value → ReopenPolicy
  | ⟨0, _⟩ => .reject
  | ⟨_, _⟩ => .replace

def ReopenPolicy.toValue : ReopenPolicy → ReopenPolicy.shape.Value
  | .reject => (0 : Fin 2)
  | .replace => (1 : Fin 2)

instance : Wire ReopenPolicy where
  shape := ReopenPolicy.shape
  ofValue := ReopenPolicy.ofValue
  toValue := ReopenPolicy.toValue
  ofValue_toValue p := by cases p <;> rfl

def VersionPolicy.shape : Shape := .choice ["overwrite", "strict"]

def VersionPolicy.ofValue : VersionPolicy.shape.Value → VersionPolicy
  | ⟨0, _⟩ => .overwrite
  | ⟨_, _⟩ => .strict

def VersionPolicy.toValue : VersionPolicy → VersionPolicy.shape.Value
  | .overwrite => (0 : Fin 2)
  | .strict => (1 : Fin 2)

instance : Wire VersionPolicy where
  shape := VersionPolicy.shape
  ofValue := VersionPolicy.ofValue
  toValue := VersionPolicy.toValue
  ofValue_toValue p := by cases p <;> rfl

instance : Wire Options where
  shape := .record "HareLspOptions"
    (.optional "reopen" ReopenPolicy.shape .asNull
      (.optional "version_policy" VersionPolicy.shape .asNull .nil))
  ofValue := fun (reopen, versionPolicy, ()) =>
    ⟨reopen.map ReopenPolicy.ofValue, versionPolicy.map VersionPolicy.ofValue⟩
  toValue o := (o.reopen.map ReopenPolicy.toValue, o.versionPolicy.map VersionPolicy.toValue, ())
  ofValue_toValue o := by
    obtain ⟨_ | (_ | _), _ | (_ | _)⟩ := o <;> rfl

namespace Config

def initial : Config := ⟨.reject, .overwrite⟩

/-- Takes the options that are given, each in the place of its own. -/
def update (j : Json) : EStateM Failure Config Unit := do
  match (Wire.read j : Except DecodeError Options) with
  | .ok o =>
    if let some reopen := o.reopen then modify ({ · with reopen })
    if let some versionPolicy := o.versionPolicy then modify ({ · with versionPolicy })
  | .error _ => return

end Config
end DocSync
