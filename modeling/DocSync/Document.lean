import DocSync.Text.Edit

/-! # Documents

A document is a text with a version and the name of its language. Changes come in batches, and each
one addresses the text that the changes before it have left. `Document.change` works on the document
in place, so it has to say what it leaves on both ways out: after a batch that is refused, the
document as it was (`change_of_error`).
-/

namespace DocSync

/-- One change of a batch: a new text, or a new text for a range. -/
inductive Change where
  | full (text : Text)
  | ranged (range : Range) (text : Text)
  deriving DecidableEq, Repr

structure Document where
  languageId : String
  version : Int32
  text : Text
  deriving DecidableEq

namespace Text

def change? (t : Text) : Change → Option (Except EditError Text)
  | .full w => some (.ok w)
  | .ranged r w => replace? t r w

/-- Applies a batch in order. Every look-up, difference, removal and insertion on the way is partial,
and the first change that is refused ends the batch. -/
def changes? (t : Text) : List Change → Option (Except EditError Text)
  | [] => some (.ok t)
  | c :: cs => do
    match ← change? t c with
    | .error e => return .error e
    | .ok u => changes? u cs

def change (t : Text) : Change → Except EditError Text
  | .full w => .ok w
  | .ranged r w => replace t r w

theorem change?_eq (t : Text) (c : Change) : change? t c = some (change t c) := by
  cases c with
  | full w => rfl
  | ranged r w => exact replace?_eq t r w

theorem isSome_changes? (t : Text) (cs : List Change) : (changes? t cs).isSome := by
  induction cs generalizing t with
  | nil => rfl
  | cons c cs ih =>
    simp only [changes?, change?_eq, Option.bind_eq_bind, Option.bind_some]
    split
    · rfl
    · exact ih _

def changes (t : Text) (cs : List Change) : Except EditError Text :=
  (changes? t cs).get (isSome_changes? t cs)

theorem changes?_eq (t : Text) (cs : List Change) : changes? t cs = some (changes t cs) :=
  (Option.some_get _).symm

@[simp] theorem changes_nil (t : Text) : changes t [] = .ok t := rfl

@[simp] theorem changes_cons (t : Text) (c : Change) (cs : List Change) :
    changes t (c :: cs) = (change t c).bind (changes · cs) := by
  have h := changes?_eq t (c :: cs)
  simp only [changes?, change?_eq, Option.bind_eq_bind, Option.bind_some] at h
  cases hc : change t c with
  | error e => simpa [hc, Except.bind, eq_comm] using h
  | ok u => simpa [hc, Except.bind, changes?_eq, eq_comm] using h

end Text

namespace Document
variable {d : Document} {version : Int32} {cs : List Change}

/-- Applies a batch and sets the version. The batch runs on a copy of the text, and only when it is
through does the copy take the place of the text. -/
def change (version : Int32) (cs : List Change) : EStateM EditError Document Unit := do
  let text ← ofExcept ((← get).text.changes cs)
  modify ({ · with text })
  modify ({ · with version })

theorem change_of_ok {t : Text} (h : d.text.changes cs = .ok t) :
    (change version cs).run d = .ok () { d with text := t, version } := by
  simp only [change, EStateM.run_bind, EStateM.run_get, h]
  rfl

/-- A batch that is refused leaves the document as it was. -/
theorem change_of_error {e : EditError} (h : d.text.changes cs = .error e) :
    (change version cs).run d = .error e d := by
  simp only [change, EStateM.run_bind, EStateM.run_get, h]
  rfl

end Document
end DocSync
