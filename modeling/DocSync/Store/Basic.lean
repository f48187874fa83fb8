import DocSync.Document
import DocSync.Uri.Basic

/-! # The documents that are open

A store holds at most one document under each identifier. Its methods work on it in place, and a
method that is refused says what it has left of the store as well. Every method looks at the entry
of its own identifier only.
-/

namespace DocSync

/-- How the version of a change is checked: taken as it comes, or refused unless it is greater than
the one shown. -/
inductive VersionPolicy where
  | overwrite
  | strict
  deriving DecidableEq, Repr, Inhabited

inductive StoreError where
  | alreadyOpen (uri : Uri)
  | notOpen (uri : Uri)
  | edit (cause : EditError)
  | staleVersion (uri : Uri) (current received : Int32)
  deriving DecidableEq

/-- The documents in the order in which they were opened. -/
structure Store where
  policy : VersionPolicy
  entries : List (Uri × Document)
  deriving DecidableEq

/-- A document as it was when it was asked for. -/
structure Snapshot where
  uri : Uri
  languageId : String
  version : Int32
  text : Text
  deriving DecidableEq

namespace Store

def empty (policy : VersionPolicy) : Store := ⟨policy, []⟩

/-- Puts a document in the place of the one under the same identifier, or else behind all others. -/
def insert (u : Uri) (d : Document) : List (Uri × Document) → List (Uri × Document)
  | [] => [(u, d)]
  | e :: es => if e.1 = u then (u, d) :: es else e :: insert u d es

/-- The document under an identifier. -/
def find (u : Uri) : List (Uri × Document) → Option Document
  | [] => none
  | e :: es => if e.1 = u then some e.2 else find u es

def get? (s : Store) (u : Uri) : Option Document := find u s.entries

def put (s : Store) (u : Uri) (d : Document) : Store := { s with entries := insert u d s.entries }

def erase (s : Store) (u : Uri) : Store := { s with entries := s.entries.filter (·.1 ≠ u) }

def contains (s : Store) (u : Uri) : Bool := s.entries.any (·.1 = u)

/-- Takes the document under an identifier out, if there is one. -/
def take (u : Uri) (s : Store) : Option Document × Store := (s.get? u, s.erase u)

section Methods
variable (u : Uri)

def openNew (d : Document) : EStateM StoreError Store Unit := do
  if (← get).contains u then throw (.alreadyOpen u)
  modify (·.put u d)

def close : EStateM StoreError Store Unit := do
  match ← modifyGet (take u) with
  | some _ => return
  | none => throw (.notOpen u)

/-- Runs a method of the document under `u` in place: what it leaves of the document is in the store
on both ways out. -/
def onDocument (x : EStateM StoreError Document Unit) : EStateM StoreError Store Unit := fun s =>
  match s.get? u with
  | none => .error (.notOpen u) s
  | some d => match x.run d with
    | .ok () d => .ok () (s.put u d)
    | .error e d => .error e (s.put u d)

/-- The version is checked before the batch is looked at. -/
def change (version : Int32) (cs : List Change) : EStateM StoreError Store Unit := do
  let policy := (← get).policy
  onDocument u do
    let current := (← get).version
    if policy = .strict ∧ version ≤ current then throw (.staleVersion u current version)
    EStateM.adaptExcept .edit (Document.change version cs)

end Methods

def reopen (s : Store) (u : Uri) (d : Document) : Store := s.put u d

def snapshot (s : Store) (u : Uri) : Except StoreError Snapshot :=
  match s.get? u with
  | none => .error (.notOpen u)
  | some d => .ok ⟨u, d.languageId, d.version, d.text⟩

def uris (s : Store) : List Uri := s.entries.map (·.1)

def size (s : Store) : Nat := s.entries.length

def isEmpty (s : Store) : Bool := s.entries.isEmpty

theorem find_insert (u v : Uri) (d : Document) (es : List (Uri × Document)) :
    find v (insert u d es) = if u = v then some d else find v es := by
  induction es with
  | nil => rfl
  | cons e es ih => simp only [insert]; split <;> simp_all [find]; grind

theorem find_filter_ne (u v : Uri) (es : List (Uri × Document)) :
    find v (es.filter (·.1 ≠ u)) = if u = v then none else find v es := by
  induction es with
  | nil => simp [find]
  | cons e es ih => simp only [List.filter_cons, find]; grind [find]

@[simp] theorem get?_put (s : Store) (u v : Uri) (d : Document) :
    (s.put u d).get? v = if u = v then some d else s.get? v := find_insert u v d _

@[simp] theorem get?_erase (s : Store) (u v : Uri) :
    (s.erase u).get? v = if u = v then none else s.get? v := find_filter_ne u v _

@[simp] theorem get?_empty (p : VersionPolicy) (u : Uri) : (empty p).get? u = none := rfl

@[simp] theorem policy_put (s : Store) (u : Uri) (d : Document) :
    (s.put u d).policy = s.policy := rfl

@[simp] theorem policy_erase (s : Store) (u : Uri) : (s.erase u).policy = s.policy := rfl

end Store
end DocSync
