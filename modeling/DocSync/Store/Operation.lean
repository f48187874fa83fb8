import DocSync.Store.Basic

/-! # Runs of store operations

Operations as data, each about the document under one identifier, with their answers. A run keeps
the answer of every operation.
-/

namespace DocSync.Store

inductive Operation where
  | openNew (uri : Uri) (document : Document)
  | reopen (uri : Uri) (document : Document)
  | close (uri : Uri)
  | change (uri : Uri) (version : Int32) (changes : List Change)
  | snapshot (uri : Uri)
  | get (uri : Uri)
  | contains (uri : Uri)
  deriving DecidableEq

inductive Answer where
  | done
  | refused (e : StoreError)
  | snapshot (s : Snapshot)
  | document (d : Option Document)
  | truth (b : Bool)
  deriving DecidableEq

def Operation.uri : Operation → Uri
  | .openNew u _ | .reopen u _ | .close u | .change u _ _ | .snapshot u | .get u | .contains u => u

/-- What a method leaves of the store, with its answer. -/
def answered : EStateM.Result StoreError Store Unit → Store × Answer
  | .ok () s => (s, .done)
  | .error e s => (s, .refused e)

def step (s : Store) : Operation → Store × Answer
  | .openNew u d => answered ((openNew u d).run s)
  | .reopen u d => (s.reopen u d, .done)
  | .close u => answered ((close u).run s)
  | .change u version cs => answered ((change u version cs).run s)
  | .snapshot u => (s, match s.snapshot u with
    | .ok x => .snapshot x
    | .error e => .refused e)
  | .get u => (s, .document (s.get? u))
  | .contains u => (s, .truth (s.contains u))

/-- The store after a run, and the answers in order. -/
def run (s : Store) : List Operation → Store × List Answer
  | [] => (s, [])
  | op :: ops =>
    let (s, a) := s.step op
    let (s, as) := s.run ops
    (s, a :: as)

end DocSync.Store
