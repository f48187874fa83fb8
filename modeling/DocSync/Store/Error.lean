import DocSync.Store.Basic

/-! # What refusals say -/

namespace DocSync

def PositionError.message : PositionError → String
  | .lineOutOfBounds n => "line out of bounds (document has " ++ toString n ++ " lines)"
  | .characterOutOfBounds n =>
    "character out of bounds (line is " ++ toString n ++ " UTF-16 code units long)"
  | .insideSurrogatePair => "character splits a UTF-16 surrogate pair"

def Position.text (p : Position) : String :=
  toString p.line.toNat ++ ":" ++ toString p.character.toNat

def EditError.message : EditError → String
  | .invalidPosition p reason => "invalid position " ++ p.text ++ ": " ++ reason.message
  | .invalidRange r =>
    "invalid range " ++ r.start.text ++ "-" ++ r.stop.text ++ ": end precedes start"

def StoreError.message : StoreError → String
  | .alreadyOpen u => "document already open: " ++ u.text
  | .notOpen u => "document not open: " ++ u.text
  | .edit cause => cause.message
  | .staleVersion u current received =>
    "stale version for " ++ u.text ++ ": received " ++ toString received.toInt ++
      ", current is " ++ toString current.toInt

end DocSync
