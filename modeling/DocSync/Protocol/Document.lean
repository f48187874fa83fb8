import DocSync.Wire.Basic
import DocSync.Document

/-! # What a client says about its documents

The parameters of the notifications that open, change and close a document, and of the request for
the text of one, in the form in which they are sent.
-/

namespace DocSync

structure DocumentItem where
  uri : Uri
  languageId : String
  version : Int32
  text : String
  deriving DecidableEq

structure VersionedDocument where
  uri : Uri
  version : Int32
  deriving DecidableEq

structure ContentChange where
  range : Option Range
  rangeLength : Option UInt32
  text : String
  deriving DecidableEq

structure DidOpen where
  document : DocumentItem
  deriving DecidableEq

structure DidChange where
  document : VersionedDocument
  changes : List ContentChange
  deriving DecidableEq

/-- An identifier, as the only field of a record. -/
structure DocumentId where
  uri : Uri
  deriving DecidableEq

structure DidClose where
  document : DocumentId
  deriving DecidableEq

/-- The answer to a request for the text of a document. -/
structure DocumentText where
  uri : Uri
  languageId : String
  version : Int32
  text : String
  deriving DecidableEq

/-- The length of the range is not looked at. -/
def ContentChange.toChange (c : ContentChange) : Change :=
  match c.range with
  | none => .full c.text.toList
  | some r => .ranged r c.text.toList

def DocumentItem.toDocument (i : DocumentItem) : Document :=
  ⟨i.languageId, i.version, i.text.toList⟩

section Shapes

def Position.shape : Shape :=
  .record "Position" (.required "line" .uint32 (.required "character" .uint32 .nil))

instance : Wire Position where
  shape := Position.shape
  ofValue := fun (line, character, ()) => ⟨line, character⟩
  toValue p := (p.line, p.character, ())
  ofValue_toValue _ := rfl

def Range.shape : Shape :=
  .record "Range" (.required "start" Position.shape (.required "end" Position.shape .nil))

def Range.ofValue : Range.shape.Value → Range
  | (start, stop, ()) => ⟨Wire.ofValue start, Wire.ofValue stop⟩

def Range.toValue (r : Range) : Range.shape.Value := (Wire.toValue r.start, Wire.toValue r.stop, ())

instance : Wire Range where
  shape := Range.shape
  ofValue := Range.ofValue
  toValue := Range.toValue
  ofValue_toValue _ := rfl

def ContentChange.shape : Shape :=
  .record "TextDocumentContentChangeEvent"
    (.optional "range" Range.shape .dropped
      (.optional "rangeLength" .uint32 .dropped (.required "text" .string .nil)))

instance : Wire ContentChange where
  shape := ContentChange.shape
  ofValue := fun (range, rangeLength, text, ()) => ⟨range.map Range.ofValue, rangeLength, text⟩
  toValue c := (c.range.map Range.toValue, c.rangeLength, c.text, ())
  ofValue_toValue c := by
    obtain ⟨range, _, _⟩ := c
    cases range <;> rfl

def DocumentItem.shape : Shape :=
  .record "TextDocumentItem"
    (.required "uri" .uri (.required "languageId" .string
      (.required "version" .int32 (.required "text" .string .nil))))

instance : Wire DidOpen where
  shape := .record "DidOpenTextDocumentParams" (.required "textDocument" DocumentItem.shape .nil)
  ofValue := fun ((uri, languageId, version, text, ()), ()) => ⟨⟨uri, languageId, version, text⟩⟩
  toValue p :=
    ((p.document.uri, p.document.languageId, p.document.version, p.document.text, ()), ())
  ofValue_toValue _ := rfl

def VersionedDocument.shape : Shape :=
  .record "VersionedTextDocumentIdentifier" (.required "uri" .uri (.required "version" .int32 .nil))

instance : Wire DidChange where
  shape := .record "DidChangeTextDocumentParams"
    (.required "textDocument" VersionedDocument.shape
      (.required "contentChanges" (.list ContentChange.shape) .nil))
  ofValue := fun ((uri, version, ()), changes, ()) =>
    ⟨⟨uri, version⟩, changes.map Wire.ofValue⟩
  toValue p := ((p.document.uri, p.document.version, ()), p.changes.map Wire.toValue, ())
  ofValue_toValue p := by
    have h (cs : List ContentChange) : (cs.map Wire.toValue).map Wire.ofValue = cs := by
      induction cs with
      | nil => rfl
      | cons c cs ih => simp only [List.map_cons, Wire.ofValue_toValue, ih]
    simp only [h]

def DocumentId.shape : Shape :=
  .record "TextDocumentIdentifier" (.required "uri" .uri .nil)

instance : Wire DocumentId where
  shape := DocumentId.shape
  ofValue := fun (uri, ()) => ⟨uri⟩
  toValue p := (p.uri, ())
  ofValue_toValue _ := rfl

instance : Wire DidClose where
  shape := .record "DidCloseTextDocumentParams" (.required "textDocument" DocumentId.shape .nil)
  ofValue := fun ((uri, ()), ()) => ⟨⟨uri⟩⟩
  toValue p := ((p.document.uri, ()), ())
  ofValue_toValue _ := rfl

instance : Wire DocumentText where
  shape := .record "DocumentTextResult"
    (.required "uri" .uri (.required "languageId" .string
      (.required "version" .int32 (.required "text" .string .nil))))
  ofValue := fun (uri, languageId, version, text, ()) => ⟨uri, languageId, version, text⟩
  toValue t := (t.uri, t.languageId, t.version, t.text, ())
  ofValue_toValue _ := rfl

end Shapes
end DocSync
