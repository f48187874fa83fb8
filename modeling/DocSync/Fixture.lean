import DocSync.Store.Error
import DocSync.Text.Blank

/-! # Fixtures

A fixture is a set of documents written as one text. Every document starts with a header `%! path`.
A line made only of blanks and markers annotates the text line above it: `|` is a cursor, `!` an
empty range and a run of `^` a range. There is no fixture without a header, and a marker line needs
a text line above it.
-/

namespace DocSync

/-- A document of a fixture, with the positions that its marker lines name. -/
structure FixtureDocument where
  path : String
  text : Text
  cursor : Option Position
  ranges : List Range
  deriving DecidableEq

abbrev Fixture := List FixtureDocument

namespace Fixture

section Splitting

/-- The text before the first header mark, and from every mark up to the next. -/
def splitMarks : Text → List Text
  | '%' :: '!' :: t => [] :: (splitMarks t).modifyHead (fun p => '%' :: '!' :: p)
  | c :: t => (splitMarks t).modifyHead (c :: ·)
  | [] => [[]]

/-- What stands before the first mark belongs to the first document. -/
def splitDocuments (t : Text) : List Text :=
  if t = [] then []
  else match splitMarks t with
    | p :: q :: ps => (p ++ q) :: ps
    | ps => ps

/-- The parts between line feeds. -/
def splitFeeds : Text → List Text
  | [] => [[]]
  | c :: t => if c = '\n' then [] :: splitFeeds t else (splitFeeds t).modifyHead (c :: ·)

/-- A line that a line feed has ended, without the carriage return in front of it. -/
def dropReturn (l : Text) : Text := if l.getLast? = some '\r' then l.dropLast else l

/-- The lines of a text; a line feed at its end begins no other line. -/
def sourceLines (t : Text) : List Text :=
  let parts := splitFeeds t
  parts.dropLast.map dropReturn ++ (match parts.getLast? with
    | some (c :: l) => [c :: l]
    | _ => [])

end Splitting

section Markers

def isMarkerLine (l : Text) : Bool :=
  l ≠ [] && l.all fun c => c = ' ' || c = '^' || c = '|' || c = '!'

/-- The column of the last `c`. -/
def lastIdx? (c : Char) (l : Text) : Option Nat :=
  (l.reverse.idxOf? c).map (l.length - 1 - ·)

def column (line n : Nat) : Position := ⟨.ofNat line, .ofNat n⟩

def lineCursor (line : Nat) (l : Text) : Option Position := (l.idxOf? '|').map (column line)

def lineRanges (line : Nat) (l : Text) : List Range :=
  ((l.idxOf? '!').map fun n => ⟨column line n, column line n⟩).toList ++
    (match l.idxOf? '^', lastIdx? '^' l with
      | some m, some n => [⟨column line m, column line (n + 1)⟩]
      | _, _ => [])

/-- The text lines, the first cursor and the ranges, after some source lines. -/
structure Annotated where
  lines : List Text
  cursor : Option Position
  ranges : List Range

/-- A marker line annotates the last text line before it. -/
def Annotated.add? (a : Annotated) (l : Text) : Option Annotated :=
  if isMarkerLine l then
    (Text.sub? a.lines.length 1).map fun line =>
      { a with cursor := a.cursor.or (lineCursor line l), ranges := a.ranges ++ lineRanges line l }
  else some { a with lines := a.lines ++ [l] }

end Markers

def joinLines (ls : List Text) : Text := List.intercalate ['\n'] ls

/-- A header line and the lines below it. -/
def parseDocument? (t : Text) : Option FixtureDocument :=
  match Text.trim t with
  | '%' :: '!' :: ' ' :: t => do
    let path := t.takeWhile (· ≠ '\n')
    let body := t.drop (path.length + 1)
    let a ← (sourceLines body).foldlM Annotated.add? ⟨[], none, []⟩
    return ⟨String.ofList path, joinLines a.lines, a.cursor, a.ranges⟩
  | _ => none

def parse? (t : Text) : Option Fixture := (splitDocuments t).mapM parseDocument?

section Opening

inductive OpenError where
  | invalidUri (refusal : Uri.Refusal)
  | store (cause : StoreError)

def OpenError.message : OpenError → String
  | .invalidUri r => "Invalid URI: " ++ r.message
  | .store e => e.message

def uriOf (path : String) : Except Uri.Refusal Uri := Uri.parse ("file://" ++ path)

def languageId : String := "hare"

def openDocument (d : FixtureDocument) : EStateM OpenError Store Unit := do
  let u ← ofExcept ((uriOf d.path).mapError .invalidUri)
  EStateM.adaptExcept .store (Store.openNew u ⟨languageId, 0, d.text⟩)

/-- A store with every document of the fixture open, at version 0. -/
def openAll (f : Fixture) : Except OpenError Store :=
  match (f.forM openDocument).run (.empty .overwrite) with
  | .ok () s => .ok s
  | .error e _ => .error e

end Opening

section Lookup

def find? (f : Fixture) (path : String) : Option FixtureDocument := List.find? (·.path = path) f

def range? (f : Fixture) (path : String) (i : Nat) : Option Range := do
  (← f.find? path).ranges[i]?

/-- The first cursor, and the document in which it stands. -/
def cursor? (f : Fixture) : Option (Uri × Position) := do
  let (d, p) ← f.findSome? fun d => d.cursor.map (d, ·)
  let u ← (uriOf d.path).toOption
  return (u, p)

end Lookup
end Fixture
end DocSync
