import DocSync.Fixture

/-! # Fixtures, written

A fixture as its author thinks of it: documents of text lines, each with the marker lines below it.
`render` writes it down, and `document` is what it says. Lines and columns are numbers here, of which
a position holds 32 bits; a source that `Fits` has no others.
-/

namespace DocSync.Fixture

section Places

/-- A place in a document, by the number of its line and its column. -/
structure Place where
  line : Nat
  column : Nat
  deriving DecidableEq

/-- From one place up to another. -/
structure Stretch where
  start : Place
  stop : Place
  deriving DecidableEq

def Place.position (p : Place) : Position := ⟨.ofNat p.line, .ofNat p.column⟩

def Place.ofPosition (p : Position) : Place := ⟨p.line.toNat, p.character.toNat⟩

def Stretch.range (s : Stretch) : Range := ⟨s.start.position, s.stop.position⟩

def Stretch.ofRange (r : Range) : Stretch := ⟨.ofPosition r.start, .ofPosition r.stop⟩

structure Place.Fits (p : Place) : Prop where
  line_lt : p.line < UInt32.size
  column_lt : p.column < UInt32.size

theorem Place.Fits.ofPosition_position {p : Place} (h : p.Fits) : ofPosition p.position = p := by
  obtain ⟨line, column⟩ := p
  simp only [ofPosition, position, UInt32.toNat_ofNat_of_lt' h.line_lt,
    UInt32.toNat_ofNat_of_lt' h.column_lt]

end Places

/-- A marker line, by the columns of its marks and its length. A span has a first column and at least
one more character than it says. -/
structure Marks where
  cursor : Option Nat
  point : Option Nat
  span : Option (Nat × Nat)
  length : Nat
  deriving DecidableEq

namespace Marks

def inSpan (s : Option (Nat × Nat)) (n : Nat) : Bool :=
  s.any fun (first, more) => first ≤ n && n ≤ first + more

/-- What stands in a column. -/
def charAt (m : Marks) (n : Nat) : Char :=
  if m.cursor = some n then '|' else if m.point = some n then '!'
  else if inSpan m.span n then '^' else ' '

def render (m : Marks) : Text := (List.range m.length).map m.charAt

/-- There is a mark, every mark is within the line, and no two stand in one column. -/
def Valid (m : Marks) : Prop :=
  (m.cursor.isSome ∨ m.point.isSome ∨ m.span.isSome) ∧
  (∀ c ∈ m.cursor, c < m.length ∧ m.point ≠ some c ∧ inSpan m.span c = false) ∧
  (∀ p ∈ m.point, p < m.length ∧ inSpan m.span p = false) ∧
  ∀ s ∈ m.span, s.1 + s.2 < m.length

def ranges (line : Nat) (m : Marks) : List Stretch :=
  (m.point.map fun p => ⟨⟨line, p⟩, ⟨line, p⟩⟩).toList ++
    (m.span.map fun (first, more) => ⟨⟨line, first⟩, ⟨line, first + more + 1⟩⟩).toList

end Marks

structure AnnotatedLine where
  text : Text
  marks : List Marks
  deriving DecidableEq

structure Source where
  path : String
  lines : List AnnotatedLine
  deriving DecidableEq

def AnnotatedLine.render (l : AnnotatedLine) : Text :=
  l.text ++ '\n' :: l.marks.flatMap fun m => m.render ++ ['\n']

def Source.render (s : Source) : Text :=
  ['%', '!', ' '] ++ s.path.toList ++ '\n' :: s.lines.flatMap AnnotatedLine.render

def renderAll (ss : List Source) : Text := ss.flatMap Source.render

/-- No header mark stands in the text. -/
def Unmarked (t : Text) : Prop := ¬['%', '!'] <:+: t

/-- The text has a last character, and one that trimming leaves. -/
def EndsVisibly (t : Text) : Prop := ∃ c, t.getLast? = some c ∧ Text.isBlank c = false

/-- What may stand as a text line: one line, and no marker line. -/
structure AnnotatedLine.Valid (l : AnnotatedLine) : Prop where
  unmarked : Unmarked l.text
  no_feed : '\n' ∉ l.text
  no_return : l.text.getLast? ≠ some '\r'
  not_markers : l.text ≠ [] → ∃ c ∈ l.text, c ≠ ' ' ∧ c ≠ '^' ∧ c ≠ '|' ∧ c ≠ '!'
  marks_valid : ∀ m ∈ l.marks, m.Valid

/-- What may stand as a document. Trimming would take blanks at its end, so there are none unless
they stand behind the marks of a marker line. -/
structure Source.Valid (s : Source) : Prop where
  unmarked : Unmarked s.path.toList
  no_feed : '\n' ∉ s.path.toList
  ends_visibly : EndsVisibly s.path.toList
  lines_valid : ∀ l ∈ s.lines, l.Valid
  last_visible : ∀ l, s.lines.getLast? = some l → l.marks = [] → EndsVisibly l.text

/-- The lines of the document have numbers of 32 bits, and the columns of its marker lines as well. -/
structure Source.Fits (s : Source) : Prop where
  lines_le : s.lines.length ≤ UInt32.size
  length_lt : ∀ l ∈ s.lines, ∀ m ∈ l.marks, m.length < UInt32.size

/-- The first cursor among marker lines below one line. -/
def AnnotatedLine.cursor? (line : Nat) (l : AnnotatedLine) : Option Place :=
  l.marks.findSome? fun m => m.cursor.map (Place.mk line)

def Source.cursor? (s : Source) : Option Place :=
  s.lines.zipIdx.findSome? fun (l, i) => l.cursor? i

def Source.ranges (s : Source) : List Stretch :=
  s.lines.zipIdx.flatMap fun (l, i) => l.marks.flatMap (·.ranges i)

def Source.document (s : Source) : FixtureDocument where
  path := s.path
  text := joinLines (s.lines.map (·.text))
  cursor := s.cursor?.map Place.position
  ranges := s.ranges.map Stretch.range

end DocSync.Fixture
