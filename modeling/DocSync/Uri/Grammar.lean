import DocSync.Uri.Address

/-! # The grammar of references

A reference is a scheme, an authority, a path, a query and a fragment, of which all but the path may
be absent. Every accepted character is ASCII, so a count of characters read is also a byte index;
a refusal carries the index at which reading stopped.
-/

namespace DocSync.Uri

/-- Why a text is no reference; the index counts bytes. -/
inductive Refusal where
  | unexpectedCharacter (index : Nat)
  | invalidOctet (index : Nat)
  | invalidAddress (index : Nat)
  deriving DecidableEq, Repr

def Refusal.message : Refusal → String
  | .unexpectedCharacter i => "unexpected character at index " ++ toString i
  | .invalidOctet i => "invalid percent-encoded octet at index " ++ toString i
  | .invalidAddress i => "invalid IP literal at index " ++ toString i

section Classes

def isSchemeChar (c : Char) : Bool := c.isAlphanum || c = '+' || c = '-' || c = '.'

def isUnreserved (c : Char) : Bool := c.isAlphanum || c = '-' || c = '.' || c = '_' || c = '~'

def isDelimiter (c : Char) : Bool :=
  ['!', '$', '&', '\'', '(', ')', '*', '+', ',', ';', '='].contains c

/-- Characters of a registered host name. -/
def isNameChar (c : Char) : Bool := isUnreserved c || isDelimiter c

def isUserChar (c : Char) : Bool := isNameChar c || c = ':'

/-- Characters of the first segment of a path that has no scheme before it. -/
def isFirstSegmentChar (c : Char) : Bool := isNameChar c || c = '@'

def isPathChar (c : Char) : Bool := isUserChar c || c = '@' || c = '/'

def isQueryChar (c : Char) : Bool := isPathChar c || c = '?'

end Classes

/-- What is left to read, and the number of characters read before it. -/
structure Rest where
  index : Nat
  chars : List Char
  deriving DecidableEq, Repr

abbrev Reader := Rest → Except Refusal Rest

/-- Reads percent-encoded octets and characters of a class, as far as they go. -/
def readRun (p : Char → Bool) (r : Rest) : Except Refusal Rest := go r.index r.chars
where
  go (i : Nat) : List Char → Except Refusal Rest
    | '%' :: a :: b :: s =>
      if isHexDigit a && isHexDigit b then go (i + 3) s else .error (.invalidOctet i)
    | '%' :: _ => .error (.invalidOctet i)
    | c :: s => if p c then go (i + 1) s else .ok ⟨i, c :: s⟩
    | [] => .ok ⟨i, []⟩

def Rest.skip (n : Nat) (r : Rest) : Rest := ⟨r.index + n, r.chars.drop n⟩

def Rest.skipWhile (p : Char → Bool) (r : Rest) : Rest :=
  ⟨r.index + (r.chars.takeWhile p).length, r.chars.dropWhile p⟩

/-- A query, a fragment, and then the end. -/
def readTail (r : Rest) : Except Refusal Unit := do
  let r ← if r.chars.head? = some '?' then readRun isQueryChar (r.skip 1) else pure r
  let r ← if r.chars.head? = some '#' then readRun isQueryChar (r.skip 1) else pure r
  if r.chars ≠ [] then throw (.unexpectedCharacter r.index)

def readPath (r : Rest) : Except Refusal Unit := do readTail (← readRun isPathChar r)

/-- After an authority a path is empty or starts with a slash. -/
def readRootedPath (r : Rest) : Except Refusal Unit := do
  let stop ← readRun isPathChar r
  if stop.index ≠ r.index ∧ r.chars.head? ≠ some '/' then throw (.unexpectedCharacter r.index)
  readTail stop

/-- Without a scheme, the first segment of a path has no colon. -/
def readRelativePath (r : Rest) : Except Refusal Unit := do
  let r ← readRun isFirstSegmentChar r
  if r.chars.head? = some ':' then throw (.unexpectedCharacter r.index)
  readPath r

/-- An address in brackets, from its opening bracket on. -/
def readAddress (r : Rest) : Except Refusal Rest :=
  let inner := (r.chars.drop 1).takeWhile (· ≠ ']')
  let after := r.skip (1 + inner.length)
  if isAddress inner ∧ after.chars ≠ [] then .ok (after.skip 1)
  else .error (.invalidAddress r.index)

def readPort (r : Rest) : Rest :=
  if r.chars.head? = some ':' then (r.skip 1).skipWhile Char.isDigit else r

def readHost (r : Rest) : Except Refusal Rest :=
  if r.chars.head? = some '[' then readAddress r else readRun isNameChar r

/-- Checks a name and a port that were read together and start at index `i`. One colon sets a port
off, which is checked from its end; with more than one, the first is refused. -/
def checkNamePort (i : Nat) (s : List Char) : Except Refusal Unit :=
  let port := s.reverse.takeWhile (· ≠ ':')
  if s.count ':' = 0 then .ok ()
  else if s.count ':' = 1 then
    match port.findIdx? (! ·.isDigit) with
    | none => .ok ()
    | some k => .error (.unexpectedCharacter (i + s.length - 1 - k))
  else .error (.unexpectedCharacter (i + s.idxOf ':'))

/-- What stands between two slashes and the path. Without an `@` the characters read are no user but
the host itself. -/
def readAuthority (r : Rest) : Except Refusal Unit := do
  let user ← readRun isUserChar r
  if user.chars.head? = some '@' then
    readRootedPath (readPort (← readHost (user.skip 1)))
  else if user.index = r.index then
    if user.chars.head? = some '[' then readRootedPath (readPort (← readAddress r))
    else readRootedPath r
  else
    checkNamePort r.index (r.chars.take (user.index - r.index))
    readRootedPath user

def startsAuthority (s : List Char) : Bool := s.take 2 = ['/', '/']

/-- Accepts exactly the references. -/
def check (s : List Char) : Except Refusal Unit :=
  let start : Rest := ⟨0, s⟩
  let scheme := start.skipWhile isSchemeChar
  if scheme.chars.head? = some ':' then
    if scheme.index = 0 ∨ ¬ s.head?.any Char.isAlpha then .error (.unexpectedCharacter 0)
    else
      let r := scheme.skip 1
      if startsAuthority r.chars then readAuthority (r.skip 2) else readPath r
  else if scheme.index = 0 ∧ startsAuthority s then readAuthority (start.skip 2)
  else readRelativePath scheme

end DocSync.Uri
