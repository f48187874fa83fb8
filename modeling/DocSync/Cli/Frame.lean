import DocSync.Json.Parser
import DocSync.Protocol.Message

/-! # Frames

On a byte stream every message is a frame: header lines, an empty line, and as many bytes as the
header says. A stream may end where a header line would begin; anywhere else its end cuts a frame
short.
-/

namespace DocSync.Cli.Frame

/-- What stands at the front of a stream. -/
inductive Front where
  | body (bytes rest : List UInt8)
  /-- The bytes so far are the front of a frame; the stream may also end after them if it is
  `mayEnd`. -/
  | incomplete (mayEnd : Bool)
  | malformed

def newline : UInt8 := 10

/-- The bytes up to the first line feed, and those behind it. -/
def takeLine? : List UInt8 → Option (List UInt8 × List UInt8)
  | [] => none
  | b :: bs =>
    if b = newline then some ([b], bs) else (takeLine? bs).map fun (l, rest) => (b :: l, rest)

theorem length_takeLine? {bs l rest : List UInt8} (h : takeLine? bs = some (l, rest)) :
    rest.length < bs.length := by
  induction bs generalizing l with
  | nil => simp [takeLine?] at h
  | cons b bs ih =>
    unfold takeLine? at h
    split at h
    · simp_all
    · obtain ⟨⟨l', r'⟩, h', he⟩ := Option.map_eq_some_iff.1 h
      cases he
      exact Nat.lt_succ_of_lt (ih h')

/-- A number of 64 bits. -/
def size? (value : List Char) : Option Nat :=
  let digits : List Char := match value with
    | '+' :: ds => ds
    | ds => ds
  let n := digits.foldl (fun n c => n * 10 + (c.toNat - 48)) 0
  if digits ≠ [] ∧ digits.all Char.isDigit ∧ n < UInt64.size then some n else none

/-- The name and the value of a header field. -/
def splitField? : List Char → Option (List Char × List Char)
  | ':' :: ' ' :: cs => some ([], cs)
  | c :: cs => (splitField? cs).map fun (name, value) => (c :: name, value)
  | [] => none

inductive HeaderLine where
  | blank
  | length (n : Nat)
  | other

def lengthField : List Char := "content-length".toList

/-- Reads a header line without its end; names are the same in upper and lower case. -/
def headerLine? (line : List Char) : Option HeaderLine :=
  if line = [] then some .blank
  else do
    let (name, value) ← splitField? line
    if name.map Char.toLower = lengthField then return .length (← size? value)
    else return .other

def decode? (bytes : List UInt8) : Option (List Char) :=
  (String.fromUTF8? ⟨bytes.toArray⟩).map String.toList

/-- A line with its end taken off. -/
def stripLine? (line : List UInt8) : Option (List Char) := do
  match (← decode? line).reverse with
  | '\n' :: '\r' :: cs => some cs.reverse
  | _ => none

/-- The front of a stream, behind header lines that gave a length or none; the last length counts. -/
def frontFrom (size : Option Nat) (bytes : List UInt8) : Front :=
  match _h : takeLine? bytes with
  | none => .incomplete bytes.isEmpty
  | some (line, rest) =>
    match (stripLine? line).bind headerLine? with
    | none => .malformed
    | some .other => frontFrom size rest
    | some (.length n) => frontFrom (some n) rest
    | some .blank => match size with
      | none => .malformed
      | some n => if rest.length < n then .incomplete false else .body (rest.take n) (rest.drop n)
termination_by bytes.length
decreasing_by all_goals exact length_takeLine? _h

def front (bytes : List UInt8) : Front := frontFrom none bytes

/-- Values in a frame may be nested so deep. -/
def depth : Nat := 127

/-- The message in a body. -/
def message? (body : List UInt8) : Option Message := do
  let j ← Json.parse? depth (← decode? body)
  (Wire.read j).toOption

/-- The members of a message, with the version of the protocol. -/
def withVersion : Json → Json
  | .object ms => .ofMembers (("jsonrpc", .string "2.0") :: ms)
  | j => j

def ofMessage (m : Message) : String :=
  let body := (withVersion (Wire.write m)).compact
  "Content-Length: " ++ toString body.utf8ByteSize ++ "\r\n\r\n" ++ body

end DocSync.Cli.Frame
