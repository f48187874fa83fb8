import DocSync.Text.Similarity

/-! # The command line

Arguments are taken from left to right. The value of an option that stands in an argument of its own
is looked at only when the next option or the end of the line is reached, so what is wrong after it
may be reported before it.
-/

namespace DocSync.Cli

inductive Flag where
  | stdio
  | log
  | logLevel
  | help
  | version
  deriving DecidableEq, Repr

namespace Flag

def all : List Flag := [.stdio, .log, .logLevel, .help, .version]

def name : Flag → String
  | .stdio => "stdio"
  | .log => "log"
  | .logLevel => "log-level"
  | .help => "help"
  | .version => "version"

/-- The flag with its value, as it is shown to the user. -/
def usage : Flag → String
  | .logLevel => "--log-level <log-level>"
  | f => "--" ++ f.name

def ofName? (s : String) : Option Flag := all.find? (·.name = s)

end Flag

def levels : List String := ["error", "warn", "info", "debug", "trace"]

inductive UsageError where
  | unexpectedArgument (argument : String) (similar : Option Flag) (used : List Flag)
  | unexpectedValue (value : String) (flag : Flag) (used : List Flag)
  | missingLevel
  | invalidLevel (value : String)
  | repeated (flag : Flag)
  deriving DecidableEq, Repr

/-- What the command line asks for. -/
inductive Command where
  | serve (log : Bool)
  | help
  | version
  | refuse (e : UsageError)
  deriving DecidableEq, Repr

/-- The option whose value is still to be looked at. -/
inductive Pending where
  | nothing
  | level (value : Option String)
  deriving DecidableEq, Repr

/-- The flags seen so far, in their order. -/
structure Seen where
  flags : List Flag
  pending : Pending
  deriving DecidableEq, Repr

namespace Seen

def initial : Seen := ⟨[], .nothing⟩

def add (s : Seen) (f : Flag) : Except (Seen × UsageError) Seen :=
  if f ∈ s.flags then .error ({ s with flags := s.flags.filter (· ≠ f) }, .repeated f)
  else .ok { s with flags := s.flags ++ [f] }

def addLevel (s : Seen) (value : String) : Except (Seen × UsageError) Seen := do
  let s ← s.add .logLevel
  if value ∈ levels then return s
  else throw (s, if value = "" then .missingLevel else .invalidLevel value)

/-- Looks at the pending value. -/
def resolve (s : Seen) : Except (Seen × UsageError) Seen :=
  let done := { s with pending := .nothing }
  match s.pending with
  | .nothing => .ok s
  | .level none => .error (done, .missingLevel)
  | .level (some v) => done.addLevel v

/-- Looks at the pending value, where another error is to be reported whatever it is. -/
def resolved (s : Seen) : Seen :=
  match s.resolve with
  | .ok s => s
  | .error (s, _) => s

def withFlag (s : Seen) (f : Flag) : List Flag := if f ∈ s.flags then s.flags else s.flags ++ [f]

end Seen

/-- The state after an argument, or what is done at once. -/
abbrev Outcome := Except Command Seen

def refuse {α : Type} : Except (Seen × UsageError) α → Except Command α
  | .ok x => .ok x
  | .error (_, e) => .error (.refuse e)

def takeFlag (s : Seen) (f : Flag) : Outcome := do
  let s ← refuse s.resolve
  match f with
  | .help => throw .help
  | .version => throw .version
  | .logLevel => return { s with pending := .level none }
  | f => refuse (s.add f)

/-- An argument that begins with two hyphens: a name and perhaps a value behind `=`. -/
def takeLong (s : Seen) (name : String) (value : Option String) : Outcome :=
  match Flag.ofName? name, value with
  | none, _ =>
    let s := s.resolved
    let similar := (Text.mostSimilar name (Flag.all.map Flag.name)).bind Flag.ofName?
    throw (.refuse (.unexpectedArgument ("--" ++ name) similar
      (similar.elim s.flags s.withFlag)))
  | some .logLevel, some v => do
    let s ← refuse s.resolve
    refuse (s.addLevel v)
  | some f, some v => throw (.refuse (.unexpectedValue v f (s.withFlag f)))
  | some f, none => takeFlag s f

/-- One-letter flags behind a single hyphen. -/
def takeShort (s : Seen) : List Char → Outcome
  | [] => .ok s
  | 'h' :: _ => takeFlag s .help
  | 'V' :: _ => takeFlag s .version
  | c :: _ => throw (.refuse (.unexpectedArgument (String.ofList ['-', c]) none []))

/-- There is no place for an argument that is neither a flag nor a value. -/
def takeWord (s : Seen) (word : String) : Outcome :=
  match s.pending with
  | .level none => .ok { s with pending := .level (some word) }
  | _ => throw (.refuse (.unexpectedArgument word none []))

def finish (s : Seen) : Command :=
  match s.resolve with
  | .ok s => .serve (s.flags.contains .log)
  | .error (_, e) => .refuse e

def parseFrom (s : Seen) : List String → Command
  | [] => finish s
  | a :: as =>
    let next : Outcome := match a.toList with
      | ['-', '-'] => match as with
        | [] => throw (finish s)
        | word :: _ => throw (.refuse (.unexpectedArgument word none []))
      | '-' :: '-' :: cs =>
        takeLong s (String.ofList (cs.takeWhile (· ≠ '=')))
          (match cs.dropWhile (· ≠ '=') with
            | _ :: v => some (String.ofList v)
            | [] => none)
      | '-' :: c :: cs => takeShort s (c :: cs)
      | _ => takeWord s a
    match next with
    | .ok s => parseFrom s as
    | .error c => c

def parse (arguments : List String) : Command := parseFrom .initial arguments

section Messages

def tip (kind word : String) : String :=
  "\n\n  tip: a similar " ++ kind ++ " exists: '" ++ word ++ "'"

def usageLine (used : List Flag) : String :=
  "\n\nUsage: harels " ++
    (if used = [] then "[OPTIONS]" else String.intercalate " " (used.map Flag.usage))

def levelList : String := "\n  [possible values: " ++ String.intercalate ", " levels ++ "]"

def UsageError.text : UsageError → String
  | .unexpectedArgument argument similar used =>
    "unexpected argument '" ++ argument ++ "' found" ++
      (similar.elim "" fun f => tip "argument" ("--" ++ f.name)) ++ usageLine used
  | .unexpectedValue value flag used =>
    "unexpected value '" ++ value ++ "' for '" ++ flag.usage ++ "' found; no more were expected" ++
      usageLine used
  | .missingLevel =>
    "a value is required for '" ++ Flag.logLevel.usage ++ "' but none was supplied" ++ levelList
  | .invalidLevel value =>
    "invalid value '" ++ value ++ "' for '" ++ Flag.logLevel.usage ++ "'" ++ levelList ++
      ((Text.mostSimilar value levels).elim "" (tip "value"))
  | .repeated flag =>
    "the argument '" ++ flag.usage ++ "' cannot be used multiple times" ++ usageLine []

def UsageError.message (e : UsageError) : String :=
  "error: " ++ e.text ++ "\n\nFor more information, try '--help'.\n"

def versionText : String := "harels 0.1.0\n"

def helpText : String :=
  "Usage: harels [OPTIONS]\n\nOptions:\n" ++
  "      --stdio                  use std io for lang server\n" ++
  "      --log                    Write logs to harels.log instead of stderr\n" ++
  "      --log-level <log-level>  Most verbose level that is logged [default: info]" ++
  " [possible values: error, warn, info, debug, trace]\n" ++
  "  -h, --help                   Print help\n" ++
  "  -V, --version                Print version\n"

end Messages
end DocSync.Cli
