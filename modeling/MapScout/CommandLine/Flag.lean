import MapScout.Net.Address
import MapScout.Number.Decimal
/-!
# Flags

The flags of one level of a command line: a long name after two dashes, perhaps a letter after one
dash, and a value of some kind or none.  A value follows an equals sign or is the next word; a letter's
value may follow it directly.  A word that looks like a flag is never taken for a value.  A flag that is
not given takes its value from the environment.
-/

namespace MapScout.CommandLine

/-- What a flag does. -/
inductive Role where
  /-- Being given is all it says. -/
  | switch
  /-- Any text. -/
  | text
  /-- A file name; it is not empty. -/
  | path
  | address
  /-- A whole number of 64 bits. -/
  | count
  | help
  | version
  deriving DecidableEq, Repr

structure Flag where
  name : String
  role : Role
  letter : Option Char := none
  /-- Where in the environment its value may stand. -/
  variable_ : Option String := none
  deriving DecidableEq, Repr

inductive Value where
  | on
  | text (s : String)
  | address (a : SocketAddress)
  | count (n : UInt64)
  deriving DecidableEq, Repr

/-- What is wrong with a command line. -/
inductive UsageError where
  | unknownArgument
  /-- A flag has no value. -/
  | missingValue
  /-- The value of a flag is not of its kind. -/
  | badValue
  /-- A flag is given twice. -/
  | repeatedFlag
  /-- A switch has a value. -/
  | surplusValue
  | unknownCommand
  | missingCommand
  deriving DecidableEq, Repr

/-- The name of the mistake in reports. -/
def UsageError.name : UsageError → String
  | .unknownArgument => "UnknownArgument"
  | .missingValue => "InvalidValue"
  | .badValue => "ValueValidation"
  | .repeatedFlag => "ArgumentConflict"
  | .surplusValue => "TooManyValues"
  | .unknownCommand => "InvalidSubcommand"
  | .missingCommand => "MissingSubcommand"

/-- Why a command line is not carried out. -/
inductive Halt where
  | help
  | version
  | misuse (e : UsageError)
  deriving DecidableEq, Repr

namespace Halt

/-- The name of the reason in reports. -/
def name : Halt → String
  | .help => "DisplayHelp"
  | .version => "DisplayVersion"
  | .misuse e => e.name

/-- The exit code: asking for help is no mistake. -/
def exitCode : Halt → Nat
  | .help | .version => 0
  | .misuse _ => 2

end Halt

/-- A value and whether it stood on the command line. -/
structure Given where
  name : String
  value : Value
  isExplicit : Bool
  deriving DecidableEq, Repr

/-- What has been read. -/
structure Reading where
  given : List Given := []
  /-- The flag read last, with its value if that has been read, too. -/
  pending : Option (Flag × Option String) := none

/-- The value that a text spells for a flag. -/
def valueOf (role : Role) (s : String) : Except UsageError Value :=
  let orBad (v : Option Value) : Except UsageError Value :=
    match v with
    | some v => .ok v
    | none => .error .badValue
  match role with
  | .path => if s.isEmpty then .error .missingValue else .ok (.text s)
  | .address => orBad ((SocketAddress.ofText? s).map .address)
  | .count => orBad ((Decimal.word64? s).map .count)
  | .text => .ok (.text s)
  | .switch | .help | .version => .ok .on

namespace Reading

def isGiven (r : Reading) (f : Flag) : Bool := r.given.any (·.name == f.name)

/-- Notes the value of a flag. -/
def accept (r : Reading) (f : Flag) (s : String) (isExplicit : Bool) : Except Halt Reading :=
  if r.isGiven f then .error (.misuse .repeatedFlag)
  else
    match valueOf f.role s with
    | .error e => .error (.misuse e)
    | .ok value => .ok { r with given := r.given ++ [⟨f.name, value, isExplicit⟩] }

/-- Settles the flag read last. -/
def resolve (r : Reading) : Except Halt Reading :=
  match r.pending with
  | none => .ok r
  | some (_, none) => .error (.misuse .missingValue)
  | some (f, some s) => { r with pending := none }.accept f s true

/-- A flag that has no value on the command line yet, or is complete with what is attached to it. -/
def flag (r : Reading) (f : Flag) (attached : Option String) : Except Halt Reading :=
  let hasValue := f.role matches .text | .path | .address | .count
  if !hasValue && attached.isSome then .error (.misuse .surplusValue)
  else do
    let r ← r.resolve
    match f.role, attached with
    | .help, _ => .error .help
    | .version, _ => .error .version
    | .switch, _ => r.accept f "" true
    | _, some s => r.accept f s true
    | _, none => .ok { r with pending := some (f, none) }

/-- The letters after one dash.  A letter with a value takes the rest for it. -/
def letters (flags : List Flag) (r : Reading) : List Char → Except Halt Reading
  | [] => .ok r
  | c :: rest =>
    match flags.find? (·.letter == some c) with
    | none => .error (.misuse .unknownArgument)
    | some f =>
      if f.role matches .text | .path | .address | .count then
        match rest with
        | [] => r.flag f none
        | '=' :: value => r.flag f (some (String.ofList value))
        | value => r.flag f (some (String.ofList value))
      else do
        let r ← r.flag f none
        letters flags r rest

/-- A flag given by its long name, perhaps with a value after an equals sign. -/
def long (flags : List Flag) (r : Reading) (cs : List Char) : Except Halt Reading :=
  let (name, rest) := cs.span (· != '=')
  match flags.find? (·.name == String.ofList name) with
  | none => .error (.misuse .unknownArgument)
  | some f => r.flag f (match rest with | [] => none | _ :: value => some (String.ofList value))

/-- Whether the next word is the value of a flag. -/
def wantsValue (r : Reading) : Bool := r.pending matches some (_, none)

/-- Reads words up to the name of a command, which is given with the words after it. -/
def words (flags : List Flag) (commands : List String) (r : Reading) :
    List String → Except Halt (Reading × Option (String × List String))
  | [] => .ok (r, none)
  | w :: rest =>
    if commands.contains w && !r.wantsValue then .ok (r, some (w, rest))
    else
      match w.toList with
      | ['-', '-'] => if rest.isEmpty then .ok (r, none) else .error (.misuse .unknownArgument)
      | '-' :: '-' :: cs => do words flags commands (← r.long flags cs) rest
      | '-' :: c :: cs => do words flags commands (← r.letters flags (c :: cs)) rest
      | _ =>
        match r.pending with
        | some (f, none) => words flags commands { r with pending := some (f, some w) } rest
        | _ => .error (.misuse (if commands.isEmpty then .unknownArgument else .unknownCommand))

/-- Settles the last flag and fills in what the environment gives. -/
def complete (r : Reading) (flags : List Flag) (env : List (String × String)) :
    Except Halt Reading := do
  let r ← r.resolve
  flags.foldlM (fun (r : Reading) f =>
    if r.isGiven f then .ok r
    else
      match f.variable_.bind (env.lookup ·) with
      | none => .ok r
      | some s => r.accept f s false) r

/-- The value of a flag. -/
def value? (r : Reading) (name : String) : Option Value :=
  (r.given.find? (·.name == name)).map (·.value)

/-- The readings of a command and of what stands before it.  What is closer to the command counts more,
and what was said counts more than the environment. -/
def within (inner outer : Reading) : Reading :=
  let said (r : Reading) : List Given := r.given.filter (·.isExplicit)
  { given := said inner ++ said outer ++ inner.given ++ outer.given }

end Reading

end MapScout.CommandLine
