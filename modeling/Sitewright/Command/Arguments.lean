import Sitewright.Entries
import Sitewright.Text.Lines

/-!
# Arguments

How the arguments of a command are read. A command has switches, some of which take a value, and
positional arguments. A switch has a long name after two dashes and may have a short one, a
character after one dash; short switches can be written together. The value of a switch is what
follows it, attached or as the next argument. After two dashes alone every argument is positional.

A value is looked at when it is complete, that is when the next switch or positional argument
starts; so of two faults the one that is met first in this order is reported.
-/

namespace Sitewright

/-- Why arguments give no command. -/
inductive NoCommand where
  /-- Help is asked for. -/
  | help
  /-- The version is asked for. -/
  | version
  /-- No command is named. -/
  | missingCommand
  /-- There is no such command. -/
  | unknownCommand (name : String)
  /-- An argument is missing. -/
  | missingArgument (name : String)
  /-- There is no such argument. -/
  | unknownArgument (argument : String)
  /-- The value of an argument is missing or empty. -/
  | missingValue (name : String)
  /-- A value is given to a switch that takes none. -/
  | surplusValue (name : String)
  /-- A switch is given twice. -/
  | repeated (name : String)
  deriving DecidableEq

/-- The wording of what is wrong, if something is. -/
def NoCommand.message : NoCommand → String
  | help => ""
  | version => ""
  | missingCommand => "a command is required but none was given"
  | unknownCommand name => "unknown command '" ++ name ++ "'"
  | missingArgument name => "the argument <" ++ name ++ "> is required"
  | unknownArgument argument => "unexpected argument '" ++ argument ++ "'"
  | missingValue name => "a value is required for <" ++ name ++ ">"
  | surplusValue name => "no value is expected for --" ++ name
  | repeated name => "--" ++ name ++ " cannot be used twice"

namespace Arguments

/-! ### Grammars -/

/-- What a switch is for. -/
inductive Role where
  /-- It takes a value. -/
  | value
  /-- It takes none. -/
  | flag
  /-- It asks for help. -/
  | help
  /-- It asks for the version. -/
  | version
  deriving DecidableEq

/-- A switch. -/
structure Switch where
  /-- Its long name. -/
  long : String
  /-- Its short name. -/
  short : Option Char
  /-- What it is for. -/
  role : Role

/-- A positional argument. -/
structure Positional where
  /-- Its name. -/
  name : String
  /-- Whether it may be empty. -/
  mayBeEmpty : Bool

/-- The arguments of a command. -/
structure Grammar where
  /-- The switches. -/
  switches : List Switch
  /-- The positional arguments, in order. -/
  positionals : List Positional
  /-- The names of those that must be given. -/
  required : List String

/-- The switch with a long name. -/
def Grammar.long? (grammar : Grammar) (name : String) : Option Switch :=
  grammar.switches.find? fun s => s.long == name

/-- The switch with a short name. -/
def Grammar.short? (grammar : Grammar) (c : Char) : Option Switch :=
  grammar.switches.find? fun s => s.short == some c

/-! ### Reading -/

/-- An argument that is being read. -/
structure Pending where
  /-- Its name. -/
  name : String
  /-- Its value, if it has been met. -/
  value : Option String
  /-- Whether it may be empty. -/
  mayBeEmpty : Bool

/-- What has been read of the arguments of a command. -/
structure Scan where
  /-- The values that are complete; a flag has an empty one. -/
  given : List (String × String)
  /-- The argument that is being read. -/
  pending : Option Pending
  /-- Whether the next argument can be the value of a switch. -/
  awaits : Bool
  /-- The number of positional arguments so far. -/
  count : Nat
  /-- Whether every argument is positional from here on. -/
  isTrailing : Bool

namespace Scan

/-- Nothing has been read. -/
def empty : Scan := ⟨[], none, false, 0, false⟩

/-- Adds a value, unless there is one already. -/
def add (name value : String) (scan : Scan) : Except NoCommand Scan :=
  if scan.given.any fun entry => entry.1 == name then .error (.repeated name)
  else .ok { scan with given := scan.given ++ [(name, value)] }

/-- Completes the argument that is being read. -/
def settle (scan : Scan) : Except NoCommand Scan :=
  match scan.pending with
  | none => .ok scan
  | some p =>
    match p.value with
    | none => .error (.missingValue p.name)
    | some v => do
      let next ← { scan with pending := none }.add p.name v
      if v.isEmpty && !p.mayBeEmpty then throw (.missingValue p.name) else return next

/-- Starts to read another argument. -/
def begin (p : Pending) (scan : Scan) : Except NoCommand Scan := do
  let scan ← scan.settle
  return { scan with pending := some p, awaits := p.value.isNone }

/-- Reads a switch whose value is attached. -/
def attach (s : Switch) (value : String) (scan : Scan) : Except NoCommand Scan := do
  let scan ← scan.begin ⟨s.long, some value, false⟩
  scan.settle

/-- Reads a switch whose value, if it takes one, comes next. -/
def switch (s : Switch) (scan : Scan) : Except NoCommand Scan :=
  match s.role with
  | .value => scan.begin ⟨s.long, none, false⟩
  | .flag => do
    let scan ← scan.settle
    { scan with awaits := false }.add s.long ""
  | .help => do
    let _ ← scan.settle
    throw .help
  | .version => do
    let _ ← scan.settle
    throw .version

/-- Reads a positional argument. -/
def positional (grammar : Grammar) (argument : String) (scan : Scan) : Except NoCommand Scan :=
  match grammar.positionals[scan.count]? with
  | none => .error (.unknownArgument argument)
  | some p => do
    let scan ← scan.begin ⟨p.name, some argument, p.mayBeEmpty⟩
    return { scan with count := scan.count + 1 }

/-- Reads a long switch after its dashes. -/
def long (grammar : Grammar) (cs : List Char) (scan : Scan) : Except NoCommand Scan :=
  let name := String.ofList (cs.takeWhile (· != '='))
  match grammar.long? name, cs.dropWhile (· != '=') with
  | none, _ => .error (.unknownArgument ("--" ++ name))
  | some s, [] => scan.switch s
  | some s, _ :: value =>
    if s.role = .value then scan.attach s (String.ofList value) else .error (.surplusValue s.long)

/-- Reads short switches that are written together. The first that takes a value takes what is left,
with or without an equals sign before it. -/
def shorts (grammar : Grammar) : List Char → Scan → Except NoCommand Scan
  | [], scan => .ok scan
  | c :: cs, scan =>
    match grammar.short? c with
    | none => .error (.unknownArgument (String.ofList ['-', c]))
    | some s =>
      if s.role = .value then
        match cs with
        | [] => scan.switch s
        | '=' :: value => scan.attach s (String.ofList value)
        | value => scan.attach s (String.ofList value)
      else (scan.switch s).bind (shorts grammar cs)

/-- Reads one argument. -/
def step (grammar : Grammar) (scan : Scan) (argument : String) : Except NoCommand Scan :=
  if scan.isTrailing then scan.positional grammar argument
  else
    match argument.toList with
    | ['-', '-'] => .ok { scan with isTrailing := true }
    | '-' :: '-' :: cs => scan.long grammar cs
    | '-' :: c :: cs => scan.shorts grammar (c :: cs)
    | _ =>
      match scan.awaits, scan.pending with
      | true, some p =>
        .ok { scan with pending := some { p with value := some argument }, awaits := false }
      | _, _ => scan.positional grammar argument

/-- The values that were given, once all arguments have been read. -/
def finish (grammar : Grammar) (scan : Scan) : Except NoCommand (List (String × String)) := do
  let scan ← scan.settle
  match grammar.required.find? fun name => !scan.given.any fun entry => entry.1 == name with
  | some name => throw (.missingArgument name)
  | none => return scan.given

end Scan

/-- The values that arguments give. -/
def Grammar.read (grammar : Grammar) (arguments : List String) :
    Except NoCommand (List (String × String)) := do
  let scan ← arguments.foldlM (Scan.step grammar) .empty
  scan.finish grammar

end Arguments

end Sitewright
