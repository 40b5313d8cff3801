import Sitewright.Command.Arguments

/-!
# Commands

What can be asked for on the command line: compile a configuration into a folder, list the changes
between two configurations, classify an edit, and print the schema of configurations.
-/

namespace Sitewright

open Arguments

/-- What is to be compiled, and how. -/
structure CompileRequest where
  /-- The file with the configuration. -/
  config : String
  /-- The folder that the project is written to. -/
  out : String
  /-- The file with the image cache, which is read before and written after. -/
  cache : Option String
  /-- The file with the settings. -/
  settings : Option String
  /-- Whether pictures are left unresolved. -/
  isOffline : Bool
  deriving DecidableEq

/-- A command. -/
inductive Command where
  /-- Compiles a configuration. -/
  | compile (request : CompileRequest)
  /-- Lists the changes between two configurations. -/
  | diff (old new : String)
  /-- Classifies an edit of a configuration. -/
  | classify (config text : String)
  /-- Prints the schema of configurations. -/
  | schema
  deriving DecidableEq

namespace Command

/-! ### Grammars -/

/-- The name of the program. -/
def programName : String := "sitewright"

/-- The version of the program. -/
def programVersion : String := "0.1.0"

/-- The switches of every command. -/
def commonSwitches : List Switch := [⟨"log-json", none, .flag⟩, ⟨"help", some 'h', .help⟩]

/-- The arguments before the name of a command. -/
def outerGrammar : Grammar :=
  ⟨commonSwitches ++ [⟨"version", some 'V', .version⟩], [], []⟩

/-- The arguments of `compile`. -/
def compileGrammar : Grammar where
  switches := commonSwitches ++ [⟨"out", some 'o', .value⟩, ⟨"cache", none, .value⟩,
    ⟨"settings", none, .value⟩, ⟨"offline", none, .flag⟩]
  positionals := [⟨"config", false⟩]
  required := ["config", "out"]

/-- The arguments of `diff`. -/
def diffGrammar : Grammar :=
  ⟨commonSwitches, [⟨"old", false⟩, ⟨"new", false⟩], ["old", "new"]⟩

/-- The arguments of `classify`. -/
def classifyGrammar : Grammar :=
  ⟨commonSwitches, [⟨"config", false⟩, ⟨"text", true⟩], ["config", "text"]⟩

/-- The arguments of `schema`. -/
def schemaGrammar : Grammar := ⟨commonSwitches, [], []⟩

/-! ### Reading -/

/-- The value that was given under a name. -/
def valueOf? (name : String) (given : List (String × String)) : Option String :=
  Entries.find? name given

/-- The value that was given under a name, which is empty if there is none. -/
def valueOf (name : String) (given : List (String × String)) : String :=
  (valueOf? name given).getD ""

/-- The commands by name, each with its grammar and with what it makes of its values. -/
def named : List (String × Grammar × (List (String × String) → Command)) :=
  [("compile", compileGrammar, fun given =>
      compile ⟨valueOf "config" given, valueOf "out" given, valueOf? "cache" given,
        valueOf? "settings" given, (valueOf? "offline" given).isSome⟩),
    ("diff", diffGrammar, fun given => diff (valueOf "old" given) (valueOf "new" given)),
    ("classify", classifyGrammar, fun given =>
      classify (valueOf "config" given) (valueOf "text" given)),
    ("schema", schemaGrammar, fun _ => schema)]

/-- The name that asks for help. -/
def helpName : String := "help"

/-- Whether a command, or help, has a name. -/
def isName (name : String) : Bool := name == helpName || named.any fun entry => entry.1 == name

/-- What comes of asking for help: at most one command can be named. -/
def helpFor : List String → NoCommand
  | [] => .help
  | name :: rest =>
    if isName name then
      match rest with
      | [] => .help
      | other :: _ => .unknownCommand other
    else .unknownCommand name

/-- The command with a name and arguments. -/
def ofName (name : String) (arguments : List String) : Except NoCommand Command :=
  if name = helpName then .error (helpFor arguments)
  else
    match named.find? fun entry => entry.1 == name with
    | none => .error (.unknownCommand name)
    | some (_, grammar, make) => (grammar.read arguments).map make

/-- Whether an argument is a switch. -/
def isSwitch (argument : String) : Bool :=
  match argument.toList with
  | '-' :: _ :: _ => true
  | _ => false

/-- Reads the arguments before the name of a command, and then the command. -/
def readFrom (scan : Scan) : List String → Except NoCommand Command
  | [] => .error .missingCommand
  | argument :: rest =>
    if scan.isTrailing then
      .error (if isName argument then .unknownArgument argument else .unknownCommand argument)
    else if isName argument then ofName argument rest
    else if isSwitch argument then do
      let scan ← scan.step outerGrammar argument
      readFrom scan rest
    else .error (.unknownCommand argument)

/-- The command that arguments give. -/
def read (arguments : List String) : Except NoCommand Command := readFrom .empty arguments

/-- How the program is used. -/
def usage : String :=
  "Usage: " ++ programName ++ " [--log-json] <command>\n\n" ++
  "Commands:\n" ++
  "  compile <config> --out <folder> [--cache <file>] [--settings <file>] [--offline]\n" ++
  "  diff <old> <new>\n" ++
  "  classify <config> <text>\n" ++
  "  schema\n" ++
  "  help [command]\n"

end Command

end Sitewright
