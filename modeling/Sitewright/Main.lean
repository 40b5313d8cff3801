import Sitewright.Command.Run

/-!
# The program

Runs a command on the files of the machine. What it prints goes to the standard output, and what is
wrong to the standard error.
-/

namespace Sitewright

/-- What an error of the machine says about a step on files. -/
def FileFault.ofIO : IO.Error → FileFault
  | .noFileOrDirectory .. => .missing
  | .alreadyExists .. => .taken
  | e => .other (toString e)

/-- A step on the files of the machine. -/
def onMachine {α : Type} (step : IO α) : IO (Except FileFault α) := do
  match ← step.toBaseIO with
  | .ok a => return .ok a
  | .error e => return .error (.ofIO e)

/-- The file system of the machine. -/
def FileSystem.machine : FileSystem IO where
  read path := onMachine (IO.FS.readFile path)
  isThere path := return (← onMachine (IO.FS.realPath path)).isOk
  makeFolders path := onMachine (IO.FS.createDirAll path)
  write path content := onMachine (IO.FS.writeFile path content)

/-- The text without the white space at its end. -/
def withoutEnd (s : String) : String :=
  String.ofList (Text.trimEndWhile Text.isSpace s.toList)

/-- Prints what is wrong and how the program is used. -/
def reportUsage (e : NoCommand) : IO UInt32 := do
  let stderr ← IO.getStderr
  stderr.putStrLn ("error: " ++ e.message)
  stderr.putStr Command.usage
  return 2

end Sitewright

open Sitewright in
/-- Runs the command that the arguments give. -/
def main (arguments : List String) : IO UInt32 := do
  match Command.read arguments with
  | .error .help => IO.print Command.usage; return 0
  | .error .version => IO.println (Command.programName ++ " " ++ Command.programVersion); return 0
  | .error e => reportUsage e
  | .ok command =>
    match ← (command.run FileSystem.machine).run with
    | .ok output => IO.println (withoutEnd output); return 0
    | .error e => (← IO.getStderr).putStrLn ("error: " ++ e.message); return 1
