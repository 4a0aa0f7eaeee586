/-
Module: RuntimeConsole.Main
Purpose: The program itself: it reads lines, prints what the console shows, and
  keeps the state file.  What it does with a line is decided elsewhere.
Main exports:
  main
-/
import RuntimeConsole.CommandLine

namespace RuntimeConsole.CommandLine

/-- The content of a file, if it can be read. -/
def contentOf? (path : String) : IO (Option (List UInt8)) :=
  try
    let bytes ← IO.FS.readBinFile path
    pure (some bytes.toList)
  catch _ => pure none

/-- Prints a text at once. -/
def display (text : List Char) : IO Unit := do
  let out ← IO.getStdout
  out.putStr (String.ofList text)
  out.flush

/-- Takes lines until one ends the program or there are no more. -/
partial def converse (console : Console) : IO Console := do
  let text ← (← IO.getStdin).getLine
  match (Text.lines text.toList).head? with
  | none => pure console
  | some line =>
      match takeLine console (.ofText line) with
      | none => pure console
      | some (console, printed) =>
          display printed
          let (console, shown) := refresh console
          display shown
          converse console

/-- Writes the terminals to the state file of a directory. -/
def keep (directory : Option String) (terminals : List PersistedTerminal) : IO Unit :=
  match directory with
  | none => pure ()
  | some directory => do
      IO.FS.createDirAll directory
      IO.FS.writeFile (directory ++ "/terminals.json") (stateFile terminals)

/-- What the program finds around it.  It has no means to start another program, so
every start is refused. -/
def survey (directory : Option String) : IO Surroundings := do
  let saved ← directory.elim (pure none) fun directory =>
    contentOf? (directory ++ "/terminals.json")
  pure
    { platform := .posix
      loginShell := (← IO.getEnv "SHELL").getD "/bin/bash"
      home := (← IO.getEnv "HOME").getD ""
      directory := (← IO.currentDir).toString
      refusal := fun _ _ => some "no program can be started here"
      identities := .counting (← IO.rand 0 9999999)
      saved := saved.bind Text.decode? }

end RuntimeConsole.CommandLine

open RuntimeConsole in
/-- Runs the console on the lines of the standard input. -/
def main (args : List String) : IO UInt32 := do
  let directory := CommandLine.stateDirectory? (← IO.getEnv "HOME") (← IO.getEnv "XDG_DATA_HOME")
  let around ← CommandLine.survey directory
  let content ← (CommandLine.configPath? args).elim (pure none) CommandLine.contentOf?
  match CommandLine.configuration around.loginShell (fun _ => content) args with
  | .error failure =>
      (← IO.getStderr).putStrLn s!"Error: {failure.message}"
      pure 1
  | .ok config =>
      match CommandLine.start? around config with
      | none => pure 0
      | some console =>
          CommandLine.display (CommandLine.screen console)
          let console ← CommandLine.converse console
          CommandLine.keep directory (CommandLine.finish console)
          pure 0
