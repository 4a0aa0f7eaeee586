/-
Module: RuntimeConsole.Console.Activation
Purpose: The console as a whole: how it is set up, the commands it carries out,
  and how it is taken down.
Main exports:
  ConsoleParts, Console.activate?, Console.execute, Console.openLink,
  Console.pumpAll, Console.deactivate
-/
import RuntimeConsole.Console.Command
import RuntimeConsole.Console.Schedule

namespace RuntimeConsole

/-- What a console is set up with. -/
structure ConsoleParts where
  settings : Settings
  host : Host
  /-- What starts the runtime, if anything does. -/
  booter : Option Booter
  /-- Whether the editor shows lint messages. -/
  showsLint : Bool
  /-- The auxiliary terminals of an earlier time. -/
  persisted : List PersistedTerminal

namespace Console

/-- Shown in the terminal of the runtime at first. -/
def banner : String := "\x1b[1m\x1b[32mPress Enter to start Julia. \x1b[0m\n\r"

/-- The terminal of the runtime, set up as the settings say. -/
def runtimeTerminal (settings : Settings) : Terminal :=
  { Terminal.new .repl
      { TerminalOptions.standard with
        title := "REPL"
        scrollback := settings.scrollback
        cursorStyle := settings.cursorStyle } with
    keyFilter := some (.lists .repl) }

/-- Lets the console serve what the runtime asks for under a name. -/
def serve (console : Console) (name : String) (handler : Handler) : Console :=
  let (client, id) := console.client.onMessage name handler
  { console with
    client := client
    subscriptions := console.subscriptions.add (.handler name id) }

/-- What a console serves in any case. -/
def basicHandlers : List (String × Handler) :=
  [("updateWorkspace", .refreshWorkspace), ("clearconsole", .clearTerminal),
    ("cursorpos", .reportCursor)]

/-- What a console serves where the editor shows lint messages. -/
def lintHandlers : List (String × Handler) :=
  [("staticLint", .showLint), ("clearLint", .clearLint)]

/-- Lets the console serve several requests. -/
def serveAll (console : Console) (handlers : List (String × Handler)) : Console :=
  handlers.foldl (fun console entry => console.serve entry.1 entry.2) console

/-- The console before the terminals of an earlier time are restored. -/
def wired (parts : ConsoleParts) : Console :=
  let console := unwired parts.host parts.settings (runtimeTerminal parts.settings)
  let (console, lists) := console.bindAllowLists
  let console := { console with subscriptions := console.subscriptions.addAll lists }
  let console := console.writeText banner
  let console := console.withClient { console.client with booter := parts.booter }
  let console := console.serveAll basicHandlers
  let console := if parts.showsLint then console.serveAll lintHandlers else console
  console.activateSession

/-- The ticket under which the terminals of an earlier time are restored. -/
def activationTicket : Nat := 0

/-- Sets a console up, unless another console is to be shown. -/
def activate? (parts : ConsoleParts) : Option Console :=
  match parts.settings.style with
  | .legacy => none
  | .replBased =>
      let console := wired parts
      if parts.persisted.isEmpty then some console
      else some (console.restoreTerminals activationTicket parts.persisted)

/-- Shows or hides the terminal of the runtime. -/
def setOpen (console : Console) (isOpen : Bool) : Console :=
  { console with terminal := { console.terminal with isOpen := isOpen } }

/-- Carries out a command. -/
def execute (console : Console) (ticket : Nat) : Command → Console
  | .openConsole => (console.setOpen true).finish ticket (.executed .opened)
  | .clearConsole => console.clear.finish ticket (.executed .cleared)
  | .copyOrInterrupt =>
      console.finish ticket <| .executed <|
        match console.terminal.copySelection with
        | some text => .copied (String.ofList text)
        | none => .dispatched interruptCommand
  | .newTerminal => console.newTerminal ticket true

/-- Opens the link at a position of the screen, if there is one. -/
def openLink (console : Console) (ticket : Nat) (position : Position) : Console :=
  match console.session.cycle.resolver with
  | some resolver => console.activateAt ticket resolver position
  | none => console.finish ticket (.linkOpened false)

/-- Shows what the runtime and the shells have printed.  The result is the number
of bytes; a stream that refuses counts for none. -/
def pumpAll (console : Console) : Console × Nat :=
  let (console, result) := console.pump
  let (console, shells) := console.pumpShells
  (console, result.toOption.getD 0 + shells)

/-- Takes the console down.  The result are the auxiliary terminals there were. -/
def deactivate (console : Console) : Console × List PersistedTerminal :=
  let persisted := console.registry.persist
  let subscriptions := console.subscriptions
  let console := { console with subscriptions := .empty }.dispose subscriptions
  (console.deactivateSession.shutdownShells, persisted)

end Console

end RuntimeConsole
