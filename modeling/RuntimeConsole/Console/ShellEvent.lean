/-
Module: RuntimeConsole.Console.ShellEvent
Purpose: Everything that can happen while auxiliary terminals are opened, restored and
  closed, one thing at a time, in any order.
Main exports:
  ShellEvent, Console.applyShell, Console.runShells, Console.registeredFor
-/
import RuntimeConsole.Console.Schedule

namespace RuntimeConsole

/-- Something that happens to the auxiliary terminals.  Any number of operations may be under
way, each waiting for the user or to be taken up again. -/
inductive ShellEvent where
  /-- Opening a new terminal begins. -/
  | opens (ticket : Nat) (byCommand : Bool)
  /-- Restoring terminals begins. -/
  | restores (ticket : Nat) (items : List PersistedTerminal)
  /-- The user answers one of the open questions, perhaps by declining. -/
  | answers (question : Nat) (choice : Option String)
  /-- One of the operations that got their answers goes on. -/
  | resumes (task : Nat)
  | closes (id : TerminalId)
  /-- From now on other shells can be started, and their streams refuse other operations. -/
  | turns (refusal : String → Option String → Option String) (faults : StreamFaults)

/-- The operation an errand belongs to. -/
def Errand.ticket : Errand → Nat
  | .shell ticket => ticket
  | .newTerminal ticket _ => ticket
  | .restore ticket _ _ _ => ticket

/-- The errand that is put off in a task. -/
def Task.errand? : Task → Option Errand
  | .chosen errand _ => some errand
  | _ => none

/-- The operation that begins with an event. -/
def ShellEvent.begins? : ShellEvent → Option Nat
  | .opens ticket _ => some ticket
  | .restores ticket _ => some ticket
  | _ => none

namespace Console

/-- The user answers an open question, whichever it is. -/
def answerQuestion (console : Console) (question : Nat) (choice : Option String) : Console :=
  match console.errands[question]? with
  | none => console
  | some errand =>
      { console with errands := console.errands.eraseIdx question }.spawn (.chosen errand choice)

/-- Carries out work that has been put off, whenever its turn comes. -/
def resumeTask (console : Console) (task : Nat) : Console :=
  match console.tasks[task]? with
  | none => console
  | some found => { console with tasks := console.tasks.eraseIdx task }.runTask found

/-- The oldest question is one of the open ones. -/
theorem answerPrompt_eq (console : Console) (choice : Option String) :
    (console.answerPrompt choice).1 = console.answerQuestion 0 choice := by
  unfold answerPrompt answerQuestion
  cases console.errands <;> rfl

/-- The oldest task is one of those put off. -/
theorem runOldest_eq (console : Console) : console.runOldest = console.resumeTask 0 := by
  unfold runOldest resumeTask
  cases console.tasks <;> rfl

/-- The console after something has happened to the auxiliary terminals. -/
def applyShell (console : Console) : ShellEvent → Console
  | .opens ticket byCommand => console.newTerminal ticket byCommand
  | .restores ticket items => console.restoreTerminals ticket items
  | .answers question choice => console.answerQuestion question choice
  | .resumes task => console.resumeTask task
  | .closes id => (console.closeTerminal id).1
  | .turns refusal faults =>
      { console with host := { console.host with refusal := refusal, shellFaults := faults } }

/-- The console after several such events. -/
def runShells (console : Console) (events : List ShellEvent) : Console :=
  events.foldl applyShell console

theorem runShells_concat (console : Console) (events : List ShellEvent) (event : ShellEvent) :
    console.runShells (events ++ [event]) = (console.runShells events).applyShell event := by
  simp [runShells]

/-- The operation an event carries on. -/
def carries? (console : Console) : ShellEvent → Option Nat
  | .opens ticket _ => some ticket
  | .restores ticket _ => some ticket
  | .resumes task => (console.tasks[task]?.bind Task.errand?).map Errand.ticket
  | _ => none

/-- How many terminals an operation has registered in a run: those that are new after an
event that carries it on. -/
def registeredFor (ticket : Nat) (console : Console) : List ShellEvent → Nat
  | [] => 0
  | event :: events =>
      (if console.carries? event = some ticket then
          (console.applyShell event).registry.size - console.registry.size
        else 0) +
        registeredFor ticket (console.applyShell event) events

theorem registeredFor_concat (ticket : Nat) (console : Console) (events : List ShellEvent)
    (event : ShellEvent) :
    console.registeredFor ticket (events ++ [event]) =
      console.registeredFor ticket events +
        if (console.runShells events).carries? event = some ticket then
          (console.runShells (events ++ [event])).registry.size -
            (console.runShells events).registry.size
        else 0 := by
  induction events generalizing console with
  | nil => exact Nat.add_comm _ _
  | cons first events inductionHypothesis =>
      rw [List.cons_append, registeredFor, inductionHypothesis, registeredFor, Nat.add_assoc]
      rfl

end Console

end RuntimeConsole
