/-
Module: RuntimeConsole.Auxiliary.Registry
Purpose: The auxiliary terminals that are open.
Main exports:
  AuxiliaryTerminal, Registry, Registry.get?, Registry.insert, Registry.persist
-/
import RuntimeConsole.Auxiliary.Persisted
import RuntimeConsole.Terminal.Basic

namespace RuntimeConsole

/-- An auxiliary terminal with the shell attached to it. -/
structure AuxiliaryTerminal where
  terminal : Terminal
  /-- The number of the shell's stream. -/
  shell : Nat
  /-- The working directory of the shell. -/
  cwd : String
deriving Repr, DecidableEq, Inhabited

namespace AuxiliaryTerminal

/-- The identity of the terminal. -/
def id (aux : AuxiliaryTerminal) : TerminalId := aux.terminal.id

/-- What survives a restart. -/
def persisted (aux : AuxiliaryTerminal) : PersistedTerminal := ⟨aux.id, some aux.cwd⟩

end AuxiliaryTerminal

/-- The auxiliary terminals that are open, in the order in which they were
opened. -/
structure Registry where
  terminals : List AuxiliaryTerminal
deriving Repr, DecidableEq, Inhabited

namespace Registry

/-- No terminal open. -/
def empty : Registry := ⟨[]⟩

/-- The number of terminals open. -/
def size (registry : Registry) : Nat := registry.terminals.length

/-- The terminal with a given identity. -/
def get? (registry : Registry) (id : TerminalId) : Option AuxiliaryTerminal :=
  registry.terminals.find? fun aux => aux.id == id

/-- The identities in use. -/
def ids (registry : Registry) : List TerminalId :=
  registry.terminals.map AuxiliaryTerminal.id

/-- Whether an identity is in use. -/
def contains (registry : Registry) (id : TerminalId) : Bool :=
  registry.ids.contains id

/-- Adds a terminal. -/
def insert (registry : Registry) (aux : AuxiliaryTerminal) : Registry :=
  ⟨registry.terminals ++ [aux]⟩

/-- Removes the terminal with a given identity. -/
def erase (registry : Registry) (id : TerminalId) : Registry :=
  ⟨registry.terminals.filter fun aux => aux.id != id⟩

/-- Does something to the terminal with a given identity. -/
def modify (registry : Registry) (id : TerminalId) (change : Terminal → Terminal) : Registry :=
  ⟨registry.terminals.map fun aux =>
    if aux.id == id then { aux with terminal := change aux.terminal } else aux⟩

/-- What survives a restart, by identity. -/
def persist (registry : Registry) : List PersistedTerminal :=
  (registry.terminals.map AuxiliaryTerminal.persisted).mergeSort fun first second =>
    first.id.precedes second.id

end Registry

end RuntimeConsole
