/-
Module: RuntimeConsole.Platform
Purpose: The flavour of paths a system uses.
Main exports:
  Platform
-/

namespace RuntimeConsole

/-- The flavour of paths a system uses. -/
inductive Platform where
  | posix
  | windows
deriving Repr, DecidableEq, Inhabited

/-- The name of a platform. -/
def Platform.name : Platform → String
  | posix => "posix"
  | windows => "windows"

end RuntimeConsole
