/-
Module: RuntimeConsole.Auxiliary.Directory
Purpose: Directories as users write them, and the comparison of paths.
Main exports:
  Directory.join, Directory.expandHome, Directory.same
-/
import RuntimeConsole.Text.Blank

namespace RuntimeConsole.Directory

/-- Whether a path starts at the root. -/
def isAbsolute (path : List Char) : Bool :=
  path.head? == some '/'

/-- A path inside a directory.  An absolute path stands for itself. -/
def joinChars (base path : List Char) : List Char :=
  if isAbsolute path then path
  else if base.isEmpty || base.getLast? == some '/' then base ++ path
  else base ++ '/' :: path

/-- A path with a leading tilde replaced by the home directory.  The tilde
counts alone or before a separator, which may be a backslash too; what follows
is taken relative to the home directory. -/
def expandHomeChars (home path : List Char) : List Char :=
  match path with
  | ['~'] => home
  | '~' :: '/' :: rest => joinChars home rest
  | '~' :: '\\' :: rest => joinChars home rest
  | path => path

/-- A path with a leading tilde replaced by the home directory. -/
def expandHome (home path : String) : String :=
  String.ofList (expandHomeChars home.toList path.toList)

/-- The directories a path leads through.  Empty parts and dots lead nowhere,
except for a dot that begins a relative path. -/
def components (path : List Char) : List (List Char) :=
  let parts := Text.splitOn '/' path
  let steps := parts.filter fun part => !part.isEmpty && part != ['.']
  if isAbsolute path then ['/'] :: steps
  else if parts.head? == some ['.'] then ['.'] :: steps
  else steps

/-- Whether two paths are written alike up to what leads nowhere. -/
def same (first second : String) : Bool :=
  components first.toList == components second.toList

end RuntimeConsole.Directory
