/-
Module: RuntimeConsole.Link.Grammar
Purpose: The paths each platform writes, and the search for them in text.
Main exports:
  Platform.pathPattern, linkAt?, linksInLine, linksInText, findLinks
-/
import RuntimeConsole.Link.Basic
import RuntimeConsole.Platform
import RuntimeConsole.Text.Blank
import RuntimeConsole.Text.Digit
import RuntimeConsole.Text.Pattern

namespace RuntimeConsole

open Text (Pattern)

/-- The characters no path contains on any platform, blanks apart. -/
def pathPunctuation : List Char :=
  ['\x00', '!', '$', '\x60', '&', '*', '(', ')', '[', ']', '+', '\x27', '\x22', ':', ';']

/-- The characters paths are made of where the slash separates directories.  The
slash itself is among them. -/
def isPosixPathChar (c : Char) : Bool :=
  !(Text.isBlank c || pathPunctuation.contains c || c == '\\')

/-- The characters path segments are made of where backslash and slash separate
directories.  The backslash is among them, the slash is not. -/
def isWindowsPathChar (c : Char) : Bool :=
  !(Text.isBlank c || pathPunctuation.contains c || ['<', '>', '?', '|', '/'].contains c)

/-- One given character. -/
def literal (c : Char) : Pattern :=
  .one (· == c)

/-- One or two dots, two preferred. -/
def dots : Pattern :=
  .seq (literal '.') (.optional (literal '.'))

/-- A start of a path, if there is one, and separators with segments. -/
def pathWith (root : Pattern) (separator : Pattern) (segmentChar : Char → Bool) : Pattern :=
  .seq (.optional (.either root (.many (.one segmentChar))))
    (.many (.seq separator (.many (.one segmentChar))))

/-- The paths of a platform. -/
def Platform.pathPattern : Platform → Pattern
  | .posix => pathWith (.either dots (literal '~')) (literal '/') isPosixPathChar
  | .windows =>
      pathWith
        (.either (.seq (.one fun c => ('a' ≤ c && c ≤ 'z') || ('A' ≤ c && c ≤ 'Z')) (literal ':'))
          (.either dots (literal '~')))
        (.either (literal '\\') (literal '/')) isWindowsPathChar

/-- The digits of a line number: those after a colon, if there are any. -/
def lineDigits : List Char → List Char
  | ':' :: rest => rest.takeWhile Text.isDecimalDigit
  | _ => []

/-- The path, and the digits of the line number, that a text begins with. -/
def linkAt? (platform : Platform) (text : List Char) : Option (List Char × List Char) :=
  match platform.pathPattern.first? text with
  | none => none
  | some rest => some (text.take (text.length - rest.length), lineDigits rest)

/-- The link made of a path and the digits of a line number at a column.  Digits
that are not ASCII, and a number that is too large, stay in the text but name no
line. -/
def LinkMatch.ofParts (start : Nat) (path digits : List Char) : LinkMatch :=
  let text := if digits.isEmpty then path else path ++ ':' :: digits
  { text := String.ofList text
    path := String.ofList path
    line := (Text.readBounded? UInt32.size digits).map UInt32.ofNat
    start := start
    stop := start + text.length }

/-- The links of a line, from left to right and without overlaps.  `skip` counts
the characters that belong to the link found last. -/
def linksFrom (platform : Platform) : (skip column : Nat) → List Char → List LinkMatch
  | _, _, [] => []
  | skip + 1, column, _ :: rest => linksFrom platform skip (column + 1) rest
  | 0, column, c :: rest =>
      match linkAt? platform (c :: rest) with
      | none => linksFrom platform 0 (column + 1) rest
      | some (path, digits) =>
          let link := LinkMatch.ofParts column path digits
          link :: linksFrom platform (link.stop - column - 1) (column + 1) rest

/-- The links of a line. -/
def linksInLine (platform : Platform) (line : List Char) : List LinkMatch :=
  linksFrom platform 0 0 line

/-- The links of a text, line by line. -/
def linksInText (platform : Platform) (text : List Char) : List LinkMatch :=
  (Text.lines text).flatMap (linksInLine platform)

/-- The links of a string, line by line. -/
def findLinks (platform : Platform) (text : String) : List LinkMatch :=
  linksInText platform text.toList

end RuntimeConsole
