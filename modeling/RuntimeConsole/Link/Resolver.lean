/-
Module: RuntimeConsole.Link.Resolver
Purpose: The links of a screen: candidates, and those the runtime confirmed.
Main exports:
  Resolver, Resolver.lineChanged, Resolver.accept, Resolver.links, Resolver.linkAt?
-/
import RuntimeConsole.Geometry
import RuntimeConsole.Link.Grammar

namespace RuntimeConsole

/-- What is known about the links of a row. -/
structure RowLinks where
  row : UInt16
  /-- How often the row has changed. -/
  generation : Nat
  /-- The confirmed links, in the order of their confirmation. -/
  links : List LinkMatch
deriving Repr, DecidableEq, Inhabited

/-- The links of a screen, for the time of one connection. -/
structure Resolver where
  platform : Platform
  /-- Whether the connection it works for still lasts. -/
  alive : Bool
  /-- Whether candidates are put to the runtime at all. -/
  validates : Bool
  /-- The rows that have changed, each once. -/
  rows : List RowLinks
deriving Repr, DecidableEq, Inhabited

namespace Resolver

/-- A resolver that knows no row. -/
def fresh (platform : Platform) (validates : Bool) : Resolver :=
  ⟨platform, true, validates, []⟩

/-- What is known about a row. -/
def row? (resolver : Resolver) (row : UInt16) : Option RowLinks :=
  resolver.rows.find? fun entry => entry.row == row

/-- The rows with what is known about one of them replaced. -/
def setRow (entry : RowLinks) : List RowLinks → List RowLinks
  | [] => [entry]
  | other :: rest => if other.row == entry.row then entry :: rest else other :: setRow entry rest

/-- Takes note of the text of a row.  The links known for the row are forgotten;
the result are the new generation of the row and the candidates in it. -/
def lineChanged (resolver : Resolver) (row : UInt16) (text : List Char) :
    Resolver × Nat × List LinkMatch :=
  if resolver.alive then
    let generation := (resolver.row? row).elim 1 fun entry => entry.generation + 1
    let candidates := linksInText resolver.platform text
    ({ resolver with rows := setRow ⟨row, generation, []⟩ resolver.rows }, generation,
      candidates)
  else (resolver, 0, [])

/-- Takes note of a confirmed candidate, unless its row has changed since. -/
def accept (resolver : Resolver) (row : UInt16) (generation : Nat) (link : LinkMatch) :
    Resolver :=
  match resolver.row? row with
  | some entry =>
      if resolver.alive && entry.generation == generation then
        { resolver with
          rows := setRow { entry with links := entry.links ++ [link] } resolver.rows }
      else resolver
  | none => resolver

/-- Ends the work for a connection. -/
def shutdown (resolver : Resolver) : Resolver :=
  { resolver with alive := false, rows := [] }

/-- The order of links on a screen. -/
def linkOrder (first second : UInt16 × LinkMatch) : Bool :=
  first.1 < second.1 || (first.1 == second.1 && first.2.start ≤ second.2.start)

/-- The confirmed links by row and column.  Links that begin at the same place
stay in the order of their confirmation. -/
def links (resolver : Resolver) : List (UInt16 × LinkMatch) :=
  (resolver.rows.flatMap fun entry => entry.links.map fun link => (entry.row, link)).mergeSort
    linkOrder

/-- The confirmed link at a position. -/
def linkAt? (resolver : Resolver) (position : Position) : Option LinkMatch :=
  (resolver.row? position.row).bind fun entry =>
    entry.links.find? fun link => link.containsCol position.col.toNat

end Resolver

end RuntimeConsole
