/-
Module: RuntimeConsole.Console.Screen
Purpose: The terminal of the runtime inside a console: its output, its listeners,
  its stream, and the keys the user presses in it.
Main exports:
  Console.write, Console.notify, Console.attach, Console.pump, Console.resize
-/
import RuntimeConsole.Console.State
import RuntimeConsole.Keyboard.Input

namespace RuntimeConsole

namespace Console

/-- The console with another resolver in the place of one. -/
def setResolver (console : Console) (id : Nat) (resolver : Resolver) : Console :=
  { console with resolvers := console.resolvers.set id resolver }

/-- Tells a link resolver about a changed row.  Its candidates are put to the
runtime later, one after the other. -/
def resolverSeesLine (console : Console) (id : Nat) (change : LineChange) : Console :=
  match console.resolvers[id]? with
  | none => console
  | some resolver =>
      let (resolver, generation, candidates) := resolver.lineChanged change.row change.text
      let console := console.setResolver id resolver
      if resolver.validates then
        candidates.foldl
          (fun console link => console.spawn (.validate id change.row generation link)) console
      else console

/-- Tells a listener about a changed row. -/
def listenerSeesLine (console : Console) (change : LineChange) : LineListener → Console
  | .resolver id => console.resolverSeesLine id change
  | .guest label => console.emit (.guestSawLine label change.row change.text)

/-- Tells the listeners of the terminal about changed rows, row by row. -/
def notify (console : Console) (changes : List LineChange) : Console :=
  changes.foldl
    (fun console change =>
      console.terminal.listeners.foldl
        (fun console entry => console.listenerSeesLine change entry.2) console)
    console

/-- The console with another terminal, whose listeners are told about the rows
that changed. -/
def withTerminal (console : Console) (changed : Terminal × List LineChange) : Console :=
  { console with terminal := changed.1 }.notify changed.2

/-- Shows bytes in the terminal. -/
def write (console : Console) (bytes : List UInt8) : Console :=
  console.withTerminal (console.terminal.render bytes)

/-- Shows a text in the terminal. -/
def writeText (console : Console) (text : String) : Console :=
  console.write (Text.encode text.toList)

/-- Drops every line of the terminal but the current one. -/
def clear (console : Console) : Console :=
  console.withTerminal console.terminal.clear

/-- Attaches a stream to the terminal and tells it the size of the screen. -/
def attach (console : Console) (stream : Nat) : Console :=
  let console := { console with terminal := { console.terminal with stream := some stream } }
  console.tryOnStream stream fun stream => stream.resize console.terminal.grid.size

/-- Detaches the stream from the terminal.  What is shown stays. -/
def detach (console : Console) : Console :=
  { console with terminal := { console.terminal with stream := none } }

/-- Gives the screen another size and tells the stream. -/
def resize (console : Console) (size : Size) : Console × Except Failure Unit :=
  let console := console.withTerminal (console.terminal.resize size)
  match console.terminal.stream with
  | some stream => console.onStream stream fun stream => stream.resize size
  | none => (console, .ok ())

/-- Sends input to the process attached.  Without one it is dropped. -/
def sendInput (console : Console) (bytes : List UInt8) : Console × Except Failure Unit :=
  match console.terminal.stream with
  | some stream => console.onStream stream fun stream => stream.write bytes
  | none => (console, .ok ())

/-- Takes what the process behind a stream has printed. -/
def readStream (console : Console) (id : Nat) : Console × Except Failure (List UInt8) :=
  match console.stream? id with
  | none => (console, .ok [])
  | some stream =>
      match stream.read with
      | .ok (bytes, stream) => (console.setStream id stream, .ok bytes)
      | .error failure => (console, .error failure)

/-- Shows what the process attached has printed.  The result is the number of
bytes. -/
def pump (console : Console) : Console × Except Failure Nat :=
  match console.terminal.stream with
  | none => (console, .ok 0)
  | some id =>
      match console.readStream id with
      | (console, .ok bytes) =>
          (if bytes.isEmpty then console else console.write bytes, .ok bytes.length)
      | (console, .error failure) => (console, .error failure)

/-- Adds a listener for changed rows, removed by the key in the result.  It is
told at once about the rows that are not empty. -/
def addLineListener (console : Console) (listener : LineListener) : Console × Nat :=
  let (terminal, key, known) := console.terminal.addListener listener
  let console := { console with terminal := terminal }
  (known.foldl (fun console change => console.listenerSeesLine change listener) console, key)

/-- Whether a filter leaves a key event to the terminal. -/
def admits (console : Console) (event : KeyEvent) : Option KeyFilter → Bool
  | none => true
  | some (.lists kind) => console.allowLists.admits kind event
  | some (.fixed list) => list.verdict event.keystroke == .pass

end Console

end RuntimeConsole
