/-
Module: RuntimeConsole.Console.Messages
Purpose: What the console and the runtime say to each other over a connection.
Main exports:
  Console.send, Console.call, Console.deliver, Console.handleFrame
-/
import RuntimeConsole.Console.Screen

namespace RuntimeConsole

namespace Console

/-- Gives a frame to a channel.  The result says whether it was accepted. -/
def sendOver (console : Console) (channel : Nat) (frame : Frame) : Console × Bool :=
  match console.channels[channel]? with
  | some (.direct true) => (console.emit (.sent channel frame), true)
  | some (.wire wire) =>
      if wire.serving then
        ({ console with
            channels := console.channels.set channel
              (.wire { wire with outbound := wire.outbound ++ [frame] }) }, true)
      else (console, false)
  | _ => (console, false)

/-- Sends a frame to the runtime, if it is connected. -/
def sendFrame (console : Console) (frame : Frame) : Console :=
  match console.client.connection with
  | some connection => (console.sendOver connection.channel frame).1
  | none => console

/-- Sends a notice to the runtime, if it is connected. -/
def send (console : Console) (name : String) (args : List Json) : Console :=
  console.sendFrame (.message name args)

/-- What an answer to a caller of the embedding program comes to. -/
def expectedOutcome (expected : Expectation) (value : Json) : Outcome :=
  match expected, value with
  | .any, value => .answered value
  | .bool, .bool value => .answered (.bool value)
  | .string, .str value => .answered (.str value)
  | _, _ => .failed (.serialization "unexpected answer")

/-- Opens a link whose full path the runtime gave, unless the connection it
belongs to has ended. -/
def openLinkFile (console : Console) (ticket resolver : Nat) (link : LinkMatch)
    (path : String) : Console :=
  if (console.resolvers[resolver]?).elim false Resolver.alive then
    let console := console.emit (.openFile path link.openLine true)
    match console.host.openFailure with
    | none => console.finish ticket (.linkOpened true)
    | some failure => console.finish ticket (.failed failure)
  else console.finish ticket (.linkOpened false)

/-- Goes on with the answer to a call, or without one. -/
def deliver (console : Console) (answer : Except Failure Json) : Waiter → Console
  | .validation resolver row generation link =>
      match answer, console.resolvers[resolver]? with
      | .ok (.bool true), some found =>
          console.setResolver resolver (found.accept row generation link)
      | _, _ => console
  | .opening ticket resolver link =>
      match answer with
      | .ok (.str path) => console.openLinkFile ticket resolver link path
      | .ok _ => console.finish ticket (.failed (.serialization "expected a path"))
      | .error failure => console.finish ticket (.failed failure)
  | .guest ticket expected =>
      match answer with
      | .ok value => console.finish ticket (expectedOutcome expected value)
      | .error failure => console.finish ticket (.failed failure)

/-- Calls the runtime.  Without a connection that takes frames the call fails at
once. -/
def call (console : Console) (name : String) (args : List Json) (waiter : Waiter) : Console :=
  match console.client.connection with
  | none => console.deliver (.error (.disconnected name)) waiter
  | some connection =>
      let (client, id) := console.client.withFreshId
      match (console.withClient client).sendOver connection.channel (.call id name args) with
      | (console, true) => console.withClient (console.client.addPending ⟨id, name, waiter⟩)
      | (console, false) => console.deliver (.error (.disconnected name)) waiter

/-- Fails a call that waits. -/
def failCall (console : Console) (pending : PendingCall) : Console :=
  console.spawn (.resume pending (.error (.disconnected pending.name)))

/-- Fails every call that waits. -/
def resetPending (console : Console) : Console :=
  let pending := console.client.pending
  pending.foldl failCall (console.withClient { console.client with pending := [] })

/-- Answers the waiting call with a given number. -/
def complete (console : Console) (id : Nat)
    (answer : PendingCall → Except Failure Json) : Console :=
  match console.client.pendingCall? id with
  | none => console
  | some pending =>
      (console.withClient (console.client.removePending id)).spawn
        (.resume pending (answer pending))

/-- What is written before the position of the cursor is reported: the end of all
attributes. -/
def cursorReset : String := "\x1b[0m"

/-- Lets the editor show the messages in the first argument, none if there is no
argument. -/
def showLint (console : Console) (args : List Json) : Console × Except Failure Json :=
  match (args.head?.getD (.arr [])).asList LintMessage.ofJson with
  | .ok messages => (console.emit (.showedLint messages), .ok .null)
  | .error failure => (console, .error failure)

/-- Carries out something the runtime asked for. -/
def handle (console : Console) (args : List Json) : Handler → Console × Except Failure Json
  | .refreshWorkspace => (console.emit .refreshedWorkspace, .ok .null)
  | .clearTerminal => (console.clear, .ok .null)
  | .reportCursor =>
      let console := console.writeText cursorReset
      let position := console.terminal.grid.cursor.position
      (console, .ok (.arr [.int position.col.toNat, .int position.row.toNat]))
  | .showLint => console.showLint args
  | .clearLint => (console.emit .clearedLint, .ok .null)
  | .guest label sends reply =>
      let console := console.emit (.guestHandled label args)
      (match sends with
        | some name => console.send name []
        | none => console, reply args)

/-- Carries out what the runtime asks for by name. -/
def dispatch (console : Console) (name : String) (args : List Json) :
    Console × Except Failure Json :=
  match console.client.handler? name with
  | some handler => console.handle args handler
  | none => (console, .error (.unknownHandler name))

/-- The answer to a call of the runtime. -/
def replyFrame (id : Nat) : Except Failure Json → Frame
  | .ok result => .response id result
  | .error failure => .error id failure.message

/-- Takes a frame of the runtime. -/
def handleFrame (console : Console) : Frame → Console
  | .message name args => (console.dispatch name args).1
  | .call id name args =>
      let (console, result) := console.dispatch name args
      console.sendFrame (replyFrame id result)
  | .response id result => console.complete id fun _ => .ok result
  | .error id message => console.complete id fun pending => .error (.remote pending.name message)

/-- Asks the runtime for the full path of a link and opens it when the answer
comes, as long as the connection lasts. -/
def activateLink (console : Console) (ticket resolver : Nat) (link : LinkMatch) : Console :=
  if (console.resolvers[resolver]?).elim false Resolver.alive then
    console.call "fullpath" [.str link.path] (.opening ticket resolver link)
  else console.finish ticket (.linkOpened false)

/-- Opens the link at a position of the screen, if there is one. -/
def activateAt (console : Console) (ticket resolver : Nat) (position : Position) : Console :=
  match (console.resolvers[resolver]?).bind fun found => found.linkAt? position with
  | some link => console.activateLink ticket resolver link
  | none => console.finish ticket (.linkOpened false)

/-- Adds a link resolver, whose number is in the result. -/
def addResolver (console : Console) : Console × Nat :=
  ({ console with
      resolvers :=
        console.resolvers ++ [.fresh console.host.platform console.host.concurrent] },
    console.resolvers.length)

end Console

end RuntimeConsole
