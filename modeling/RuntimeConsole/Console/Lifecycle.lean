/-
Module: RuntimeConsole.Console.Lifecycle
Purpose: Connections to the runtime and the session that follows them.
Main exports:
  Console.connect, Console.disconnect, Console.endConnection, Console.boot,
  Console.start, Console.bootFailed, Console.activateSession
-/
import RuntimeConsole.Console.Preferences

namespace RuntimeConsole

/-- What became of a key event. -/
inductive KeyOutcome where
  /-- It was sent to the process attached. -/
  | written
  /-- It was left to the editor. -/
  | forwarded
  /-- A start was asked for. -/
  | startRequested
  | ignored
deriving Repr, DecidableEq, Inhabited

namespace Console

/-! ### Releases -/

/-- Ends a subscription. -/
def release (console : Console) : Release → Console
  | .clientObserver id => console.withClient (console.client.removeObserver id)
  | .handler name id => console.withClient (console.client.removeHandler name id)
  | .startHandler =>
      { console with terminal := { console.terminal with startHandler := none } }
  | .settingsObserver key => { console with settings := console.settings.release key }
  | .lineListener key => { console with terminal := console.terminal.removeListener key }
  | .resolver id =>
      match console.resolvers[id]? with
      | some resolver => console.setResolver id resolver.shutdown
      | none => console
  | .moduleListener key => { console with modules := console.modules.release key }
  | .debouncer id => console.cancelDebounced id

/-- Ends the subscriptions of a list, the most recent first. -/
def dispose (console : Console) (list : Disposables Release) : Console :=
  list.releaseOrder.foldl release console

/-! ### The session -/

/-- Shown when a start is asked for. -/
def startingMessage : String := "Starting Julia...\n\r"

/-- Shown when the runtime has gone away. -/
def exitMessage : String :=
  "\n\r\x1b[1m\r\x1b[31mJulia has exited.\x1b[0m Press Enter to start a new session.\n\r"

/-- Shown when the runtime could not be started. -/
def failureMessage (failure : Failure) : String :=
  "\x1b[31mFailed to start Julia: " ++ failure.message ++ "\x1b[0m\n\r"

/-- The console with its session in another state. -/
def withSessionState (console : Console) (state : SessionState) : Console :=
  { console with session := { console.session with state := state } }

/-- The console with its session holding something else for the time of a connection. -/
def withCycle (console : Console) (cycle : Cycle) : Console :=
  { console with session := { console.session with cycle := cycle } }

/-- Ends everything the session holds for the current connection. -/
def teardownCycle (console : Console) : Console :=
  (console.withCycle .empty).dispose console.session.cycle.disposables

/-- Takes what a process printed early.  It can be taken once. -/
def takeEarly (console : Console) (process : Nat) : Console × Option (List String) :=
  match console.processes[process]? with
  | some found =>
      ({ console with
          processes := console.processes.set process { found with early := none } },
        found.early)
  | none => (console, none)

/-- Shows what a process printed early, unless it has been taken before. -/
def replayEarly (console : Console) (process : Nat) : Console :=
  let (console, early) := console.takeEarly process
  (early.getD []).foldl writeText console

/-- Sets up what the session holds for the time of a connection: the prompt of
the runtime, the links of the screen, and the reports of modules. -/
def openCycle (console : Console) : Console × Cycle :=
  let (console, prompt) := console.observePrompt
  let (console, resolver) := console.addResolver
  let (console, lines) := console.addLineListener (.resolver resolver)
  let (console, debouncer) := console.addDebouncer console.host.moduleDebounce
  let (console, modules) := console.listenModules (.runtime debouncer)
  (console,
    ⟨⟨[.settingsObserver prompt, .lineListener lines, .resolver resolver,
        .moduleListener modules, .debouncer debouncer]⟩, some resolver⟩)

/-- A session that does not know that the last connection ended lets go of it. -/
def letGo (console : Console) : Console :=
  if console.session.state = .attached then console.detach.teardownCycle else console

/-- Attaches the stream of a process to the terminal. -/
def attachProcess (console : Console) (process : Nat) : Console :=
  match console.processes[process]? with
  | some found => console.attach found.stream
  | none => console

/-- Begins what the session holds for the time of a connection.  What it held before
ends. -/
def beginCycle (console : Console) : Console :=
  let (console, cycle) := console.openCycle
  ((console.withCycle cycle).dispose console.session.cycle.disposables).withSessionState .attached

/-- Shows the process of a connection that has begun, from what it printed early on. -/
def showProcess (console : Console) (process : Nat) : Console :=
  (console.letGo.attachProcess process).replayEarly process

/-- The session learns that a connection has begun. -/
def sessionBoot (console : Console) (process : Nat) : Console :=
  (console.showProcess process).beginCycle

/-- The session learns that a connection has ended. -/
def sessionDetached (console : Console) : Console :=
  if console.session.state = .attached then
    ((console.detach.writeText exitMessage).teardownCycle.resetPending).withSessionState .detached
  else console

/-! ### Connections

Observers are told while nothing is locked, so what they do with the client takes
effect at once, in the middle of the round in which the others are told.  The
first argument of the following functions says how deep such effects may still be
nested.  Two observers can call each other for ever, so there has to be a limit,
and the console takes note when it is met. -/

/-- How deep effects of observers on the client may be nested. -/
def nestingLimit : Nat := 100

/-- The console after an effect that was nested too deeply to be carried out. -/
def giveUpNesting (console : Console) : Console :=
  { console with overrun := true }

/-- Prepares a process to be connected: its stream and the channel to it. -/
def prepareProcess (console : Console) (spec : ProcessSpec) : Console × Nat × Nat :=
  let (console, stream) :=
    match spec.origin with
    | .fresh faults => console.addStream faults
    | .running stream => (console, stream)
  let channel : Channel := if spec.wired then .wire (.fresh 0) else .direct true
  ({ console with
      processes := console.processes ++ [⟨stream, spec.early⟩]
      channels := console.channels ++ [channel] },
    console.processes.length, console.channels.length)

/-- The channels with the one of a new connection serving it. -/
def serveChannel (console : Console) (channel connection : Nat) : Console :=
  match console.channels[channel]? with
  | some (.wire wire) =>
      { console with
        channels := console.channels.set channel (.wire { wire with connection := connection }) }
  | _ => console

/-- Installs a connection. -/
def installConnection (console : Console) (process channel : Nat) : Console × Nat :=
  let (client, id) := console.client.withFreshId
  ((console.withClient { client with connection := some ⟨id, channel, process⟩ }).serveChannel
    channel id, id)

/-- Launches a command as the runtime. -/
def launch (console : Console) (command : String) (patience : Nat) :
    Console × Except Failure Unit :=
  if console.host.concurrent then
    match console.host.refusal command none with
    | some reason => (console, .error (.spawn command reason))
    | none =>
        let (console, stream) := console.addStream .none
        ({ console with
            launches :=
              console.launches ++ [⟨command, stream, patience, console.now + patience, true⟩] },
          .ok ())
  else (console, .error (.invalidInput "booting needs a tokio runtime"))

mutual

/-- Connects a process.  A connection there is ends first.  The observers there
are when the connection begins are told in the order of their registration; the
result is the number of the connection. -/
def connectWithin (nesting : Nat) (console : Console) (spec : ProcessSpec) : Console × Nat :=
  match nesting with
  | 0 => (console.giveUpNesting, 0)
  | nesting + 1 =>
      let (console, process, channel) := console.prepareProcess spec
      let console :=
        if console.client.isConnected then disconnectWithin nesting console else console
      let (console, id) := console.installConnection process channel
      let observers := console.client.bootObservers
      (observers.foldl
        (fun console entry => tellBoot nesting console process entry.2) console, id)

/-- Ends the connection, if there is one.  The calls that wait fail, and the
observers there are by then are told in the order of their registration. -/
def disconnectWithin (nesting : Nat) (console : Console) : Console :=
  match nesting with
  | 0 => console.giveUpNesting
  | nesting + 1 =>
      if console.client.isConnected then
        let console := console.withClient { console.client with connection := none }
        let observers := console.client.detachObservers
        observers.foldl (fun console entry => tellDetach nesting console entry.2)
          console.resetPending
      else console

/-- Tells an observer that a connection has begun. -/
def tellBoot (nesting : Nat) (console : Console) (process : Nat) : BootObserver → Console
  | .session => console.sessionBoot process
  | .guest label takesEarly actions =>
      let (console, early) :=
        if takesEarly then
          let (console, early) := console.takeEarly process
          (console, some early.isSome)
        else (console, none)
      match nesting with
      | 0 => (console.emit (.guestSawBoot label early)).giveUpNesting
      | nesting + 1 =>
          actions.foldl (performWithin nesting) (console.emit (.guestSawBoot label early))

/-- Tells an observer that a connection has ended. -/
def tellDetach (nesting : Nat) (console : Console) : DetachObserver → Console
  | .session => console.sessionDetached
  | .guest label actions =>
      let console :=
        console.emit
          (.guestSawDetach label console.client.isConnected console.client.pending.length)
      match nesting with
      | 0 => console.giveUpNesting
      | nesting + 1 => actions.foldl (performWithin nesting) console

/-- Does what an observer does with the client. -/
def performWithin (nesting : Nat) (console : Console) : ClientAction → Console
  | .send name => console.send name []
  | .connect spec =>
      match nesting with
      | 0 => console.giveUpNesting
      | nesting + 1 => (connectWithin nesting console spec).1
  | .disconnect =>
      match nesting with
      | 0 => console.giveUpNesting
      | nesting + 1 => disconnectWithin nesting console
  | .boot =>
      match nesting with
      | 0 => console.giveUpNesting
      | nesting + 1 => (bootWithin nesting console).1

/-- Starts the runtime. -/
def bootWithin (nesting : Nat) (console : Console) : Console × Except Failure Unit :=
  match console.client.booter with
  | none => (console, .error (.invalidInput "no booter installed"))
  | some booter =>
      let console := console.emit (.booted booter.label)
      match booter.outcome, nesting with
      | .pending, _ => (console, .ok ())
      | .fails failure, _ => (console, .error failure)
      | .launches command patience, _ => console.launch command patience
      | .connects _, 0 => (console.giveUpNesting, .ok ())
      | .connects spec, nesting + 1 => ((connectWithin nesting console spec).1, .ok ())

end

/-- Connects a process.  A connection there is ends first, and the observers are
told.  The result is the number of the connection. -/
def connect (console : Console) (spec : ProcessSpec) : Console × Nat :=
  connectWithin nestingLimit console spec

/-- Ends the connection, if there is one, and tells the observers. -/
def disconnect (console : Console) : Console :=
  disconnectWithin nestingLimit console

/-- Ends the connection with a given number, if it is still the one there is. -/
def endConnection (console : Console) (id : Nat) : Console :=
  if console.client.connection.map Connection.id = some id then console.disconnect else console

/-- Starts the runtime. -/
def boot (console : Console) : Console × Except Failure Unit :=
  bootWithin nestingLimit console

/-! ### Starting -/

/-- Takes note that the runtime could not be started.  Only a session that waits
for it cares. -/
def bootFailed (console : Console) (failure : Failure) : Console :=
  if console.session.state = .starting then
    (console.withSessionState .detached).writeText (failureMessage failure)
  else console

/-- Starts the runtime, unless the session has one or waits for one.  The result
says whether it has been started. -/
def start (console : Console) : Console × Bool :=
  if console.session.state.canStart then
    match ((console.withSessionState .starting).writeText startingMessage).boot with
    | (console, .ok ()) => (console, true)
    | (console, .error failure) => (console.bootFailed failure, false)
  else (console, false)

/-- Asks a start handler to start a process. -/
def requestStart (console : Console) : Option StartHandler → Console × KeyOutcome
  | some .session => (console.start.1, .startRequested)
  | some (.guest label) => (console.emit (.guestStarted label), .startRequested)
  | none => (console, .ignored)

/-- Takes a key event in a terminal. -/
def pressKeyIn (console : Console) (terminal : Terminal) (event : KeyEvent) :
    Console × KeyOutcome :=
  if console.admits event terminal.keyFilter then
    match terminal.stream with
    | some stream =>
        match console.onStream stream fun stream => stream.write event.bytes with
        | (console, .ok ()) => (console, .written)
        | (console, .error _) => (console, .ignored)
    | none =>
        if event.key = .enter then console.requestStart terminal.startHandler
        else (console, .ignored)
  else (console, .forwarded)

/-- Takes a key event in the terminal of the runtime. -/
def pressKey (console : Console) (event : KeyEvent) : Console × KeyOutcome :=
  console.pressKeyIn console.terminal event

/-! ### Activation of the session -/

/-- Lets the session follow the connections and take requests for a start. -/
def activateSession (console : Console) : Console :=
  let (client, boot) := console.client.onBoot .session
  let (client, detach) := client.onDetached .session
  { console with
    client := client
    terminal := { console.terminal with startHandler := some .session }
    session :=
      { console.session with
        subscriptions :=
          console.session.subscriptions.addAll
            [.clientObserver boot, .clientObserver detach, .startHandler] } }

/-- Ends everything the session holds. -/
def deactivateSession (console : Console) : Console :=
  let console := console.teardownCycle
  let subscriptions := console.session.subscriptions
  { console with session := { console.session with subscriptions := .empty } }.dispose
    subscriptions

end Console

end RuntimeConsole
