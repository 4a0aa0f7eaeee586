/-
Module: RuntimeConsole.Console.Schedule
Purpose: The work a console does by itself: tasks that were put off, streams of
  bytes that are served, and actions that become due.
Main exports:
  Step, Console.perform, Console.nextStep?, Console.settle, Console.advance,
  Console.launchConnects
-/
import RuntimeConsole.Console.Shells

namespace RuntimeConsole

/-- A piece of work a console does by itself. -/
inductive Step where
  /-- Carry out the oldest task. -/
  | task
  /-- Take the next line of a byte stream. -/
  | read (channel : Nat)
  /-- Write the next frame to a byte stream. -/
  | write (channel : Nat)
  /-- Stop serving a byte stream. -/
  | finish (channel : Nat)
  /-- Do what a debouncer put off. -/
  | fire (debouncer : Nat)
  /-- Give a launched command up. -/
  | giveUp (launch : Nat)
deriving Repr, DecidableEq, Inhabited

namespace Console

/-! ### Steps -/

/-- Carries out work that has been put off. -/
def runTask (console : Console) : Task → Console
  | .validate resolver row generation link =>
      console.call "validatepath" [.str link.text] (.validation resolver row generation link)
  | .resume call answer => console.deliver answer call.waiter
  | .chosen errand choice => console.resumeErrand choice errand

/-- Carries out the oldest task. -/
def runOldest (console : Console) : Console :=
  match console.tasks with
  | [] => console
  | task :: rest => { console with tasks := rest }.runTask task

/-- The byte stream of a channel, while it is served. -/
def servedWire? (console : Console) (channel : Nat) : Option Wire :=
  match console.channels[channel]? with
  | some (.wire wire) => if wire.serving then some wire else none
  | _ => none

/-- The console with the byte stream of a channel replaced. -/
def setWire (console : Console) (channel : Nat) (wire : Wire) : Console :=
  { console with channels := console.channels.set channel (.wire wire) }

/-- Stops serving a byte stream, which ends the connection if it is still the
one. -/
def finishWire (console : Console) (channel : Nat) : Console :=
  match console.servedWire? channel with
  | none => console
  | some wire =>
      let console := console.setWire channel { wire with serving := false }
      let console := if wire.remoteOpen then console.emit (.hungUp channel) else console
      console.endConnection wire.connection

/-- Takes the next line of a byte stream. -/
def readWire (console : Console) (channel : Nat) : Console :=
  match console.servedWire? channel with
  | none => console
  | some wire =>
      match wire.nextLine with
      | (.line bytes, rest) =>
          let console := console.setWire channel rest
          match readLine bytes with
          | .frame frame => console.handleFrame frame
          | .nothing => console
          | .malformed => console.finishWire channel
      | (.finished, _) => console.finishWire channel
      | (.waiting, _) => console

/-- Writes the next frame to a byte stream.  A runtime that closed its end does
not get it. -/
def writeWire (console : Console) (channel : Nat) : Console :=
  match console.servedWire? channel with
  | none => console
  | some wire =>
      match wire.outbound with
      | [] => console
      | frame :: rest =>
          let console := console.setWire channel { wire with outbound := rest }
          if wire.remoteOpen then console.emit (.sent channel frame) else console

/-- Does what a debouncer put off, if it is due. -/
def fireDebouncer (console : Console) (id : Nat) : Console :=
  match (console.debouncers[id]?).bind Debouncer.waiting with
  | some (due, action) =>
      if due ≤ console.now then (console.cancelDebounced id).runDebounced action else console
  | none => console

/-- The console with a launched command no longer waited for. -/
def closeLaunch (console : Console) (id : Nat) (launch : Launch) : Console :=
  { console with launches := console.launches.set id { launch with awaited := false } }

/-- Gives a launched command up, if it has not connected in time.  Its process is
ended, and the session may hear of it. -/
def giveUpLaunch (console : Console) (id : Nat) : Console :=
  match console.launches[id]? with
  | none => console
  | some launch =>
      if launch.awaited && launch.due ≤ console.now then
        let console :=
          (console.closeLaunch id launch).tryOnStream launch.stream ProcessStream.kill
        if console.host.reportsFailures then
          (console.emit (.reportedFailure launch.failure)).bootFailed launch.failure
        else console
      else console

/-- Does a piece of work. -/
def perform (console : Console) : Step → Console
  | .task => console.runOldest
  | .read channel => console.readWire channel
  | .write channel => console.writeWire channel
  | .finish channel => console.finishWire channel
  | .fire debouncer => console.fireDebouncer debouncer
  | .giveUp launch => console.giveUpLaunch launch

/-! ### The order of steps -/

/-- Whether the connection a byte stream serves is the one there is. -/
def isLive (console : Console) (wire : Wire) : Bool :=
  console.client.connection.map Connection.id == some wire.connection

/-- The work to be done for a channel.  What has arrived is read first, and what
was accepted is written before the service ends. -/
def channelStep? (console : Console) (channel : Nat) : Option Step :=
  match console.servedWire? channel with
  | none => none
  | some wire =>
      match wire.nextLine.1 with
      | .waiting =>
          if !wire.outbound.isEmpty then some (.write channel)
          else if console.isLive wire then none
          else some (.finish channel)
      | _ => some (.read channel)

/-- The work to be done for a debouncer. -/
def debouncerStep? (console : Console) (id : Nat) : Option Step :=
  match (console.debouncers[id]?).bind Debouncer.waiting with
  | some (due, _) => if due ≤ console.now then some (.fire id) else none
  | none => none

/-- The work to be done for a launched command. -/
def launchStep? (console : Console) (id : Nat) : Option Step :=
  match console.launches[id]? with
  | some launch =>
      if launch.awaited && launch.due ≤ console.now then some (.giveUp id) else none
  | none => none

/-- The piece of work to be done next, if there is any. -/
def nextStep? (console : Console) : Option Step :=
  (List.range console.channels.length).findSome? console.channelStep? <|>
    (if console.tasks.isEmpty then none else some .task) <|>
    (List.range console.debouncers.length).findSome? console.debouncerStep? <|>
    (List.range console.launches.length).findSome? console.launchStep?

/-- Whether nothing is left to be done. -/
def quiet (console : Console) : Bool := console.nextStep?.isNone

/-- Does what is to be done, at most so many steps. -/
def settleWithin (console : Console) : Nat → Console
  | 0 => console
  | limit + 1 =>
      match console.nextStep? with
      | some step => settleWithin (console.perform step) limit
      | none => console

/-- The size of what waits in a channel. -/
def channelLoad : Channel → Nat
  | .direct _ => 0
  | .wire wire => wire.inbound.length + wire.outbound.length + 1

/-- More steps than what is to be done can take.  Every byte that has arrived may
be a frame, every frame may change every cell of the screen, every cell may begin
a candidate, and every candidate is put off, sent and answered. -/
def workBound (console : Console) : Nat :=
  let size := console.terminal.grid.size
  let waiting :=
    (console.channels.map channelLoad).foldl Nat.add 0 + console.tasks.length +
      console.client.pending.length + console.debouncers.length + console.launches.length + 4
  4 * waiting * (size.rows.toNat * size.cols.toNat + waiting)

/-- Does everything there is to be done at the moment. -/
def settle (console : Console) : Console :=
  console.settleWithin console.workBound

/-! ### Launched commands that connect -/

/-- What a process has printed, as it is kept until a terminal shows it.  Bytes that
are no text are replaced. -/
def earlyPieces (bytes : List UInt8) : List String :=
  if bytes.isEmpty then [] else [String.ofList (Text.decodeLossy bytes)]

/-- A launched command connects.  What it has printed by then is kept for the
terminal.  The result says whether the command was still waited for. -/
def launchConnects (console : Console) (id : Nat) : Console × Bool :=
  match console.launches[id]? with
  | none => (console, false)
  | some launch =>
      if launch.awaited then
        let console := console.closeLaunch id launch
        let (console, printed) := console.readStream launch.stream
        let early := earlyPieces (printed.toOption.getD [])
        ((console.connect ⟨.running launch.stream, some early, true⟩).1, true)
      else (console, false)

/-! ### Time -/

/-- The times up to `limit` at which something is due, in their order. -/
def dueTimes (console : Console) (limit : Nat) : List Nat :=
  let debounced := console.debouncers.filterMap fun debouncer => debouncer.waiting.map Prod.fst
  let launched := (console.launches.filter Launch.awaited).map Launch.due
  ((debounced ++ launched).filter (· ≤ limit)).mergeSort (· ≤ ·)

/-- Lets the clock show a time and does what is then to be done. -/
def settleAt (console : Console) (time : Nat) : Console :=
  { console with now := time }.settle

/-- Lets time pass.  What becomes due is done at its time. -/
def advance (console : Console) (milliseconds : Nat) : Console :=
  let target := console.now + milliseconds
  ((console.dueTimes target).foldl settleAt console).settleAt target

end Console

end RuntimeConsole
