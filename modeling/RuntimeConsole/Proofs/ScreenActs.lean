/-
Module: RuntimeConsole.Proofs.ScreenActs
Purpose: What each event does to the screen of the runtime's terminal, as a list of acts
  that can be told in advance.
Main exports:
  ScreenAct, Console.screenActs
-/
import RuntimeConsole.Proofs.SessionFootprint

namespace RuntimeConsole

/-- Something done to the screen. -/
inductive ScreenAct where
  | shows (bytes : List UInt8)
  /-- The session says that the runtime has gone away. -/
  | announcesExit
  | clears
  | resizes (size : Size)
deriving DecidableEq

namespace ScreenAct

/-- A text is shown. -/
def text (text : String) : ScreenAct := .shows (Text.encode text.toList)

/-- The display after an act. -/
def on (display : Display) : ScreenAct → Display
  | shows bytes => display.feed bytes
  | announcesExit => display.feed (Text.encode Console.exitMessage.toList)
  | clears => { display with grid := display.grid.clear }
  | resizes size => { display with grid := display.grid.resize size }

/-- Whether an act gives the screen another size. -/
def isResize : ScreenAct → Bool
  | resizes _ => true
  | shows _ | announcesExit | clears => false

end ScreenAct

/-- Whether an observer of connections takes what the process printed early. -/
def BootObserver.takesEarly : BootObserver → Bool
  | .session => false
  | .guest _ takes _ => takes

namespace Console

/-! ### The acts of an event -/

def disconnectActs (console : Console) : List ScreenAct :=
  if console.client.isConnected then [.announcesExit] else []

/-- What the process of a new connection printed early is shown, unless code of the
embedding program takes it.  A connection there is ends first. -/
def connectActs (console : Console) (spec : ProcessSpec) : List ScreenAct :=
  console.disconnectActs ++
    (if console.client.bootObservers.any fun entry => entry.2.takesEarly then []
      else spec.early.getD []).map .text

def endConnectionActs (console : Console) (id : Nat) : List ScreenAct :=
  if console.client.connection.map Connection.id = some id then console.disconnectActs else []

/-- A failure is shown to the user who waits for the runtime. -/
def bootFailedActs (console : Console) (failure : Failure) : List ScreenAct :=
  if console.session.state = .starting then [.text (failureMessage failure)] else []

/-- What comes of starting the runtime: a connection may begin at once, and a failure is
shown. -/
def bootActs (console : Console) : List ScreenAct :=
  match console.client.booter with
  | none => [.text (failureMessage (.invalidInput "no booter installed"))]
  | some booter =>
      match booter.outcome with
      | .pending => []
      | .fails failure => [.text (failureMessage failure)]
      | .connects spec => console.connectActs spec
      | .launches command patience =>
          match (console.launch command patience).2 with
          | .ok () => []
          | .error failure => [.text (failureMessage failure)]

def startActs (console : Console) : List ScreenAct :=
  if console.session.state.canStart then .text startingMessage :: console.bootActs else []

/-- Only two of the things the runtime can ask for show on the screen. -/
def handlerActs : Handler → List ScreenAct
  | .clearTerminal => [.clears]
  | .reportCursor => [.text cursorReset]
  | _ => []

def frameActs (console : Console) : Frame → List ScreenAct
  | .message name _ | .call _ name _ => (console.client.handler? name).elim [] handlerActs
  | .response _ _ | .error _ _ => []

def finishActs (console : Console) (channel : Nat) : List ScreenAct :=
  match console.servedWire? channel with
  | none => []
  | some wire => console.endConnectionActs wire.connection

def readActs (console : Console) (channel : Nat) : List ScreenAct :=
  match console.servedWire? channel with
  | none => []
  | some wire =>
      match wire.nextLine.1 with
      | .line bytes =>
          match readLine bytes with
          | .frame frame => console.frameActs frame
          | .nothing => []
          | .malformed => console.endConnectionActs wire.connection
      | .finished => console.endConnectionActs wire.connection
      | .waiting => []

/-- A key shows only where it asks the session for a start. -/
def pressActs (console : Console) (key : KeyEvent) : List ScreenAct :=
  if console.asksSession key then console.startActs else []

def launchedActs (console : Console) (id : Nat) : List ScreenAct :=
  match console.launches[id]? with
  | none => []
  | some launch =>
      if launch.awaited then
        console.connectActs ⟨.running launch.stream,
          some (earlyPieces ((console.readStream launch.stream).2.toOption.getD [])), true⟩
      else []

def pumpActs (console : Console) : List ScreenAct :=
  match console.terminal.stream with
  | none => []
  | some id =>
      match (console.readStream id).2 with
      | .ok bytes => [.shows bytes]
      | .error _ => []

def giveUpActs (console : Console) (id : Nat) : List ScreenAct :=
  match console.launches[id]? with
  | none => []
  | some launch =>
      if launch.awaited && launch.due ≤ console.now && console.host.reportsFailures then
        console.bootFailedActs launch.failure
      else []

/-- What an event does to the screen, one act after the other. -/
def screenActs (console : Console) : Event → List ScreenAct
  | .start => console.startActs
  | .press key => console.pressActs key
  | .bootFailed failure => console.bootFailedActs failure
  | .connect spec => console.connectActs spec
  | .launched id => console.launchedActs id
  | .disconnect => console.disconnectActs
  | .endConnection id => console.endConnectionActs id
  | .frame frame => console.frameActs frame
  | .write bytes => [.shows bytes]
  | .pump => console.pumpActs
  | .clear => [.clears]
  | .resize size => [.resizes size]
  | .work (.read channel) => console.readActs channel
  | .work (.finish channel) => console.finishActs channel
  | .work (.giveUp id) => console.giveUpActs id
  | _ => []

/-! ### Acts that keep the size -/

section

variable (console : Console)

theorem disconnectActs_keep : console.disconnectActs.any ScreenAct.isResize = false := by
  unfold disconnectActs
  split <;> rfl

theorem connectActs_keep (spec : ProcessSpec) :
    (console.connectActs spec).any ScreenAct.isResize = false := by
  have texts (texts : List String) : (texts.map ScreenAct.text).any ScreenAct.isResize = false := by
    simp [ScreenAct.text, ScreenAct.isResize]
  rw [connectActs, List.any_append, disconnectActs_keep, texts]
  rfl

theorem endConnectionActs_keep (id : Nat) :
    (console.endConnectionActs id).any ScreenAct.isResize = false := by
  unfold endConnectionActs
  split
  · exact console.disconnectActs_keep
  · rfl

theorem bootFailedActs_keep (failure : Failure) :
    (console.bootFailedActs failure).any ScreenAct.isResize = false := by
  unfold bootFailedActs
  split <;> rfl

theorem startActs_keep : console.startActs.any ScreenAct.isResize = false := by
  have booted : console.bootActs.any ScreenAct.isResize = false := by
    unfold bootActs
    split
    · rfl
    · split
      · rfl
      · rfl
      · exact console.connectActs_keep _
      · split <;> rfl
  unfold startActs
  split
  · exact booted
  · rfl

theorem frameActs_keep (frame : Frame) :
    (console.frameActs frame).any ScreenAct.isResize = false := by
  have requested (name : String) :
      ((console.client.handler? name).elim [] handlerActs).any ScreenAct.isResize = false := by
    cases console.client.handler? name with
    | none => rfl
    | some handler => cases handler <;> rfl
  cases frame with
  | message name args => exact requested name
  | call id name args => exact requested name
  | response id result => rfl
  | error id text => rfl

theorem workActs_keep (step : Step) :
    (console.screenActs (.work step)).any ScreenAct.isResize = false := by
  cases step with
  | task => rfl
  | read channel =>
      change (console.readActs channel).any ScreenAct.isResize = false
      unfold readActs
      split
      · rfl
      · split
        · split
          · exact console.frameActs_keep _
          · rfl
          · exact console.endConnectionActs_keep _
        · exact console.endConnectionActs_keep _
        · rfl
  | write channel => rfl
  | finish channel =>
      change (console.finishActs channel).any ScreenAct.isResize = false
      unfold finishActs
      split
      · rfl
      · exact console.endConnectionActs_keep _
  | fire debouncer => rfl
  | giveUp launch =>
      change (console.giveUpActs launch).any ScreenAct.isResize = false
      unfold giveUpActs
      split
      · rfl
      · split
        · exact console.bootFailedActs_keep _
        · rfl

/-- Only a resize gives the screen another size. -/
theorem screenActs_keep (event : Event) (other : ∀ size, event ≠ .resize size) :
    (console.screenActs event).any ScreenAct.isResize = false := by
  cases event with
  | start => exact console.startActs_keep
  | press key =>
      change (console.pressActs key).any ScreenAct.isResize = false
      unfold pressActs
      split
      · exact console.startActs_keep
      · rfl
  | bootFailed failure => exact console.bootFailedActs_keep failure
  | connect spec => exact console.connectActs_keep spec
  | launched id =>
      change (console.launchedActs id).any ScreenAct.isResize = false
      unfold launchedActs
      split
      · rfl
      · split
        · exact console.connectActs_keep _
        · rfl
  | disconnect => exact console.disconnectActs_keep
  | endConnection id => exact console.endConnectionActs_keep id
  | frame frame => exact console.frameActs_keep frame
  | pump =>
      change console.pumpActs.any ScreenAct.isResize = false
      unfold pumpActs
      split
      · rfl
      · split <;> rfl
  | resize size => exact absurd rfl (other size)
  | work step => exact console.workActs_keep step
  | _ => rfl

end

/-! ### The display after an operation of the terminal -/

theorem notify_display (console : Console) (changes : List LineChange) :
    (console.notify changes).terminal.display = console.terminal.display :=
  (console.notify_changes changes).same .display (by decide)

@[simp] theorem write_display (console : Console) (bytes : List UInt8) :
    (console.write bytes).terminal.display = console.terminal.display.feed bytes :=
  notify_display _ _

@[simp] theorem writeText_display (console : Console) (text : String) :
    (console.writeText text).terminal.display =
      (ScreenAct.text text).on console.terminal.display :=
  console.write_display _

@[simp] theorem clear_display (console : Console) :
    console.clear.terminal.display = ScreenAct.clears.on console.terminal.display :=
  notify_display _ _

theorem resize_display (console : Console) (size : Size) :
    (console.resize size).1.terminal.display =
      (ScreenAct.resizes size).on console.terminal.display := by
  have reshaped : (console.withTerminal (console.terminal.resize size)).terminal.display =
      (ScreenAct.resizes size).on console.terminal.display := notify_display _ _
  unfold resize
  dsimp only
  split
  · exact ((onStream_changes _ _ _).same .display (by decide)).trans reshaped
  · exact reshaped

theorem foldl_writeText_display (texts : List String) (console : Console) :
    (texts.foldl writeText console).terminal.display =
      (texts.map ScreenAct.text).foldl ScreenAct.on console.terminal.display := by
  induction texts generalizing console with
  | nil => rfl
  | cons text texts inductionHypothesis =>
      rw [List.foldl_cons, inductionHypothesis, writeText_display, List.map_cons, List.foldl_cons]

theorem pump_display (console : Console) :
    console.pump.1.terminal.display =
      console.pumpActs.foldl ScreenAct.on console.terminal.display := by
  unfold pump pumpActs
  cases console.terminal.stream with
  | none => rfl
  | some id =>
      dsimp only
      have read := console.readStream_changes id
      generalize console.readStream id = result at read ⊢
      obtain ⟨reached, bytes⟩ := result
      have shown : reached.terminal.display = console.terminal.display :=
        read.same .display (by decide)
      cases bytes with
      | error failure => exact shown
      | ok bytes =>
          dsimp only
          split
          next empty =>
              rw [List.isEmpty_iff.mp empty]
              exact shown
          next =>
              rw [write_display, shown]
              rfl

theorem handle_display (console : Console) (args : List Json) (handler : Handler) :
    (console.handle args handler).1.terminal.display =
      (handlerActs handler).foldl ScreenAct.on console.terminal.display := by
  rcases console.handle_cases args handler with ⟨rfl, same⟩ | ⟨rfl, same⟩ | ⟨clears, resets, quiet⟩
  · rw [same]
    exact console.clear_display
  · rw [same]
    exact console.writeText_display cursorReset
  · have silent : handlerActs handler = [] := by
      cases handler with
      | clearTerminal => exact absurd rfl clears
      | reportCursor => exact absurd rfl resets
      | _ => rfl
    rw [silent, List.foldl_nil]
    exact quiet.same .display (by decide)

theorem dispatch_display (console : Console) (name : String) (args : List Json) :
    (console.dispatch name args).1.terminal.display =
      (console.frameActs (.message name args)).foldl ScreenAct.on console.terminal.display := by
  unfold dispatch frameActs
  dsimp only
  cases console.client.handler? name with
  | none => rfl
  | some handler => exact console.handle_display args handler

theorem handleFrame_display (console : Console) (frame : Frame) :
    (console.handleFrame frame).terminal.display =
      (console.frameActs frame).foldl ScreenAct.on console.terminal.display := by
  cases frame with
  | message name args => exact console.dispatch_display name args
  | call id name args =>
      exact ((sendFrame_changes _ _).same .display (by decide)).trans
        (console.dispatch_display name args)
  | response id result => exact (console.complete_changes id _).same .display (by decide)
  | error id text => exact (console.complete_changes id _).same .display (by decide)

theorem bootFailed_display (console : Console) (failure : Failure) :
    (console.bootFailed failure).terminal.display =
      (console.bootFailedActs failure).foldl ScreenAct.on console.terminal.display := by
  unfold bootFailed bootFailedActs
  split
  · exact (console.withSessionState .detached).writeText_display _
  · rfl

/-! ### What processes print early -/

/-- What a process printed early, until somebody takes it. -/
def earlyOf (console : Console) (process : Nat) : Option (List String) :=
  (console.processes[process]?).bind RemoteProcess.early

theorem earlyOf_of_changes {aspects : List Aspect} {before after : Console} {process : Nat}
    (step : Changes aspects before after) (apart : Aspect.processes ∉ aspects) :
    after.earlyOf process = before.earlyOf process := by
  have same : after.processes = before.processes := step.same .processes apart
  rw [earlyOf, same, earlyOf]

theorem takeEarly_snd (console : Console) (process : Nat) :
    (console.takeEarly process).2 = console.earlyOf process := by
  unfold takeEarly earlyOf
  split
  next found => simp [found]
  next found => simp [found]

theorem takeEarly_earlyOf (console : Console) (process : Nat) :
    (console.takeEarly process).1.earlyOf process = none := by
  unfold takeEarly
  split
  next found known =>
      obtain ⟨inside, -⟩ := List.getElem?_eq_some_iff.mp known
      simp [earlyOf, inside]
  next absent => simp [earlyOf, absent]

/-- What is left of it when the session is told is shown. -/
theorem replayEarly_display (console : Console) (process : Nat) :
    (console.replayEarly process).terminal.display =
      (((console.earlyOf process).getD []).map ScreenAct.text).foldl ScreenAct.on
        console.terminal.display := by
  have taken : (console.takeEarly process).1.terminal.display = console.terminal.display :=
    (console.takeEarly_changes process).same .display (by decide)
  rw [replayEarly, ← takeEarly_snd]
  dsimp only
  rw [foldl_writeText_display, taken]

theorem prepareProcess_earlyOf (console : Console) (spec : ProcessSpec) :
    (console.prepareProcess spec).1.earlyOf (console.prepareProcess spec).2.1 = spec.early := by
  unfold prepareProcess
  cases spec.origin <;> simp [earlyOf, addStream]

end Console

end RuntimeConsole
