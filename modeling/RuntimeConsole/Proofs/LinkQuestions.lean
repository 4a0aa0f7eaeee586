/-
Module: RuntimeConsole.Proofs.LinkQuestions
Purpose: The questions of link resolvers that wait for their answers, and what stays in
  order whatever happens: the screen, what listeners know of it, and who asks.
Main exports:
  Console.questions, Console.Orderly, Advances, Console.apply_advances
-/
import RuntimeConsole.Proofs.CallResolution
import RuntimeConsole.Proofs.LinkRows
import RuntimeConsole.Proofs.SessionCycle
import RuntimeConsole.Proofs.SessionMove

namespace RuntimeConsole

/-- The question of a resolver whose answer is waited for, if one is. -/
def Waiter.question? (id : Nat) : Waiter → Option Question
  | .validation resolver row generation link =>
      if resolver = id then some ⟨row, generation, link⟩ else none
  | .opening .. | .guest .. => none

/-- The question of a resolver a task is about. -/
def Task.question? (id : Nat) : Task → Option Question
  | .validate resolver row generation link =>
      if resolver = id then some ⟨row, generation, link⟩ else none
  | .resume call _ => call.waiter.question? id
  | .chosen .. => none

namespace Console

/-- The questions of a resolver that have not been settled: those to be put, those the
runtime has not answered, and those whose answers wait to be passed on. -/
def questions (console : Console) (id : Nat) : List Question :=
  console.tasks.filterMap (Task.question? id) ++
    console.client.pending.filterMap fun call => call.waiter.question? id

theorem resolvers_length_of_changes {aspects : List Aspect} {before after : Console}
    (step : Changes aspects before after) (apart : [.living].all (· ∉ aspects) = true) :
    after.resolvers.length = before.resolvers.length := by
  have living : after.resolvers.map Resolver.alive = before.resolvers.map Resolver.alive :=
    step.kept apart .living (by decide)
  simpa using congrArg List.length living

theorem questions_of_changes {aspects : List Aspect} {before after : Console}
    (step : Changes aspects before after) (apart : [.tasks, .pending].all (· ∉ aspects) = true)
    (id : Nat) : after.questions id = before.questions id := by
  have tasks : after.tasks = before.tasks := step.kept apart .tasks (by decide)
  have pending : after.client.pending = before.client.pending :=
    step.kept apart .pending (by decide)
  rw [questions, tasks, pending, ← questions]

/-- The screen is proper, the listeners know what it shows, and nobody asks on behalf of a
resolver that is not there yet. -/
structure Orderly (console : Console) : Prop where
  display : console.terminal.display.Proper
  scanned : ∀ row : UInt16, (console.terminal.scanned[row.toNat]?).getD [] =
    console.terminal.grid.textAt row
  fits : console.terminal.scanned.length ≤ 65535
  questions : ∀ id, console.resolvers.length ≤ id → console.questions id = []

/-- A console is in order as long as nothing has happened to it. -/
theorem unwired_orderly (host : Host) (settings : Settings) (id : TerminalId)
    (options : TerminalOptions) :
    (Console.unwired host settings (.new id options)).Orderly where
  display := ⟨trivial, (Grid.blank_proper options.size options.scrollback).of_same rfl rfl⟩
  scanned row := (Grid.blank_textAt options.size options.scrollback row).symm
  fits := Nat.zero_le _
  questions _ _ := rfl

theorem Orderly.length_visibleLines {console : Console} (orderly : console.Orderly) :
    console.terminal.grid.visibleLines.length = console.terminal.grid.size.rows.toNat :=
  Grid.length_visibleLines orderly.display.grid.height

theorem Orderly.length_visibleLines_le {console : Console} (orderly : console.Orderly) :
    console.terminal.grid.visibleLines.length ≤ 65536 := by
  rw [orderly.length_visibleLines]
  exact Nat.le_of_lt console.terminal.grid.size.rows.toNat_lt

end Console

open Console

/-- What was in order before is in order afterwards, and no resolver is removed. -/
structure Advances (before after : Console) : Prop where
  host : after.host = before.host
  resolvers : before.resolvers.length ≤ after.resolvers.length
  orderly : before.Orderly → after.Orderly

namespace Advances

variable {first second third : Console}

theorem refl (console : Console) : Advances console console :=
  ⟨rfl, Nat.le_refl _, id⟩

theorem trans (firstStep : Advances first second) (secondStep : Advances second third) :
    Advances first third :=
  ⟨secondStep.host.trans firstStep.host, Nat.le_trans firstStep.resolvers secondStep.resolvers,
    fun orderly => secondStep.orderly (firstStep.orderly orderly)⟩

theorem foldl {Item : Type} {step : Console → Item → Console}
    (each : ∀ console item, Advances console (step console item)) (items : List Item)
    (console : Console) : Advances console (items.foldl step console) := by
  induction items generalizing console with
  | nil => exact refl console
  | cons item items inductionHypothesis =>
      exact (each console item).trans (inductionHypothesis _)

/-- A step that leaves the screen alone is judged by its questions. -/
theorem of_questions {aspects : List Aspect} (step : Changes aspects first second)
    (apart : [.display, .scanned, .host].all (· ∉ aspects) = true)
    (resolvers : first.resolvers.length ≤ second.resolvers.length)
    (questions : ∀ id, second.resolvers.length ≤ id → first.questions id = [] →
      second.questions id = []) : Advances first second := by
  have display : second.terminal.display = first.terminal.display :=
    step.kept apart .display (by decide)
  have scanned : second.terminal.scanned = first.terminal.scanned :=
    step.kept apart .scanned (by decide)
  refine ⟨step.kept apart .host (by decide), resolvers, fun orderly => ?_⟩
  exact {
    display := display ▸ orderly.display
    scanned := by
      rw [scanned, Terminal.grid, display]
      exact orderly.scanned
    fits := scanned ▸ orderly.fits
    questions := fun id outside =>
      questions id outside (orderly.questions id (Nat.le_trans resolvers outside)) }

theorem of_changes {aspects : List Aspect} (step : Changes aspects first second)
    (apart : [.display, .scanned, .living, .tasks, .pending, .host].all (· ∉ aspects) = true) :
    Advances first second := by
  have length := resolvers_length_of_changes step (apart_mono apart (by decide))
  refine of_questions step (apart_mono apart (by decide)) (Nat.le_of_eq length.symm)
    fun id _ unasked => ?_
  rwa [questions_of_changes step (apart_mono apart (by decide))]

end Advances

namespace Console

/-! ### The terminal -/

theorem spawn_questions (console : Console) (task : Task) (id : Nat) :
    (console.spawn task).questions id =
      console.tasks.filterMap (Task.question? id) ++ (task.question? id).toList ++
        console.client.pending.filterMap fun call => call.waiter.question? id := by
  rw [questions, spawn, List.filterMap_append]
  congr 2

theorem resolverSeesLine_advances (console : Console) (id : Nat) (change : LineChange) :
    Advances console (console.resolverSeesLine id change) := by
  have step := console.resolverSeesLine_changes id change
  have length := resolvers_length_of_changes step (by decide)
  refine .of_questions step (by decide) (Nat.le_of_eq length.symm) fun other outside unasked => ?_
  rw [length] at outside
  unfold resolverSeesLine
  split
  next => exact unasked
  next resolver found =>
      obtain ⟨inside, -⟩ := List.getElem?_eq_some_iff.mp found
      have spawned : ∀ (candidates : List LinkMatch) (console : Console) (generation : Nat),
          console.questions other = [] →
          (candidates.foldl (fun console link =>
            console.spawn (.validate id change.row generation link)) console).questions other =
              [] := by
        intro candidates
        induction candidates with
        | nil => exact fun _ _ unasked => unasked
        | cons link candidates inductionHypothesis =>
            intro console generation unasked
            refine inductionHypothesis _ generation ?_
            have apart : id ≠ other := by omega
            rw [spawn_questions, Task.question?, if_neg apart, Option.toList_none, List.append_nil]
            exact unasked
      dsimp only
      split
      · exact spawned _ _ _ unasked
      · exact unasked

theorem notify_advances (console : Console) (changes : List LineChange) :
    Advances console (console.notify changes) := by
  refine .foldl (fun console change => .foldl (fun console entry => ?_) _ console) changes console
  cases entry.2 with
  | resolver id => exact console.resolverSeesLine_advances id change
  | guest label => exact .of_changes (console.emit_changes _ rfl) (by decide)

/-- The listeners are told what they have to be told when the display is another. -/
theorem withTerminal_advances (console : Console) {terminal : Terminal}
    (proper : console.terminal.display.Proper → terminal.display.Proper) :
    Advances console (console.withTerminal terminal.rescan) := by
  have shown : Advances console { console with terminal := terminal.rescan.1 } := by
    refine ⟨rfl, Nat.le_refl _, fun orderly => ?_⟩
    have rows := (proper orderly.display).grid
    exact {
      display := proper orderly.display
      scanned := fun row => rfl
      fits := by
        change terminal.display.grid.visibleLines.length ≤ 65535
        rw [Grid.length_visibleLines rows.height]
        exact Nat.le_of_lt_succ terminal.grid.size.rows.toNat_lt
      questions := orderly.questions }
  exact shown.trans (notify_advances _ _)

theorem write_advances (console : Console) (bytes : List UInt8) :
    Advances console (console.write bytes) :=
  console.withTerminal_advances fun proper => Display.feed_proper proper bytes

theorem writeText_advances (console : Console) (text : String) :
    Advances console (console.writeText text) :=
  console.write_advances _

theorem clear_advances (console : Console) : Advances console console.clear :=
  console.withTerminal_advances fun proper => ⟨proper.decoder, Grid.clear_proper proper.grid⟩

theorem resize_advances (console : Console) (size : Size) :
    Advances console (console.resize size).1 := by
  have reshaped : Advances console (console.withTerminal (console.terminal.resize size)) :=
    console.withTerminal_advances fun proper =>
      ⟨proper.decoder, Grid.resize_proper proper.grid size⟩
  unfold resize
  dsimp only
  split
  · exact reshaped.trans (.of_changes (onStream_changes _ _ _) (by decide))
  · exact reshaped

theorem pump_advances (console : Console) : Advances console console.pump.1 := by
  unfold pump
  split
  next => exact .refl console
  next id _ =>
      have read : Advances console (console.readStream id).1 :=
        .of_changes (console.readStream_changes id) (by decide)
      split
      next reached bytes result =>
          rw [result] at read
          dsimp only
          split
          · exact read
          · exact read.trans (reached.write_advances bytes)
      next result =>
          rw [result] at read
          exact read

/-! ### Calls -/

/-- Calls that fail are still in question until their callers hear of it. -/
theorem foldl_failCall_tasks (calls : List PendingCall) (console : Console) :
    (calls.foldl failCall console).tasks =
      console.tasks ++
        calls.map fun call => .resume call (.error (.disconnected call.name)) := by
  induction calls generalizing console with
  | nil => simp
  | cons call calls inductionHypothesis => simp [inductionHypothesis, failCall, spawn]

theorem resetPending_questions (console : Console) (id : Nat) :
    console.resetPending.questions id = console.questions id := by
  have pending : console.resetPending.client.pending = [] := by
    have failing : Changes [.tasks, .answers]
        (console.withClient { console.client with pending := [] }) console.resetPending :=
      .foldl failCall_changes _ _
    exact failing.same .pending (by decide)
  have tasks : console.resetPending.tasks = console.tasks ++
      console.client.pending.map fun call => .resume call (.error (.disconnected call.name)) :=
    foldl_failCall_tasks _ _
  rw [questions, questions, pending, tasks, List.filterMap_append, List.filterMap_map,
    List.filterMap_nil, List.append_nil]
  rfl

theorem resetPending_advances (console : Console) : Advances console console.resetPending := by
  have step := console.resetPending_changes
  exact .of_questions step (by decide)
    (Nat.le_of_eq (resolvers_length_of_changes step (by decide)).symm)
    fun id _ unasked => console.resetPending_questions id ▸ unasked

/-- A call that is answered is in question until its caller hears of the answer. -/
theorem complete_advances (console : Console) (id : Nat)
    (answer : PendingCall → Except Failure Json) :
    Advances console (console.complete id answer) := by
  have step := console.complete_changes id answer
  refine .of_questions step (by decide)
    (Nat.le_of_eq (resolvers_length_of_changes step (by decide)).symm) fun other _ unasked => ?_
  unfold complete
  cases found : console.client.pendingCall? id with
  | none => exact unasked
  | some call =>
      obtain ⟨tasks, pending⟩ := List.append_eq_nil_iff.mp unasked
      have waited : call ∈ console.client.pending := List.mem_of_find?_eq_some found
      have silent := List.filterMap_eq_nil_iff.mp pending
      dsimp only
      rw [spawn_questions]
      have left : (console.client.pending.filter fun call => call.id != id).filterMap
          (fun call => call.waiter.question? other) = [] :=
        List.filterMap_eq_nil_iff.mpr fun call member => silent call (List.mem_filter.mp member).1
      simp only [withClient, Client.removePending, Task.question?, tasks, left,
        silent call waited, Option.toList_none, List.append_nil]

/-- A call that is placed is in question; one that is refused is not any more. -/
theorem call_questions (console : Console) (name : String) (args : List Json) (waiter : Waiter)
    (id : Nat) :
    (console.call name args waiter).questions id =
      console.questions id ++ if console.takesFrames then (waiter.question? id).toList else [] := by
  have step := console.call_changes name args waiter
  have tasks : (console.call name args waiter).tasks = console.tasks := step.same .tasks (by decide)
  cases takes : console.takesFrames with
  | true =>
      obtain ⟨-, placed, -⟩ := console.call_placed name args waiter takes
      rw [questions, tasks, placed, List.filterMap_append, ← List.append_assoc, ← questions]
      congr 1
  | false =>
      obtain ⟨numbered, renumbered, -, reached⟩ := console.call_refused name args waiter takes
      have pending : (console.call name args waiter).client.pending = console.client.pending := by
        rw [reached]
        exact ((numbered.deliver_changes _ _).same .pending (by decide)).trans
          (renumbered.same .pending (by decide))
      rw [questions, tasks, pending, ← questions]
      simp

/-- A caller that is no link resolver asks nothing. -/
theorem call_advances (console : Console) (name : String) (args : List Json) (waiter : Waiter)
    (other : ∀ id, waiter.question? id = .none) :
    Advances console (console.call name args waiter) := by
  have step := console.call_changes name args waiter
  refine .of_questions step (by decide)
    (Nat.le_of_eq (resolvers_length_of_changes step (by decide)).symm) fun id _ unasked => ?_
  rw [call_questions, unasked, other id, List.nil_append]
  split <;> rfl

/-- A task is carried out on behalf of a resolver that was there when it was put off. -/
theorem runOldest_advances (console : Console) : Advances console console.runOldest := by
  have step := console.runOldest_changes
  refine .of_questions step (by decide)
    (Nat.le_of_eq (resolvers_length_of_changes step (by decide)).symm) fun id _ unasked => ?_
  obtain ⟨tasks, pending⟩ := List.append_eq_nil_iff.mp unasked
  have silent := List.filterMap_eq_nil_iff.mp tasks
  unfold runOldest
  cases waiting : console.tasks with
  | nil => exact unasked
  | cons task rest =>
      rw [waiting] at silent
      have left : ({ console with tasks := rest } : Console).questions id = [] := by
        rw [questions, pending, List.append_nil]
        exact List.filterMap_eq_nil_iff.mpr fun other member =>
          silent other (List.mem_cons_of_mem _ member)
      have first := silent task List.mem_cons_self
      cases task with
      | validate resolver row generation link =>
          change (({ console with tasks := rest } : Console).call "validatepath"
            [.str link.text] (.validation resolver row generation link)).questions id = []
          have own : (Waiter.validation resolver row generation link).question? id = none := first
          rw [call_questions, left, own]
          simp
      | resume call answer =>
          exact (questions_of_changes (deliver_changes _ answer call.waiter) (by decide) id).trans
            left
      | chosen errand choice =>
          exact (questions_of_changes (resumeErrand_changes _ choice errand) (by decide) id).trans
            left

/-! ### Requests of the runtime -/

theorem handle_advances (console : Console) (args : List Json) (handler : Handler) :
    Advances console (console.handle args handler).1 := by
  rcases console.handle_cases args handler with ⟨-, same⟩ | ⟨-, same⟩ | ⟨-, -, quiet⟩
  · rw [same]
    exact console.clear_advances
  · rw [same]
    exact console.writeText_advances cursorReset
  · exact .of_changes quiet (by decide)

theorem handleFrame_advances (console : Console) (frame : Frame) :
    Advances console (console.handleFrame frame) := by
  have dispatched (name : String) (args : List Json) :
      Advances console (console.dispatch name args).1 := by
    unfold dispatch
    split
    · exact console.handle_advances args _
    · exact .refl console
  cases frame with
  | message name args => exact dispatched name args
  | call id name args =>
      exact (dispatched name args).trans (.of_changes (sendFrame_changes _ _) (by decide))
  | response id result => exact console.complete_advances id _
  | error id text => exact console.complete_advances id _

/-! ### The session -/

/-- A resolver that ends stays in its place. -/
theorem release_advances (console : Console) (released : Release) :
    Advances console (console.release released) := by
  have step := console.release_changes released
  cases released with
  | resolver id =>
      refine .of_questions step (by simp [Release.aspects]) ?_ fun other _ unasked => ?_
      · unfold release
        dsimp only
        split
        · exact Nat.le_of_eq (List.length_set ..).symm
        · exact Nat.le_refl _
      · rwa [questions_of_changes step (by simp [Release.aspects])]
  | _ => exact .of_changes step (by simp [Release.aspects])

theorem dispose_advances (console : Console) (list : Disposables Release) :
    Advances console (console.dispose list) :=
  .foldl release_advances _ console

theorem teardownCycle_advances (console : Console) : Advances console console.teardownCycle :=
  .trans (.of_changes (console.withCycle_changes .empty) (by decide)) (dispose_advances _ _)

theorem addResolver_advances (console : Console) : Advances console console.addResolver.1 := by
  refine .of_questions console.addResolver_changes (by decide) ?_ fun _ _ unasked => unasked
  exact Nat.le_of_lt (by simp [addResolver])

theorem addLineListener_advances (console : Console) (listener : LineListener) :
    Advances console (console.addLineListener listener).1 := by
  have listening : Changes [.listeners] console
      { console with terminal := (console.terminal.addListener listener).1 } := by
    refine ⟨fun aspect outside => ?_⟩
    cases aspect <;> first | rfl | exact absurd (by decide) outside
  refine .trans (.of_changes listening (by decide)) (.foldl (fun console change => ?_) _ _)
  cases listener with
  | resolver id => exact console.resolverSeesLine_advances id change
  | guest label => exact .of_changes (console.emit_changes _ rfl) (by decide)

theorem openCycle_advances (console : Console) : Advances console console.openCycle.1 := by
  unfold openCycle
  dsimp only
  refine .trans ?_ (.of_changes (listenModules_changes _ _) (by decide))
  refine .trans ?_ (.of_changes (addDebouncer_changes _ _) (by decide))
  refine .trans ?_ (addLineListener_advances _ _)
  refine .trans ?_ (addResolver_advances _)
  exact .of_changes console.observePrompt_changes (by decide)

theorem beginCycle_advances (console : Console) : Advances console console.beginCycle := by
  refine .trans ?_ (.of_changes (withSessionState_changes _ _) (by decide))
  refine .trans ?_ (dispose_advances _ _)
  exact console.openCycle_advances.trans (.of_changes (withCycle_changes _ _) (by decide))

/-- What is done before the session holds something for a new connection. -/
theorem showProcess_advances (console : Console) (process : Nat) :
    Advances console (console.showProcess process) := by
  have free : Advances console console.letGo := by
    unfold letGo
    split
    · exact .trans (.of_changes console.detach_changes (by decide)) (teardownCycle_advances _)
    · exact .refl console
  refine free.trans (.trans (.of_changes (attachProcess_changes _ process) (by decide)) ?_)
  exact .trans (.of_changes (takeEarly_changes _ process) (by decide))
    (.foldl writeText_advances _ _)

theorem sessionBoot_advances (console : Console) (process : Nat) :
    Advances console (console.sessionBoot process) :=
  (console.showProcess_advances process).trans (beginCycle_advances _)

theorem sessionDetached_advances (console : Console) :
    Advances console console.sessionDetached := by
  unfold sessionDetached
  split
  · refine .trans ?_ (.of_changes (withSessionState_changes _ _) (by decide))
    refine .trans ?_ (resetPending_advances _)
    refine .trans ?_ (teardownCycle_advances _)
    exact .trans (.of_changes console.detach_changes (by decide)) (writeText_advances _ _)
  · exact .refl console

/-! ### Connections -/

mutual

theorem connectWithin_advances (nesting : Nat) (console : Console) (spec : ProcessSpec) :
    Advances console (connectWithin nesting console spec).1 := by
  cases nesting with
  | zero => exact .of_changes console.giveUpNesting_changes (by decide)
  | succ nesting =>
      rw [connectWithin]
      refine .trans ?_ (.foldl (fun console (entry : Nat × BootObserver) =>
        tellBoot_advances nesting console _ entry.2) _ _)
      refine .trans ?_ (.of_changes (installConnection_changes _ _ _) (by decide))
      refine .trans (.of_changes (console.prepareProcess_changes spec) (by decide)) ?_
      split
      · exact disconnectWithin_advances nesting _
      · exact .refl _
  termination_by nesting

theorem disconnectWithin_advances (nesting : Nat) (console : Console) :
    Advances console (disconnectWithin nesting console) := by
  cases nesting with
  | zero =>
      rw [disconnectWithin]
      exact .of_changes console.giveUpNesting_changes (by decide)
  | succ nesting =>
      have closed : Changes [.connection] console
          (console.withClient { console.client with connection := none }) := by
        refine ⟨fun aspect outside => ?_⟩
        cases aspect <;> first | rfl | exact absurd (by decide) outside
      rw [disconnectWithin]
      split
      · refine .trans ?_ (.foldl (fun console (entry : Nat × DetachObserver) =>
          tellDetach_advances nesting console entry.2) _ _)
        exact .trans (.of_changes closed (by decide)) (resetPending_advances _)
      · exact .refl console
  termination_by nesting

theorem tellBoot_advances (nesting : Nat) (console : Console) (process : Nat)
    (observer : BootObserver) : Advances console (tellBoot nesting console process observer) := by
  cases observer with
  | session =>
      rw [tellBoot]
      exact console.sessionBoot_advances process
  | guest label takesEarly actions =>
      have taken : Advances console (if takesEarly then
          ((console.takeEarly process).1, some (console.takeEarly process).2.isSome)
          else (console, none)).1 := by
        split
        · exact .of_changes (console.takeEarly_changes process) (by decide)
        · exact .refl console
      have seen (early : Option Bool) (console : Console) :
          Advances console (console.emit (.guestSawBoot label early)) :=
        .of_changes (console.emit_changes _ rfl) (by decide)
      cases nesting with
      | zero =>
          rw [tellBoot]
          dsimp only
          exact taken.trans
            ((seen _ _).trans (.of_changes (giveUpNesting_changes _) (by decide)))
      | succ nesting =>
          rw [tellBoot]
          dsimp only
          exact taken.trans ((seen _ _).trans (.foldl (performWithin_advances nesting) actions _))
  termination_by nesting

theorem tellDetach_advances (nesting : Nat) (console : Console) (observer : DetachObserver) :
    Advances console (tellDetach nesting console observer) := by
  cases observer with
  | session =>
      rw [tellDetach]
      exact console.sessionDetached_advances
  | guest label actions =>
      have told : Advances console (console.emit (.guestSawDetach label
          console.client.isConnected console.client.pending.length)) :=
        .of_changes (console.emit_changes _ rfl) (by decide)
      cases nesting with
      | zero =>
          rw [tellDetach]
          exact told.trans (.of_changes (giveUpNesting_changes _) (by decide))
      | succ nesting =>
          rw [tellDetach]
          exact told.trans (.foldl (performWithin_advances nesting) actions _)
  termination_by nesting

theorem performWithin_advances (nesting : Nat) (console : Console) (action : ClientAction) :
    Advances console (performWithin nesting console action) := by
  cases action with
  | send name =>
      rw [performWithin]
      exact .of_changes (console.send_changes name []) (by decide)
  | connect spec =>
      cases nesting with
      | zero => exact .of_changes console.giveUpNesting_changes (by decide)
      | succ nesting => exact connectWithin_advances nesting console spec
  | disconnect =>
      cases nesting with
      | zero => exact .of_changes console.giveUpNesting_changes (by decide)
      | succ nesting => exact disconnectWithin_advances nesting console
  | boot =>
      cases nesting with
      | zero => exact .of_changes console.giveUpNesting_changes (by decide)
      | succ nesting => exact bootWithin_advances nesting console
  termination_by nesting

theorem bootWithin_advances (nesting : Nat) (console : Console) :
    Advances console (bootWithin nesting console).1 := by
  rw [bootWithin]
  split
  next => exact .refl console
  next booter _ =>
      have started := console.emit_booted_changes booter.label
      refine .trans (.of_changes started (by decide)) ?_
      split
      next => exact .refl _
      next => exact .refl _
      next => exact .of_changes (launch_changes _ _ _) (by decide)
      next => exact .of_changes (giveUpNesting_changes _) (by decide)
      next spec nesting _ => exact connectWithin_advances nesting _ spec
  termination_by nesting

end

theorem openingFor_advances (observers : List (Nat × BootObserver)) (nesting : Nat)
    (console : Console) (spec : ProcessSpec) :
    Advances console (console.openingFor observers nesting spec) := by
  have readied : Advances console (console.prepareProcess spec).1 :=
    .of_changes (console.prepareProcess_changes spec) (by decide)
  unfold openingFor
  generalize console.prepareProcess spec = prepared at readied ⊢
  obtain ⟨ready, process, channel⟩ := prepared
  dsimp only at readied ⊢
  refine .trans ?_ (showProcess_advances _ _)
  refine .trans ?_ (.foldl (fun console (entry : Nat × BootObserver) =>
    tellBoot_advances nesting console _ entry.2) _ _)
  refine .trans readied (.trans ?_ (.of_changes (installConnection_changes _ _ _) (by decide)))
  split
  · exact disconnectWithin_advances nesting _
  · exact .refl _

/-! ### Events and runs -/

theorem bootFailed_advances (console : Console) (failure : Failure) :
    Advances console (console.bootFailed failure) := by
  unfold bootFailed
  split
  · exact .trans (.of_changes (withSessionState_changes _ _) (by decide)) (writeText_advances _ _)
  · exact .refl console

theorem start_advances (console : Console) : Advances console console.start.1 := by
  unfold start
  split
  · have asked : Advances console
        ((console.withSessionState .starting).writeText startingMessage) :=
      .trans (.of_changes (withSessionState_changes _ _) (by decide)) (writeText_advances _ _)
    have booted := bootWithin_advances nestingLimit
      ((console.withSessionState .starting).writeText startingMessage)
    rw [← boot] at booted
    split
    next reached result =>
        rw [result] at booted
        exact asked.trans booted
    next reached failure result =>
        rw [result] at booted
        exact (asked.trans booted).trans (bootFailed_advances _ failure)
  · exact .refl console

/-- An event that acts on the screen or on what is asked of the runtime. -/
theorem direct_advances (console : Console) {event : Event} (direct : event.direct = true) :
    Advances console (console.apply event) := by
  cases event with
  | resetPending => exact console.resetPending_advances
  | call ticket expected name args => exact console.call_advances name args _ fun _ => rfl
  | openLink ticket position =>
      change Advances console (console.openLink ticket position)
      unfold openLink
      split
      · unfold activateAt
        split
        · unfold activateLink
          split
          · exact call_advances _ _ _ _ fun _ => rfl
          · exact .of_changes (finish_changes _ _ _) (by decide)
        · exact .of_changes (finish_changes _ _ _) (by decide)
      · exact .of_changes (finish_changes _ _ _) (by decide)
  | write bytes => exact console.write_advances bytes
  | pump => exact console.pump_advances
  | clear => exact console.clear_advances
  | resize size => exact console.resize_advances size
  | work step =>
      cases step with
      | task => exact console.runOldest_advances
      | _ => cases direct
  | _ => cases direct

/-- The screen and the questions stay in order, whatever happens. -/
theorem apply_advances (console : Console) (event : Event) :
    Advances console (console.apply event) := by
  cases console.sessionMove_apply event with
  | aside step _ _ how =>
      cases how with
      | quiet step apart => exact .of_changes step (apart_mono apart (by decide))
      | hears ready frame readied reached =>
          rw [reached]
          exact .trans (.of_changes readied (by decide)) (ready.handleFrame_advances frame)
      | acts direct => exact console.direct_advances direct
  | starts reached acts =>
      rw [reached]
      exact console.start_advances
  | fails ready failure readied reached acts =>
      rw [reached]
      exact .trans (.of_changes readied (by decide)) (ready.bootFailed_advances failure)
  | connects ready spec readied reached acts =>
      rw [reached]
      exact .trans (.of_changes readied (by decide)) (connectWithin_advances _ ready spec)
  | ends ready readied reached acts =>
      rw [reached]
      exact .trans (.of_changes readied (by decide)) (disconnectWithin_advances _ ready)

end Console

end RuntimeConsole
