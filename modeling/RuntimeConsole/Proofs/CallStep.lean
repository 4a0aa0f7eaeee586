/-
Module: RuntimeConsole.Proofs.CallStep
Purpose: Everything a single event can do to the calls of a console: nothing, or place
  one, answer one, fail all of them, or pass an answer on.
Main exports:
  Console.inbound?, Frame.answer?, Console.CallsInOrder, Console.CallStep,
  Console.callStep_apply
-/
import RuntimeConsole.Proofs.CallTable

namespace RuntimeConsole

/-- The answer a frame gives to a call, if it is a reply to it. -/
def Frame.answer? (call : PendingCall) : Frame → Option (Except Failure Json)
  | .message _ _ | .call _ _ _ => none
  | .response id result => if id = call.id then some (.ok result) else none
  | .error id text => if id = call.id then some (.error (.remote call.name text)) else none

theorem Frame.answer?_eq_ok_iff {frame : Frame} {call : PendingCall} {value : Json} :
    frame.answer? call = some (.ok value) ↔ frame = .response call.id value := by
  cases frame <;> grind [Frame.answer?]

/-- Calls a frame is a reply to have the same number. -/
theorem Frame.answer?_id {first second : PendingCall} {answer other : Except Failure Json}
    (frame : Frame) (replies : frame.answer? first = some answer)
    (repliesToo : frame.answer? second = some other) : first.id = second.id := by
  cases frame with
  | message _ _ => cases replies
  | call _ _ _ => cases replies
  | response id result => grind [Frame.answer?]
  | error id text => grind [Frame.answer?]

namespace Console

/-- The frame of the runtime an event brings in, if it brings one. -/
def inbound? (console : Console) : Event → Option Frame
  | .frame frame => some frame
  | .work (.read channel) =>
      (console.servedWire? channel).bind fun wire =>
        match wire.nextLine.1 with
        | .line bytes =>
            match readLine bytes with
            | .frame frame => some frame
            | _ => none
        | _ => none
  | _ => none

/-- The answers passed on to their callers in an event. -/
def passedOnBy (console : Console) : Event → List (PendingCall × Except Failure Json)
  | .work .task => (console.tasks.head?.bind Task.answer?).toList
  | _ => []

/-- An event that brings no frame in, gives no call up and passes no answer on. -/
structure Silent (console : Console) (event : Event) : Prop where
  inbound : console.inbound? event = none
  notReset : event ≠ .resetPending
  passedOn : console.passedOnBy event = []

/-! ### Placing a call -/

/-- Whether a channel there is accepts a frame. -/
def channelAccepts (console : Console) (channel : Nat) : Bool :=
  (console.channels[channel]?).elim false Channel.accepts

theorem sendOver_of_accepts (console : Console) (channel : Nat) (frame : Frame)
    (accepts : console.channelAccepts channel = true) :
    (console.sendOver channel frame).2 = true := by
  unfold channelAccepts at accepts
  cases known : console.channels[channel]? with
  | none => simp [known] at accepts
  | some found =>
      cases found <;> simp_all [sendOver, Channel.accepts]

theorem sendOver_of_closed (console : Console) (channel : Nat) (frame : Frame)
    (closed : console.channelAccepts channel = false) :
    console.sendOver channel frame = (console, false) := by
  unfold channelAccepts at closed
  cases known : console.channels[channel]? with
  | none => simp [sendOver, known]
  | some found =>
      cases found <;> simp_all [sendOver, Channel.accepts]

/-- Whether a frame sent to the runtime now is accepted. -/
def takesFrames (console : Console) : Bool :=
  match console.client.connection with
  | some connection => console.channelAccepts connection.channel
  | none => false

/-- Where no frame is taken a call fails at once, and no entry of the table tells of it. -/
theorem call_refused (console : Console) (name : String) (args : List Json) (waiter : Waiter)
    (refuses : console.takesFrames = false) :
    ∃ numbered, Changes [.nextId] console numbered ∧
      console.client.nextId ≤ numbered.client.nextId ∧
      console.call name args waiter =
        numbered.deliver (.error (.disconnected name)) waiter := by
  unfold call
  cases connected : console.client.connection with
  | none => exact ⟨console, .refl _ console, Nat.le_refl _, rfl⟩
  | some connection =>
      have closed : console.channelAccepts connection.channel = false := by
        simpa [takesFrames, connected] using refuses
      refine ⟨console.withClient console.client.withFreshId.1, ⟨fun aspect outside => ?_⟩,
        Nat.le_succ _, ?_⟩
      · cases aspect <;> first | rfl | exact absurd (by decide) outside
      · dsimp only
        rw [sendOver_of_closed (console.withClient console.client.withFreshId.1)
          connection.channel _ closed]

/-- Where frames are taken a call gets an entry of its own at the end of the table, under
the next number. -/
theorem call_placed (console : Console) (name : String) (args : List Json) (waiter : Waiter)
    (takes : console.takesFrames = true) :
    Changes [.nextId, .pending, .channels, .trace] console (console.call name args waiter) ∧
      (console.call name args waiter).client.pending =
        console.client.pending ++ [⟨console.client.nextId, name, waiter⟩] ∧
      (console.call name args waiter).client.nextId = console.client.nextId + 1 := by
  unfold call
  cases connected : console.client.connection with
  | none => simp [takesFrames, connected] at takes
  | some connection =>
      have accepts : console.channelAccepts connection.channel = true := by
        simpa [takesFrames, connected] using takes
      have accepted := sendOver_of_accepts (console.withClient console.client.withFreshId.1)
        connection.channel (.call console.client.withFreshId.2 name args) accepts
      have sent := sendOver_changes (console.withClient console.client.withFreshId.1)
        connection.channel (.call console.client.withFreshId.2 name args)
      dsimp only
      generalize (console.withClient console.client.withFreshId.1).sendOver connection.channel
        (.call console.client.withFreshId.2 name args) = result at accepted sent
      obtain ⟨reached, taken⟩ := result
      cases accepted
      have pending : reached.client.pending = console.client.pending :=
        sent.same .pending (by decide)
      have nextId : reached.client.nextId = console.client.nextId + 1 :=
        sent.same .nextId (by decide)
      refine ⟨.trans (.trans ⟨fun aspect outside => ?_⟩ (sent.mono (by decide)))
        ⟨fun aspect outside => ?_⟩, ?_, nextId⟩
      · cases aspect <;> first | rfl | exact absurd (by decide) outside
      · cases aspect <;> first | rfl | exact absurd (by decide) outside
      · exact congrArg (· ++ [⟨console.client.nextId, name, waiter⟩]) pending

/-! ### Answering a call -/

/-- The table and the answers after a reply: the call it is for, if it still waits, has
left the one for the other. -/
theorem complete_cases (console : Console) (id : Nat)
    (answer : PendingCall → Except Failure Json) :
    (console.client.pendingCall? id = none ∧ console.complete id answer = console) ∨
      ∃ call, console.client.pendingCall? id = some call ∧
        (console.complete id answer).client.pending =
          console.client.pending.filter (fun other => other.id != id) ∧
        (console.complete id answer).answers = console.answers ++ [(call, answer call)] := by
  unfold complete
  cases found : console.client.pendingCall? id with
  | none => exact .inl ⟨rfl, rfl⟩
  | some call =>
      refine .inr ⟨call, rfl, rfl, ?_⟩
      simp [answers, spawn, withClient, Task.answer?]

/-! ### Order among the calls -/

/-- The numbers of the calls that wait and of those whose answers wait to be passed on
are all different and have all been given away, and without a connection none waits. -/
structure CallsInOrder (console : Console) : Prop where
  numbered : ∀ call ∈ console.client.pending, call.id < console.client.nextId
  answered : ∀ entry ∈ console.answers, entry.1.id < console.client.nextId
  increasing : (console.client.pending.map PendingCall.id).Pairwise (· < ·)
  apart : ∀ call ∈ console.client.pending, ∀ entry ∈ console.answers, entry.1.id ≠ call.id
  connection : console.ConnectionNumbered
  disconnected : console.client.connection = none → console.client.pending = []

/-- A call has been placed under the next number, on the connection there is. -/
structure Placed (before : Console) (call : PendingCall) (after : Console) : Prop where
  fresh : call.id = before.client.nextId
  connected : before.client.connection ≠ none
  connection : after.client.connection = before.client.connection
  pending : after.client.pending = before.client.pending ++ [call]
  answers : after.answers = before.answers
  nextId : after.client.nextId = before.client.nextId + 1
  overrun : after.overrun = before.overrun

/-- What a single event does to the calls. -/
inductive CallStep (before : Console) (event : Event) (after : Console) : Prop where
  /-- Nothing; a frame that comes in is no reply to a call that waits. -/
  | kept (notReset : event ≠ .resetPending) (unanswered : before.passedOnBy event = [])
      (kept : Kept before after)
      (unasked : ∀ frame, before.inbound? event = some frame →
        ∀ call ∈ before.client.pending, frame.answer? call = none)
  /-- A call is placed under the next number. -/
  | placed (call : PendingCall) (silent : before.Silent event) (placed : Placed before call after)
  /-- A reply comes in for a call that waits. -/
  | answered (frame : Frame) (call : PendingCall) (answer : Except Failure Json)
      (brought : before.inbound? event = some frame)
      (reply : frame.answer? call = some answer)
      (found : before.client.pendingCall? call.id = some call)
      (connection : after.client.connection = before.client.connection)
      (pending : after.client.pending =
        before.client.pending.filter (fun other => other.id != call.id))
      (answers : after.answers = before.answers ++ [(call, answer)])
      (nextId : after.client.nextId = before.client.nextId)
      (overrun : after.overrun = before.overrun)
  /-- The calls that wait are given up without an end of the connection. -/
  | reset (asked : event = .resetPending)
      (connection : after.client.connection = before.client.connection)
      (pending : after.client.pending = [])
      (answers : after.answers =
        before.answers ++ before.client.pending.map PendingCall.failed)
      (nextId : after.client.nextId = before.client.nextId)
      (overrun : after.overrun = before.overrun)
  /-- A connection begins or ends. -/
  | cut (silent : before.Silent event) (cut : Cut before after)
  /-- The oldest answer that waits is passed on to the caller. -/
  | passedOn (asked : event = .work .task) (call : PendingCall) (answer : Except Failure Json)
      (rest : List Task) (next : before.tasks = .resume call answer :: rest)
      (connection : after.client.connection = before.client.connection)
      (pending : after.client.pending = before.client.pending)
      (answers : before.answers = (call, answer) :: after.answers)
      (nextId : after.client.nextId = before.client.nextId)
      (overrun : after.overrun = before.overrun)

namespace CallStep

variable {before after : Console}

theorem of_kept {event : Event} (silent : before.Silent event) (kept : Kept before after) :
    CallStep before event after :=
  .kept silent.notReset silent.passedOn kept fun frame brought => by
    rw [silent.inbound] at brought
    contradiction

theorem of_keptOrCut {event : Event} (silent : before.Silent event)
    (reached : KeptOrCut before after) : CallStep before event after := by
  rcases reached with kept | cut
  · exact .of_kept silent kept
  · exact .cut silent cut

theorem of_changes {event : Event} {aspects : List Aspect} (silent : before.Silent event)
    (step : Changes aspects before after)
    (apart : [.connection, .pending, .nextId, .answers, .overrun].all (· ∉ aspects) = true) :
    CallStep before event after :=
  .of_kept silent (.of_changes step apart)

end CallStep

/-! ### One lemma for each kind of event -/

/-- Where no frame is taken a call does nothing to the others. -/
theorem call_kept (console : Console) (name : String) (args : List Json) (waiter : Waiter)
    (refuses : console.takesFrames = false) : Kept console (console.call name args waiter) := by
  obtain ⟨numbered, step, nextId, reached⟩ := console.call_refused name args waiter refuses
  have delivered := numbered.deliver_changes (.error (.disconnected name)) waiter
  rw [← reached] at delivered
  have kept : Kept console numbered := {
    connection := step.same .connection (by decide)
    pending := step.same .pending (by decide)
    answers := step.same .answers (by decide)
    nextId := nextId
    overrun := step.same .overrun (by decide) }
  exact kept.trans (.of_changes delivered (by decide))

/-- Where frames are taken a call leaves an entry. -/
theorem call_leaves (console : Console) (name : String) (args : List Json) (waiter : Waiter)
    (takes : console.takesFrames = true) :
    Placed console ⟨console.client.nextId, name, waiter⟩ (console.call name args waiter) := by
  obtain ⟨step, pending, nextId⟩ := console.call_placed name args waiter takes
  refine ⟨rfl, ?_, step.same .connection (by decide), pending, step.same .answers (by decide),
    nextId, step.same .overrun (by decide)⟩
  intro disconnected
  simp [takesFrames, disconnected] at takes

/-- A call leaves an entry, or fails at once. -/
theorem call_keptOrPlaced (console : Console) (name : String) (args : List Json)
    (waiter : Waiter) :
    Kept console (console.call name args waiter) ∨
      Placed console ⟨console.client.nextId, name, waiter⟩ (console.call name args waiter) := by
  cases takes : console.takesFrames with
  | false => exact .inl (console.call_kept name args waiter takes)
  | true => exact .inr (console.call_leaves name args waiter takes)

theorem call_callStep (console : Console) (event : Event) (name : String) (args : List Json)
    (waiter : Waiter) (silent : console.Silent event) :
    CallStep console event (console.call name args waiter) := by
  rcases console.call_keptOrPlaced name args waiter with kept | placed
  · exact .of_kept silent kept
  · exact .placed _ silent placed

theorem openLink_callStep (console : Console) (ticket : Nat) (position : Position) :
    CallStep console (.openLink ticket position) (console.openLink ticket position) := by
  have finished : CallStep console (.openLink ticket position)
      (console.finish ticket (.linkOpened false)) :=
    .of_changes ⟨rfl, nofun, rfl⟩ (console.finish_changes ..) (by decide)
  unfold openLink
  split
  · unfold activateAt
    split
    · unfold activateLink
      split
      · exact console.call_callStep _ _ _ _ ⟨rfl, nofun, rfl⟩
      · exact finished
    · exact finished
  · exact finished

/-- An event that brings a frame in does nothing else to calls. -/
theorem alone_of_inbound {console : Console} {event : Event} {frame : Frame}
    (brought : console.inbound? event = some frame) :
    event ≠ .resetPending ∧ console.passedOnBy event = [] := by
  cases event with
  | frame => exact ⟨nofun, rfl⟩
  | work step =>
      cases step with
      | read => exact ⟨nofun, rfl⟩
      | _ => cases brought
  | _ => cases brought

/-- A frame answers the call it is a reply to, and no other. -/
theorem handleFrame_callStep (console : Console) (event : Event) (frame : Frame)
    (brought : console.inbound? event = some frame) :
    CallStep console event (console.handleFrame frame) := by
  obtain ⟨notReset, unanswered⟩ := console.alone_of_inbound brought
  have replied : ∀ (id : Nat) (answer : PendingCall → Except Failure Json),
      (∀ call, frame.answer? call = if id = call.id then some (answer call) else none) →
      CallStep console event (console.complete id answer) := by
    intro id answer replies
    have step := console.complete_changes id answer
    rcases console.complete_cases id answer with ⟨nobody, same⟩ | ⟨call, found, pending, answers⟩
    · rw [same]
      refine .kept notReset unanswered (.refl console) fun other known call waits => ?_
      cases brought.symm.trans known
      have different : call.id ≠ id := by
        simpa using List.find?_eq_none.mp nobody call waits
      rw [replies, if_neg different.symm]
    · have matching : call.id = id := by simpa using List.find?_some found
      subst matching
      exact .answered frame call (answer call) brought (by rw [replies, if_pos rfl]) found
        (step.same .connection (by decide)) pending answers (step.same .nextId (by decide))
        (step.same .overrun (by decide))
  cases frame with
  | message name args =>
      have dispatched : Kept console (console.dispatch name args).1 :=
        .of_changes (console.dispatch_changes name args) (by decide)
      refine .kept notReset unanswered dispatched ?_
      intro other known
      cases brought.symm.trans known
      exact fun _ _ => rfl
  | call id name args =>
      have dispatched : Kept console (console.dispatch name args).1 :=
        .of_changes (console.dispatch_changes name args) (by decide)
      refine .kept notReset unanswered
        (dispatched.trans (.of_changes (sendFrame_changes _ _) (by decide))) ?_
      intro other known
      cases brought.symm.trans known
      exact fun _ _ => rfl
  | response id result => exact replied id _ fun call => rfl
  | error id text => exact replied id _ fun call => rfl

theorem runOldest_callStep (console : Console) :
    CallStep console (.work .task) console.runOldest := by
  unfold runOldest
  split
  next none =>
      exact .of_kept ⟨rfl, nofun, by simp [passedOnBy, none]⟩ (.refl console)
  next task rest next =>
      cases task with
      | validate resolver row generation link =>
          have taken : { console with tasks := rest }.answers = console.answers := by
            simp [answers, next, List.filterMap_cons, Task.answer?]
          have silent : console.Silent (.work .task) :=
            ⟨rfl, nofun, by simp [passedOnBy, next, Task.answer?]⟩
          rcases call_keptOrPlaced { console with tasks := rest } "validatepath" [.str link.text]
            (.validation resolver row generation link) with kept | placed
          · exact .of_kept silent ⟨kept.connection, kept.pending, kept.answers.trans taken,
              kept.nextId, kept.overrun⟩
          · exact .placed _ silent ⟨placed.fresh, placed.connected, placed.connection,
              placed.pending, placed.answers.trans taken, placed.nextId, placed.overrun⟩
      | resume call answer =>
          have delivered := { console with tasks := rest }.deliver_changes answer call.waiter
          have answersLeft : ({ console with tasks := rest }.deliver answer call.waiter).answers =
              rest.filterMap Task.answer? := delivered.same .answers (by decide)
          refine .passedOn rfl call answer rest next (delivered.same .connection (by decide))
            (delivered.same .pending (by decide)) ?_ (delivered.same .nextId (by decide))
            (delivered.same .overrun (by decide))
          rw [runTask, answersLeft]
          simp [answers, next, Task.answer?]
      | chosen errand choice =>
          have resumed := { console with tasks := rest }.resumeErrand_changes choice errand
          have taken : Kept console { console with tasks := rest } :=
            ⟨rfl, rfl, by simp [answers, next, List.filterMap_cons, Task.answer?], Nat.le_refl _,
              rfl⟩
          exact .of_kept ⟨rfl, nofun, by simp [passedOnBy, next, Task.answer?]⟩
            (taken.trans (.of_changes resumed (by decide)))

theorem finishWire_keptOrCut (console : Console) (channel : Nat)
    (ran : (console.finishWire channel).overrun = false) :
    KeptOrCut console (console.finishWire channel) := by
  unfold finishWire at ran ⊢
  split at ran
  next => exact .inl (.refl console)
  next wire served =>
      dsimp only at ran ⊢
      have closed := (console.setWire_changes channel { wire with serving := false }).mono
        (by decide : _ ⊆ [.channels, .trace])
      have hungUp : Changes [.channels, .trace] console
          (if wire.remoteOpen then
            (console.setWire channel { wire with serving := false }).emit (.hungUp channel)
          else console.setWire channel { wire with serving := false }) := by
        split
        · exact closed.trans ((emit_changes _ (.hungUp channel) rfl).mono (by decide))
        · exact closed
      exact .after_changes hungUp (endConnection_keptOrCut _ wire.connection ran) (by decide)

/-- A frame that was read from a byte stream does what it does when it comes in by
itself. -/
theorem CallStep.of_frame {before ready after : Console} {event : Event} {frame : Frame}
    (step : Changes [.channels] before ready) (brought : before.inbound? event = some frame)
    (reached : CallStep ready (.frame frame) after) : CallStep before event after := by
  have connection : ready.client.connection = before.client.connection :=
    step.same .connection (by decide)
  have pending : ready.client.pending = before.client.pending := step.same .pending (by decide)
  have answers : ready.answers = before.answers := step.same .answers (by decide)
  have nextId : ready.client.nextId = before.client.nextId := step.same .nextId (by decide)
  obtain ⟨notReset, unanswered⟩ := before.alone_of_inbound brought
  cases reached with
  | kept _ _ kept unasked =>
      have readied : Kept before ready := .of_changes step (by decide)
      refine .kept notReset unanswered (readied.trans kept) fun other known call waits => ?_
      exact unasked other (brought.symm.trans known) call (pending ▸ waits)
  | answered other call answer known reply found reached left given number ran =>
      cases known
      refine .answered frame call answer brought reply ?_ (reached.trans connection)
        (left.trans (by rw [pending])) (given.trans (by rw [answers])) (number.trans nextId)
        (ran.trans (step.same .overrun (by decide)))
      simpa [Client.pendingCall?, pending] using found
  | placed call silent => cases silent.inbound
  | reset asked => cases asked
  | cut silent => cases silent.inbound
  | passedOn asked => cases asked

/-- A line of a byte stream that is no text ends its service, as its end does. -/
theorem readWire_callStep (console : Console) (channel : Nat)
    (ran : (console.readWire channel).overrun = false) :
    CallStep console (.work (.read channel)) (console.readWire channel) := by
  unfold readWire at ran ⊢
  cases served : console.servedWire? channel with
  | none =>
      exact .of_changes ⟨by simp [inbound?, served], nofun, rfl⟩ (.refl [] console) (by decide)
  | some wire =>
      rw [served] at ran
      dsimp only at ran ⊢
      generalize found : wire.nextLine = next at ran ⊢
      obtain ⟨input, rest⟩ := next
      cases input with
      | waiting =>
          exact .of_changes ⟨by simp [inbound?, served, found], nofun, rfl⟩ (.refl [] console)
            (by decide)
      | finished =>
          exact .of_keptOrCut ⟨by simp [inbound?, served, found], nofun, rfl⟩
            (console.finishWire_keptOrCut channel ran)
      | line bytes =>
          have put := console.setWire_changes channel rest
          dsimp only at ran ⊢
          cases content : readLine bytes with
          | frame frame =>
              exact .of_frame put (by simp [inbound?, served, found, content])
                (handleFrame_callStep _ (.frame frame) frame rfl)
          | nothing =>
              exact .of_changes ⟨by simp [inbound?, served, found, content], nofun, rfl⟩ put
                (by decide)
          | malformed =>
              rw [content] at ran
              exact .of_keptOrCut ⟨by simp [inbound?, served, found, content], nofun, rfl⟩
                (.after_changes put (finishWire_keptOrCut _ channel ran) (by decide))

theorem launchConnects_keptOrCut (console : Console) (launch : Nat)
    (ran : (console.launchConnects launch).1.overrun = false) :
    KeptOrCut console (console.launchConnects launch).1 := by
  unfold launchConnects at ran ⊢
  split at ran
  next => exact .inl (.refl console)
  next found known =>
      split at ran
      next awaited =>
          rw [if_pos awaited]
          have read := (console.closeLaunch launch found).readStream_changes found.stream
          dsimp only at ran ⊢
          generalize (console.closeLaunch launch found).readStream found.stream = result
            at ran read ⊢
          obtain ⟨ready, printed⟩ := result
          have readied : Changes [.launches, .streams] console ready :=
            (console.closeLaunch_changes launch found).andThen read (by decide)
          exact .inr ((connect_cut ready _ ran).after_changes readied (by decide))
      next given => rw [if_neg given]; exact .inl (.refl console)

/-- Incidental events do nothing to calls. -/
theorem incidental_callStep (console : Console) {event : Event}
    (incidental : event.incidental = true) : CallStep console event (console.apply event) := by
  have notReset : event ≠ .resetPending := by
    rintro rfl
    cases incidental
  have silent : console.inbound? event = none ∧ console.passedOnBy event = [] := by
    cases event with
    | work step => cases step <;> first | exact ⟨rfl, rfl⟩ | cases incidental
    | _ => first | exact ⟨rfl, rfl⟩ | cases incidental
  exact .of_changes ⟨silent.1, notReset, silent.2⟩ (console.incidental_changes incidental)
    (by decide)

/-- Whatever happens to a console does one of a few things to its calls. -/
theorem callStep_apply (console : Console) (event : Event)
    (ran : (console.apply event).overrun = false) :
    CallStep console event (console.apply event) := by
  cases event with
  | start => exact .of_keptOrCut ⟨rfl, nofun, rfl⟩ (console.start_keptOrCut ran)
  | press key =>
      cases asked : console.asksSession key with
      | true =>
          have reached : console.apply (.press key) = console.start.1 := pressKey_asked asked
          rw [reached] at ran ⊢
          exact .of_keptOrCut ⟨rfl, nofun, rfl⟩ (console.start_keptOrCut ran)
      | false => exact .of_changes ⟨rfl, nofun, rfl⟩ (pressKey_changes asked) (by decide)
  | bootFailed failure =>
      exact .of_changes ⟨rfl, nofun, rfl⟩ (console.bootFailed_changes failure) (by decide)
  | connect spec => exact .cut ⟨rfl, nofun, rfl⟩ (console.connect_cut spec ran)
  | launched launch =>
      have reached : console.apply (.launched launch) = (console.launchConnects launch).1 := rfl
      rw [reached] at ran ⊢
      exact .of_keptOrCut ⟨rfl, nofun, rfl⟩ (console.launchConnects_keptOrCut launch ran)
  | disconnect => exact .cut ⟨rfl, nofun, rfl⟩ (console.disconnect_cut ran)
  | endConnection id =>
      exact .of_keptOrCut ⟨rfl, nofun, rfl⟩ (console.endConnection_keptOrCut id ran)
  | resetPending =>
      have step := console.resetPending_changes
      exact .reset rfl (step.same .connection (by decide)) console.resetPending_pending
        console.resetPending_answers (step.same .nextId (by decide))
        (step.same .overrun (by decide))
  | frame frame => exact console.handleFrame_callStep _ frame rfl
  | call ticket expected name args => exact console.call_callStep _ name args _ ⟨rfl, nofun, rfl⟩
  | openLink ticket position => exact console.openLink_callStep ticket position
  | write bytes => exact .of_changes ⟨rfl, nofun, rfl⟩ (console.write_changes bytes) (by decide)
  | pump => exact .of_changes ⟨rfl, nofun, rfl⟩ console.pump_changes (by decide)
  | clear => exact .of_changes ⟨rfl, nofun, rfl⟩ console.clear_changes (by decide)
  | resize size => exact .of_changes ⟨rfl, nofun, rfl⟩ (console.resize_changes size) (by decide)
  | work step =>
      cases step with
      | task => exact console.runOldest_callStep
      | read channel => exact console.readWire_callStep channel ran
      | finish channel =>
          exact .of_keptOrCut ⟨rfl, nofun, rfl⟩ (console.finishWire_keptOrCut channel ran)
      | giveUp launch =>
          exact .of_changes ⟨rfl, nofun, rfl⟩ (console.giveUpLaunch_changes launch) (by decide)
      | _ => exact console.incidental_callStep rfl
  | _ => exact console.incidental_callStep rfl

end Console

end RuntimeConsole
