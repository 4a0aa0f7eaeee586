/-
Module: RuntimeConsole.Proofs.RequestService
Purpose: Requests of the runtime are served by the latest registration for their name, as long as
  it has not been released, and every call is answered exactly once.
Main exports:
  Serving.Tallied, Serving.Kept, Serving.Kept.step, RequestService
-/
import RuntimeConsole.Console.Serving
import RuntimeConsole.Proofs.EffectRecord
import RuntimeConsole.Proofs.Registrations

namespace RuntimeConsole

open Console

/-! ### Handlers by name -/

namespace Client

variable {entries : List (String × Nat × Handler)}

theorem lookup_setHandler (name : String) (entry : Nat × Handler) (other : String) :
    (setHandler name entry entries).lookup other =
      if other = name then some entry else entries.lookup other := by
  induction entries with
  | nil =>
      by_cases same : other = name
      · simp [setHandler, same]
      · simp [setHandler, List.lookup_cons, same, beq_eq_false_iff_ne.mpr same]
  | cons first rest inductionHypothesis =>
      obtain ⟨known, old⟩ := first
      by_cases replaced : known = name
      · subst replaced
        by_cases same : other = known
        · simp [setHandler, same]
        · simp [setHandler, List.lookup_cons, same, beq_eq_false_iff_ne.mpr same]
      · by_cases same : other = known
        · subst same
          simp [setHandler, replaced]
        · simp only [setHandler, beq_iff_eq, replaced, if_false, List.lookup_cons,
            beq_eq_false_iff_ne.mpr same, inductionHypothesis]

theorem setHandler_names (name : String) (entry : Nat × Handler)
    (names : (entries.map Prod.fst).Nodup) :
    ((setHandler name entry entries).map Prod.fst).Nodup := by
  induction entries with
  | nil => simp [setHandler]
  | cons first rest inductionHypothesis =>
      obtain ⟨known, old⟩ := first
      obtain ⟨absent, names⟩ := List.nodup_cons.mp names
      rw [setHandler]
      split
      next replaced =>
          obtain rfl : known = name := by simpa using replaced
          exact List.nodup_cons.mpr ⟨absent, names⟩
      next different =>
          refine List.nodup_cons.mpr ⟨fun member => ?_, inductionHypothesis names⟩
          obtain ⟨found, member, same⟩ := List.mem_map.mp member
          rcases mem_of_setHandler member with rfl | old
          · exact different (by simpa using same.symm)
          · exact absent (List.mem_map.mpr ⟨found, old, same⟩)

theorem lookup_of_mem {entry : String × Nat × Handler} (names : (entries.map Prod.fst).Nodup)
    (member : entry ∈ entries) : entries.lookup entry.1 = some entry.2 := by
  obtain ⟨earlier, later, rfl⟩ := List.append_of_mem member
  rw [List.map_append, List.nodup_append] at names
  refine List.lookup_eq_some_iff.mpr ⟨earlier, later, rfl, fun other known => ?_⟩
  exact bne_iff_ne.mpr
    (names.2.2 other.1 (List.mem_map_of_mem known) entry.1 List.mem_cons_self).symm

/-- A release takes the handler of its name away if that has its number, and no other. -/
theorem lookup_removed (name : String) (id : Nat) (names : (entries.map Prod.fst).Nodup)
    (other : String) :
    (entries.filter fun entry => !(entry.1 == name && entry.2.1 == id)).lookup other =
      (entries.lookup other).filter fun entry => !(other == name && entry.1 == id) := by
  induction entries with
  | nil => rfl
  | cons first rest inductionHypothesis =>
      obtain ⟨known, entry⟩ := first
      obtain ⟨absent, names⟩ := List.nodup_cons.mp names
      have later := inductionHypothesis names
      by_cases same : other = known
      · subst same
        have unknown : rest.lookup other = none := by
          refine List.lookup_eq_none_iff.mpr fun found member => bne_iff_ne.mpr ?_
          intro same
          exact absent (List.mem_map.mpr ⟨found, member, same.symm⟩)
        rw [unknown, Option.filter_none] at later
        rw [List.filter_cons, List.lookup_cons_self]
        split
        next kept => rw [List.lookup_cons_self, Option.filter_some, if_pos kept]
        next removed => rw [later, Option.filter_some, if_neg removed]
      · have passed : (other == known) = false := beq_eq_false_iff_ne.mpr same
        rw [List.filter_cons, List.lookup_cons, passed, ← later]
        split
        · rw [List.lookup_cons, passed]
        · rfl

end Client

namespace Console

/-- Numbers are only ever given away. -/
theorem CallStep.nextId_le {before after : Console} {event : Event}
    (step : CallStep before event after) : before.client.nextId ≤ after.client.nextId := by
  cases step with
  | kept _ _ kept _ => exact kept.nextId
  | placed call _ placed => exact placed.nextId ▸ Nat.le_succ _
  | answered _ _ _ _ _ _ _ _ _ nextId _ => exact Nat.le_of_eq nextId.symm
  | reset _ _ _ _ nextId _ => exact Nat.le_of_eq nextId.symm
  | cut _ cut => exact cut.nextId
  | passedOn _ _ _ _ _ _ _ _ nextId _ => exact Nat.le_of_eq nextId.symm

section

variable {parts : ConsoleParts} {shells : List Nat} {console : Console}

theorem Upkept.nextId_step (upkept : Upkept parts shells console) (event : ConsoleEvent) :
    console.client.nextId ≤ (console.undergo event).client.nextId := by
  by_cases own : ∃ event', event = .event event'
  · obtain ⟨event, rfl⟩ := own
    obtain ⟨_, followed, -⟩ :=
      apply_followed (furnished_fresh parts) upkept.settled upkept.numbered event
    exact (console.callStep_apply event followed.settled.steady.overrun).nextId_le
  · exact (undergo_beside upkept.housed fun event' same => own ⟨event', same⟩).2

theorem release_handler_changes (console : Console) (name : String) (id : Nat) :
    Changes [.handlers] console (console.release (.handler name id)) :=
  console.release_changes (.handler name id)

/-- A handler that is released leaves everything as it should be. -/
theorem Upkept.release_handler (upkept : Upkept parts shells console) (name : String) (id : Nat) :
    Upkept parts shells (console.release (.handler name id)) := by
  have step := console.release_handler_changes name id
  exact {
    settled := upkept.settled.of_changes step (by decide)
    numbered := upkept.numbered.of_changes step (by decide)
    enrolled := upkept.enrolled.of_session step (by decide)
    attuned := upkept.attuned.of_settings rfl rfl
    housed := upkept.housed.of_ages rfl (.of_eq rfl) (List.Subset.refl _) }

end

/-! ### Code of the embedding program that runs -/

theorem guestRuns_of_changes {before after : Console} {aspects : List Aspect}
    (step : Changes aspects before after) (apart : Aspect.trace ∉ aspects) :
    after.guestRuns = before.guestRuns :=
  Unrecorded.of_changes step apart

theorem emit_guestRuns (console : Console) (effect : Effect) :
    (console.emit effect).guestRuns = console.guestRuns ++ effect.guestRun?.toList :=
  console.emit_recorded effect

/-- Who hears of changed rows is asked to handle nothing. -/
theorem withTerminal_guestRuns (console : Console) (changed : Terminal × List LineChange) :
    (console.withTerminal changed).guestRuns = console.guestRuns :=
  withTerminal_unrecorded (fun _ _ _ => rfl) console changed

theorem sendFrame_guestRuns (console : Console) (frame : Frame) :
    (console.sendFrame frame).guestRuns = console.guestRuns :=
  sendFrame_unrecorded (fun _ _ => rfl) console frame

theorem handle_guestRuns (console : Console) (args : List Json) (handler : Handler) :
    (console.handle args handler).1.guestRuns = console.guestRuns ++ handler.guestRun args := by
  cases handler with
  | refreshWorkspace => exact console.emit_guestRuns _
  | clearTerminal => exact (console.withTerminal_guestRuns _).trans (List.append_nil _).symm
  | reportCursor => exact (console.withTerminal_guestRuns _).trans (List.append_nil _).symm
  | showLint =>
      unfold handle showLint
      dsimp only
      split
      · exact console.emit_guestRuns _
      · exact (List.append_nil _).symm
  | clearLint => exact console.emit_guestRuns _
  | guest label sends reply =>
      cases sends with
      | none => exact console.emit_guestRuns _
      | some name =>
          exact (sendFrame_guestRuns _ _).trans (console.emit_guestRuns (.guestHandled label args))

end Console

/-! ### The registrations and the handlers -/

theorem Registration.numbered?_eq_some {registration : Registration} {entry : Nat × Handler}
    (known : registration.numbered? = some entry) :
    registration.live = true ∧ (registration.id, registration.handler) = entry := by
  unfold numbered? at known
  split at known
  next live => exact ⟨live, Option.some.inj known⟩
  next => cases known

namespace Serving

/-- The handlers there are are the ones in force by the registrations made so far. -/
structure Tallied (now : Serving) : Prop where
  table : ∀ name, now.console.client.handlers.lookup name = now.inForce? name
  names : (now.console.client.handlers.map Prod.fst).Nodup
  numbered : ∀ registration ∈ now.registrations, registration.id < now.console.client.nextId
  distinct : (now.registrations.map Registration.id).Nodup

section

variable {now : Serving}

/-- A registration with the number of another is that one. -/
theorem Tallied.eq_of_id (tallied : now.Tallied) {first second : Registration}
    (known : first ∈ now.registrations) (member : second ∈ now.registrations)
    (same : first.id = second.id) : first = second :=
  List.inj_on_of_nodup_map tallied.distinct known member same

theorem Tallied.of_console (tallied : now.Tallied) {console : Console}
    (handlers : console.client.handlers = now.console.client.handlers)
    (nextId : now.console.client.nextId ≤ console.client.nextId) :
    ({ now with console := console } : Serving).Tallied where
  table name := by
    dsimp only
    rw [handlers]
    exact tallied.table name
  names := by
    dsimp only
    rw [handlers]
    exact tallied.names
  numbered registration member := Nat.lt_of_lt_of_le (tallied.numbered registration member) nextId
  distinct := tallied.distinct

/-- The latest registration for a name takes the place of the others. -/
theorem Tallied.register (tallied : now.Tallied) (name : String) (handler : Handler) :
    (now.register name handler).Tallied where
  table other := by
    change (Client.setHandler name (now.console.client.nextId, handler)
      now.console.client.handlers).lookup other = _
    rw [Client.lookup_setHandler, inForce?, latest?, Serving.register, List.find?_cons]
    by_cases same : other = name
    · subst same
      simp [Registration.numbered?]
    · have passed : (name == other) = false := beq_eq_false_iff_ne.mpr (Ne.symm same)
      rw [if_neg same, tallied.table other]
      simp only [passed]
      rfl
  names := Client.setHandler_names _ _ tallied.names
  numbered registration member := by
    rcases List.mem_cons.mp member with rfl | earlier
    · exact Nat.lt_succ_self _
    · exact Nat.lt_succ_of_lt (tallied.numbered registration earlier)
  distinct := by
    refine List.nodup_cons.mpr ⟨fun member => ?_, tallied.distinct⟩
    obtain ⟨registration, earlier, same⟩ := List.mem_map.mp member
    exact Nat.lt_irrefl _ (same ▸ tallied.numbered registration earlier)

/-- What is in force for a name after a registration was released. -/
theorem Tallied.numbered?_afterRelease (tallied : now.Tallied)
    {released registration : Registration} (known : released ∈ now.registrations)
    (member : registration ∈ now.registrations) :
    (registration.afterRelease released.id).numbered? =
      registration.numbered?.filter fun entry =>
        !(registration.name == released.name && entry.1 == released.id) := by
  by_cases same : registration.id = released.id
  · obtain rfl := tallied.eq_of_id member known same
    cases live : registration.live <;>
      simp [Registration.afterRelease, Registration.numbered?, Registration.ended, live,
        Option.filter_some]
  · cases live : registration.live <;>
      simp [Registration.afterRelease, Registration.numbered?, live, same, Option.filter_some]

/-- A release ends the registration with its number, and takes its handler away if that is still
in force. -/
theorem Tallied.release (tallied : now.Tallied) (id : Nat) : (now.release id).Tallied := by
  unfold Serving.release
  split
  next => exact tallied
  next found known =>
      have listed : found ∈ now.registrations := List.mem_of_find?_eq_some known
      obtain rfl : found.id = id := by simpa using List.find?_some known
      refine ⟨fun name => ?_, ?_, fun registration member => ?_, ?_⟩
      · change (now.console.client.handlers.filter _).lookup name = _
        rw [Client.lookup_removed _ _ tallied.names, tallied.table name, inForce?, inForce?,
          latest?, latest?, List.find?_map]
        simp only [Function.comp_def, Registration.afterRelease_name]
        cases latest : now.registrations.find? fun registration => registration.name == name with
        | none => rfl
        | some registration =>
            obtain rfl : registration.name = name := by simpa using List.find?_some latest
            exact (tallied.numbered?_afterRelease listed (List.mem_of_find?_eq_some latest)).symm
      · exact tallied.names.sublist ((List.filter_sublist ..).map _)
      · obtain ⟨earlier, known, rfl⟩ := List.mem_map.mp member
        rw [Registration.afterRelease_id]
        exact tallied.numbered earlier known
      · rw [List.map_map, List.map_congr_left fun registration _ =>
          registration.afterRelease_id found.id]
        exact tallied.distinct

/-- The handlers there are at first count as registered before. -/
theorem begin_tallied {console : Console} (names : (console.client.handlers.map Prod.fst).Nodup)
    (ids : (console.client.handlers.map fun entry => entry.2.1).Nodup)
    (numbered : ∀ entry ∈ console.client.handlers, entry.2.1 < console.client.nextId) :
    (begin console).Tallied where
  table name := by
    have listed (entries : List (String × Nat × Handler)) : entries.lookup name =
        ((entries.map fun entry => (⟨entry.1, entry.2.1, entry.2.2, true⟩ : Registration)).find?
          fun registration => registration.name == name).bind Registration.numbered? := by
      induction entries with
      | nil => rfl
      | cons entry entries inductionHypothesis =>
          obtain ⟨known, id, handler⟩ := entry
          by_cases same : name = known
          · simp [same, Registration.numbered?]
          · simp [List.lookup_cons, beq_eq_false_iff_ne.mpr same, Ne.symm same,
              inductionHypothesis]
    exact listed console.client.handlers
  names := names
  numbered registration member := by
    obtain ⟨entry, known, rfl⟩ := List.mem_map.mp member
    exact numbered entry known
  distinct := by
    rw [begin, List.map_map]
    exact ids

end

end Serving

namespace Console

/-! ### The console at the beginning -/

/-- The handlers of a console that is set up. -/
theorem furnished_handlers (parts : ConsoleParts) :
    (furnished parts).client.handlers =
      [("updateWorkspace", 1, .refreshWorkspace), ("clearconsole", 2, .clearTerminal),
        ("cursorpos", 3, .reportCursor)] ++
        if parts.showsLint then [("staticLint", 4, .showLint), ("clearLint", 5, .clearLint)]
        else [] := by
  rw [furnished_eq]
  cases parts.showsLint <;> rfl

section

variable {parts : ConsoleParts} {start : Console}

/-- Setting a console up registers no handlers but those it serves in any case. -/
theorem activated_handlers (activated : activate? parts = some start) :
    start.client.handlers = (furnished parts).client.handlers ∧
      (furnished parts).client.nextId ≤ start.client.nextId := by
  have grown : (furnished parts).client.nextId ≤ (wired parts).client.nextId :=
    Nat.le_add_right _ 2
  rw [activate?_undergoAll activated]
  unfold openingEvents
  split
  next => exact ⟨rfl, grown⟩
  next =>
      have upkept := wired_upkept parts
      have restores : ∀ name label sends reply,
          ConsoleEvent.shell (.restores activationTicket parts.persisted) ≠
            .serves name label sends reply := by
        intro name label sends reply same
        cases same
      exact ⟨upkept.handlers_step restores,
        Nat.le_trans grown (upkept.nextId_step (.shell (.restores activationTicket _)))⟩

end

end Console

namespace Serving

section

variable {parts : ConsoleParts} {start : Console} {now : Serving} {dealing : Dealing}

/-- What holds at every moment in the course of an activated console: everything is as it should
be, and the handlers are the ones in force. -/
structure Kept (parts : ConsoleParts) (now : Serving) : Prop where
  upkept : ∃ shells, Upkept parts shells now.console
  tallied : now.Tallied

theorem activated_kept (activated : activate? parts = some start) : Kept parts (begin start) := by
  obtain ⟨handlers, nextId⟩ := activated_handlers activated
  have next : (furnished parts).client.nextId = if parts.showsLint then 6 else 4 := by
    rw [furnished_eq]
    cases parts.showsLint <;> rfl
  rw [furnished_handlers] at handlers
  rw [next] at nextId
  refine ⟨⟨_, activated_upkept activated⟩, begin_tallied ?_ ?_ ?_⟩
  · rw [handlers]
    cases parts.showsLint <;> decide
  · rw [handlers]
    cases parts.showsLint <;> decide
  · rw [handlers]
    cases shows : parts.showsLint with
    | false => simp [shows] at nextId ⊢; omega
    | true => simp [shows] at nextId ⊢; omega

/-- What happens without a registration happens to the console alone. -/
theorem apply_happens {event : ConsoleEvent}
    (noRegistration : ∀ name label sends reply, event ≠ .serves name label sends reply) :
    now.apply (.happens event) = { now with console := now.console.undergo event } := by
  cases event with
  | serves name label sends reply => exact absurd rfl (noRegistration name label sends reply)
  | _ => rfl

theorem release_upkept {shells : List Nat} (upkept : Upkept parts shells now.console) (id : Nat) :
    Upkept parts shells (now.release id).console := by
  unfold Serving.release
  split
  · exact upkept
  · exact upkept.release_handler _ id

theorem Kept.step (kept : Kept parts now) (dealing : Dealing) : Kept parts (now.apply dealing) := by
  obtain ⟨⟨shells, upkept⟩, tallied⟩ := kept
  cases dealing with
  | releases id => exact ⟨⟨shells, release_upkept upkept id⟩, tallied.release id⟩
  | happens event =>
      by_cases registration : ∃ name label sends reply, event = .serves name label sends reply
      · obtain ⟨name, label, sends, reply, rfl⟩ := registration
        exact ⟨⟨_, upkept.step (.serves name label sends reply)⟩, tallied.register name _⟩
      · have noRegistration : ∀ name label sends reply,
            event ≠ .serves name label sends reply :=
          fun name label sends reply same => registration ⟨name, label, sends, reply, same⟩
        rw [apply_happens noRegistration]
        exact ⟨⟨_, upkept.step event⟩,
          tallied.of_console (upkept.handlers_step noRegistration) (upkept.nextId_step event)⟩

theorem Kept.run (kept : Kept parts now) (dealings : List Dealing) :
    Kept parts (now.run dealings) := by
  induction dealings generalizing now with
  | nil => exact kept
  | cons dealing dealings inductionHypothesis => exact inductionHypothesis (kept.step dealing)

/-! ### Handlers that leave the client alone -/

/-- No handler that was ever registered says anything of its own. -/
def Passive (now : Serving) : Prop :=
  ∀ registration ∈ now.registrations, handlerSays registration.handler = []

theorem activated_passive (activated : activate? parts = some start) : (begin start).Passive := by
  intro registration member
  obtain ⟨entry, known, rfl⟩ := List.mem_map.mp member
  rw [(activated_handlers activated).1, furnished_handlers] at known
  cases shows : parts.showsLint <;> simp [shows] at known <;>
    rcases known with rfl | rfl | rfl | rfl | rfl <;> rfl

theorem Passive.step (passive : now.Passive) (leaves : dealing.isPassive = true) :
    (now.apply dealing).Passive := by
  cases dealing with
  | releases id =>
      change (now.release id).Passive
      unfold Serving.release
      split
      · exact passive
      · intro registration member
        obtain ⟨earlier, known, rfl⟩ := List.mem_map.mp member
        rw [Registration.afterRelease_handler]
        exact passive earlier known
  | happens event =>
      cases event with
      | serves name label sends reply =>
          obtain rfl : sends = none := Option.isNone_iff_eq_none.mp leaves
          intro registration member
          rcases List.mem_cons.mp member with rfl | earlier
          · rfl
          · exact passive registration earlier
      | _ => exact passive

theorem Passive.run (passive : now.Passive) {dealings : List Dealing}
    (leaves : ∀ dealing ∈ dealings, dealing.isPassive = true) : (now.run dealings).Passive := by
  induction dealings generalizing now with
  | nil => exact passive
  | cons dealing dealings inductionHypothesis =>
      exact inductionHypothesis (passive.step (leaves dealing List.mem_cons_self))
        fun later member => leaves later (List.mem_cons_of_mem _ member)

/-! ### Requests -/

/-- A request is handled by the handler in force, if there is one. -/
theorem Tallied.dispatch_eq (tallied : now.Tallied) (name : String) (args : List Json) :
    now.console.dispatch name args = (now.inForce? name).elim
      (now.console, .error (.unknownHandler name)) fun entry => now.console.handle args entry.2 := by
  unfold dispatch Client.handler?
  rw [tallied.table name]
  cases now.inForce? name <;> rfl

theorem Tallied.dispatch_result (tallied : now.Tallied) (name : String) (args : List Json) :
    (now.console.dispatch name args).2 = now.result name args := by
  rw [tallied.dispatch_eq, result]
  cases now.inForce? name <;> rfl

theorem Tallied.dispatch_guestRuns (tallied : now.Tallied) (name : String) (args : List Json) :
    (now.console.dispatch name args).1.guestRuns =
      now.console.guestRuns ++ now.guestRun name args := by
  rw [tallied.dispatch_eq, guestRun]
  cases now.inForce? name with
  | none => exact (List.append_nil _).symm
  | some entry => exact now.console.handle_guestRuns args entry.2

theorem inForce?_handler {name : String} {entry : Nat × Handler}
    (known : now.inForce? name = some entry) :
    ∃ registration ∈ now.registrations, registration.handler = entry.2 := by
  obtain ⟨registration, latest, same⟩ := Option.bind_eq_some_iff.mp known
  exact ⟨registration, List.mem_of_find?_eq_some latest,
    congrArg Prod.snd (Registration.numbered?_eq_some same).2⟩

/-- Nothing is said before a request is answered. -/
theorem Tallied.requestSays (tallied : now.Tallied) (passive : now.Passive) (name : String) :
    now.console.requestSays name = [] := by
  unfold Console.requestSays Client.handler?
  rw [tallied.table name]
  cases known : now.inForce? name with
  | none => rfl
  | some entry =>
      obtain ⟨registration, member, same⟩ := inForce?_handler known
      have silent := passive registration member
      rwa [same] at silent

/-- What an exchange comes to on the channels: a call is answered, and nothing else is said. -/
theorem Tallied.exchange_speech (tallied : now.Tallied) (passive : now.Passive)
    (exchange : dealing.isExchange = true) :
    Says (now.reply dealing) now.console (now.apply dealing).console := by
  cases dealing with
  | releases id =>
      change Says [] now.console (now.release id).console
      unfold Serving.release
      split
      · exact .refl _
      · exact .of_changes (now.console.release_handler_changes _ id) (by decide)
  | happens event =>
      cases event with
      | serves name label sends reply =>
          exact .of_changes (now.console.handleRequests_changes name _) (by decide)
      | event happening =>
          cases happening with
          | frame frame =>
              have said := now.console.handleFrame_speech frame
              cases frame with
              | message name args =>
                  rw [frameSays, tallied.requestSays passive] at said
                  exact said
              | call id name args =>
                  rw [frameSays, tallied.requestSays passive, tallied.dispatch_result] at said
                  exact said
              | response id value => exact said
              | error id message => exact said
          | _ => cases exchange
      | _ => cases exchange

/-- What an exchange gives code of the embedding program to handle. -/
theorem Tallied.exchange_guestRuns (tallied : now.Tallied) (exchange : dealing.isExchange = true) :
    (now.apply dealing).console.guestRuns = now.console.guestRuns ++ now.guestRunsIn dealing := by
  cases dealing with
  | releases id =>
      change (now.release id).console.guestRuns = now.console.guestRuns ++ []
      rw [List.append_nil]
      unfold Serving.release
      split
      · rfl
      · exact guestRuns_of_changes (now.console.release_handler_changes _ id) (by decide)
  | happens event =>
      cases event with
      | serves name label sends reply => exact (List.append_nil _).symm
      | event happening =>
          cases happening with
          | frame frame =>
              cases frame with
              | message name args => exact tallied.dispatch_guestRuns name args
              | call id name args =>
                  exact (sendFrame_guestRuns _ _).trans (tallied.dispatch_guestRuns name args)
              | response id value =>
                  exact (guestRuns_of_changes (now.console.complete_changes id _)
                    (by decide)).trans (List.append_nil _).symm
              | error id message =>
                  exact (guestRuns_of_changes (now.console.complete_changes id _)
                    (by decide)).trans (List.append_nil _).symm
          | _ => cases exchange
      | _ => cases exchange

theorem Kept.exchanges_speech (kept : Kept parts now) (passive : now.Passive)
    {exchanges : List Dealing} (exchange : ∀ dealing ∈ exchanges, dealing.isExchange = true)
    (leaves : ∀ dealing ∈ exchanges, dealing.isPassive = true) :
    Says (now.replies exchanges) now.console (now.run exchanges).console := by
  induction exchanges generalizing now with
  | nil => exact .refl _
  | cons dealing exchanges inductionHypothesis =>
      have first := kept.tallied.exchange_speech passive (exchange dealing List.mem_cons_self)
      exact first.trans (inductionHypothesis (kept.step dealing)
        (passive.step (leaves dealing List.mem_cons_self))
        (fun later member => exchange later (List.mem_cons_of_mem _ member))
        fun later member => leaves later (List.mem_cons_of_mem _ member))

theorem Kept.exchanges_guestRuns (kept : Kept parts now) {exchanges : List Dealing}
    (exchange : ∀ dealing ∈ exchanges, dealing.isExchange = true) :
    (now.run exchanges).console.guestRuns = now.console.guestRuns ++ now.guestRuns exchanges := by
  induction exchanges generalizing now with
  | nil => exact (List.append_nil _).symm
  | cons dealing exchanges inductionHypothesis =>
      have rest := inductionHypothesis (kept.step dealing)
        fun later member => exchange later (List.mem_cons_of_mem _ member)
      have first := kept.tallied.exchange_guestRuns (exchange dealing List.mem_cons_self)
      rw [first, List.append_assoc] at rest
      exact rest

theorem replyFrame_answered (id : Nat) (result : Except Failure Json) :
    (replyFrame id result).answered? = some id := by
  cases result <;> rfl

/-- A reply carries the number of its call, and only calls get one. -/
theorem reply_answered (now : Serving) (dealing : Dealing) :
    (now.reply dealing).map Frame.answered? = dealing.call?.toList.map some := by
  unfold reply Dealing.call?
  split
  next id name args => exact congrArg (fun answered => [answered]) (replyFrame_answered id _)
  next => rfl

theorem replies_answered (now : Serving) (dealings : List Dealing) :
    (now.replies dealings).map Frame.answered? = (dealings.filterMap Dealing.call?).map some := by
  induction dealings generalizing now with
  | nil => rfl
  | cons dealing dealings inductionHypothesis =>
      have rest := inductionHypothesis (now.apply dealing)
      rw [replies, noted, List.map_append, reply_answered, ← replies, rest, ← List.map_append]
      congr 1
      rw [List.filterMap_cons]
      cases dealing.call? <;> rfl

/-- Nothing is taken away by the release of a registration that is in force no more. -/
theorem Tallied.release_idle (tallied : now.Tallied) {registration : Registration}
    (member : registration ∈ now.registrations)
    (idle : registration.live = false ∨ now.latest? registration.name ≠ some registration) :
    (now.release registration.id).console.client.handlers = now.console.client.handlers := by
  unfold Serving.release
  split
  next => rfl
  next found known =>
      obtain rfl : found = registration :=
        tallied.eq_of_id (List.mem_of_find?_eq_some known) member
          (by simpa using List.find?_some known)
      refine List.filter_eq_self.mpr fun entry listed => ?_
      by_contra taken
      obtain ⟨named, numbered⟩ : entry.1 = found.name ∧ entry.2.1 = found.id := by
        simpa using taken
      -- The handler that would be taken away is in force, so its registration is the latest.
      have inForce : now.inForce? found.name = some entry.2 := by
        rw [← tallied.table, ← named]
        exact Client.lookup_of_mem tallied.names listed
      obtain ⟨latest, known, same⟩ := Option.bind_eq_some_iff.mp inForce
      obtain ⟨live, same⟩ := Registration.numbered?_eq_some same
      obtain rfl := tallied.eq_of_id (List.mem_of_find?_eq_some known) member
        ((congrArg Prod.fst same).trans numbered)
      rcases idle with ended | replaced
      · exact absurd live (by simp [ended])
      · exact replaced known

end

end Serving

/-- What has come of requests, registrations and releases on a console. -/
structure RequestService (before after : Serving) (exchanges : List Dealing) : Prop where
  /-- The handler for a name is the one registered last, if that has not been released, and there
  is none otherwise. -/
  handlers : ∀ name, after.console.client.handler? name = (after.inForce? name).map Prod.snd
  /-- It is the one that runs. -/
  dispatched : ∀ name args, after.console.dispatch name args = (after.inForce? name).elim
    (after.console, .error (.unknownHandler name)) fun entry => after.console.handle args entry.2
  /-- Over the channel that is heard, if there is one, the runtime was told what was due to it for
  each call, in the order of the calls, and nothing else; over the others it was told nothing. -/
  answered : ∀ channel, after.console.said channel =
    before.console.said channel ++
      if before.console.hears channel then before.replies exchanges else []
  /-- This is a frame for each call, with the number of the call. -/
  calls : (before.replies exchanges).map Frame.answered? =
    (exchanges.filterMap Dealing.call?).map some
  /-- Of the code of the embedding program ran what was in force at the time of each request. -/
  ran : after.console.guestRuns = before.console.guestRuns ++ before.guestRuns exchanges
  /-- The release of a registration that has been replaced or released takes no handler away. -/
  idle : ∀ registration ∈ after.registrations,
    registration.live = false ∨ after.latest? registration.name ≠ some registration →
      (after.release registration.id).console.client.handlers = after.console.client.handlers
  /-- Whatever failed, the connection is the one there was, and it is heard as before. -/
  connection : after.console.client.connection = before.console.client.connection
  heard : ∀ channel, after.console.hears channel = before.console.hears channel

/-- Whatever has happened to an activated console and whatever has been registered and released
before: frames of the runtime are served by the latest registrations, with handlers that do not use
the client themselves. -/
theorem requests_served (parts : ConsoleParts) (start : Console) (past exchanges : List Dealing)
    (activated : activate? parts = some start)
    (exchange : ∀ dealing ∈ exchanges, dealing.isExchange = true)
    (passive : ∀ dealing ∈ past ++ exchanges, dealing.isPassive = true) :
    RequestService ((Serving.begin start).run past)
      ((Serving.begin start).run (past ++ exchanges)) exchanges := by
  have kept := (Serving.activated_kept activated).run past
  have silent := (Serving.activated_passive activated).run
    fun dealing member => passive dealing (List.mem_append_left _ member)
  have reached : (Serving.begin start).run (past ++ exchanges) =
      ((Serving.begin start).run past).run exchanges := List.foldl_append
  rw [reached]
  generalize (Serving.begin start).run past = before at kept silent
  have tallied := (kept.run exchanges).tallied
  have speech := kept.exchanges_speech silent exchange
    fun dealing member => passive dealing (List.mem_append_right _ member)
  exact {
    handlers := fun name => by rw [Client.handler?, tallied.table name]
    dispatched := fun name args => tallied.dispatch_eq name args
    answered := speech.said
    calls := before.replies_answered exchanges
    ran := kept.exchanges_guestRuns exchange
    idle := fun registration member idle => tallied.release_idle member idle
    connection := speech.connection
    heard := speech.hears }

/-- A console that shows lint messages, without anything that starts the runtime. -/
def lintedParts : ConsoleParts := ⟨.standard "sh", Host.permissive, none, true, []⟩

/-- Two registrations for a name are released, the replaced one first and once more at the end.
The calls before, between and after are answered by the second registration, with what they bring,
and then by none, and failures leave the connection alone. -/
theorem requests_served_replaced :
    let start := wired lintedParts
    let call (id : Nat) (name : String) : Dealing :=
      .happens (.event (.frame (.call id name [.int 7])))
    let past : List Dealing := [.happens (.serves "note" (.int 1) none fun _ => .ok .null),
      .happens (.serves "note" (.int 2) none fun args => .ok (.arr args)),
      .happens (.event (.connect ⟨.fresh .none, none, false⟩))]
    let exchanges : List Dealing := [call 9 "note", .releases 8, call 10 "note",
      .happens (.event (.frame (.message "note" []))), .releases 9, call 11 "note",
      .happens (.serves "fails" (.int 3) none fun _ => .error (.stream "broken")), .releases 8,
      call 12 "fails", .happens (.event (.frame (.response 12 .null)))]
    activate? lintedParts = some start ∧
      (∀ dealing ∈ exchanges, dealing.isExchange = true) ∧
      (∀ dealing ∈ past ++ exchanges, dealing.isPassive = true) ∧
      RequestService ((Serving.begin start).run past)
        ((Serving.begin start).run (past ++ exchanges)) exchanges ∧
      ((Serving.begin start).run past).console.hears 0 = true ∧
      ((Serving.begin start).run past).replies exchanges = [.response 9 (.arr [.int 7]),
        .response 10 (.arr [.int 7]), .error 11 (Failure.unknownHandler "note").message,
        .error 12 (Failure.stream "broken").message] := by
  intro start call past exchanges
  have activated : activate? lintedParts = some start := rfl
  have exchange : ∀ dealing ∈ exchanges, dealing.isExchange = true := by decide
  have passive : ∀ dealing ∈ past ++ exchanges, dealing.isPassive = true := by decide
  exact ⟨activated, exchange, passive,
    requests_served lintedParts start past exchanges activated exchange passive,
    by decide +kernel, by decide +kernel⟩

end RuntimeConsole
