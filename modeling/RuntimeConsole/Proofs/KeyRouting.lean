/-
Module: RuntimeConsole.Proofs.KeyRouting
Purpose: Where key events go over whole runs: to the editor, to a process, or into a request for
  a start, by the settings in force and the streams attached when they occur.
Main exports:
  Console.settingsGiven, KeyRouting, key_routing
-/
import RuntimeConsole.Proofs.ConsoleUpkeep

namespace RuntimeConsole

/-- A keystroke is on a list of keystrokes in whatever case. -/
theorem AllowList.contains_ofList (keystrokes : List String) (keystroke : String) :
    (AllowList.ofList keystrokes).contains keystroke =
      (keystrokes.map AllowList.lowerString).contains (AllowList.lowerString keystroke) := by
  rw [Bool.eq_iff_iff]
  simp [AllowList.contains, AllowList.ofList]

/-- The settings that are put in force in an event. -/
def ConsoleEvent.settings? : ConsoleEvent → Option Settings
  | .event (.configure settings) => some settings
  | _ => none

namespace Console

/-- The settings that were put in force last in a run, or before it. -/
def settingsGiven (settings : Settings) (events : List ConsoleEvent) : Settings :=
  ((events.filterMap ConsoleEvent.settings?).getLast?).getD settings

variable {console : Console} {parts : ConsoleParts} {shells : List Nat}

/-! ### The filters -/

theorem ListsAttuned.admits_eq (attuned : console.ListsAttuned) (kind : TerminalClass) (key : KeyEvent) :
    console.admits key (some (.lists kind)) = !console.reserves kind key := by
  change ((console.allowLists.get kind).verdict key.keystroke == .pass) = _
  rw [attuned.lists kind, AllowList.verdict, AllowList.contains_ofList, reserves]
  split
  next listed => rw [listed]; rfl
  next passed => rw [Bool.not_eq_true] at passed; rw [passed]; rfl

theorem Upkept.keyFilter (upkept : Upkept parts shells console) :
    console.terminal.keyFilter = some (.lists .repl) :=
  (congrArg Prod.fst upkept.enrolled.keyboard).trans
    (congrArg Prod.fst (furnished_look parts .keyboard (by decide)))

theorem reserves_iff (kind : TerminalClass) (key : KeyEvent) :
    console.reserves kind key = true ↔ AllowList.lowerString key.keystroke ∈
      (console.settings.current.keystrokes kind).map AllowList.lowerString := by
  rw [reserves, List.contains_iff_mem]

/-! ### One key -/

/-- What becomes of a key in a terminal whose filter reserves it or not. -/
theorem pressKeyIn_outcome (console : Console) (terminal : Terminal) (key : KeyEvent) :
    ((console.pressKeyIn terminal key).2 = .forwarded ↔
        console.admits key terminal.keyFilter = false) ∧
      ((console.pressKeyIn terminal key).2 = .startRequested ↔
        console.admits key terminal.keyFilter = true ∧ key.key = .enter ∧
          terminal.stream = none ∧ terminal.startHandler ≠ none) := by
  unfold pressKeyIn
  cases admitted : console.admits key terminal.keyFilter with
  | false => simp
  | true =>
      rw [if_pos rfl]
      cases attached : terminal.stream with
      | some stream =>
          dsimp only
          split <;> simp
      | none =>
          by_cases enter : key.key = .enter
          · dsimp only
            rw [if_pos enter]
            cases terminal.startHandler with
            | none => simp [requestStart, enter]
            | some handler => cases handler <;> simp [requestStart, enter]
          · simp [enter]

/-- Nothing comes of a key that is left to the editor. -/
theorem pressKeyIn_forwarded {terminal : Terminal} {key : KeyEvent}
    (refused : console.admits key terminal.keyFilter = false) :
    console.pressKeyIn terminal key = (console, .forwarded) := by
  unfold pressKeyIn
  rw [if_neg (by simp [refused])]

/-- A key reaches nobody but a process, unless it asks for a start. -/
theorem pressKeyIn_reach {terminal : Terminal} {key : KeyEvent}
    (other : (console.pressKeyIn terminal key).2 ≠ .startRequested) :
    Changes [.streams] console (console.pressKeyIn terminal key).1 := by
  unfold pressKeyIn at other ⊢
  split at other
  next admitted =>
      rw [if_pos admitted]
      cases attached : terminal.stream with
      | some stream =>
          have written := console.onStream_changes stream fun stream => stream.write key.bytes
          dsimp only
          split
          next result => rw [result] at written; exact written
          next result => rw [result] at written; exact written
      | none =>
          rw [attached] at other
          dsimp only at other ⊢
          split at other
          next enter =>
              rw [if_pos enter]
              cases asked : terminal.startHandler with
              | none => exact .refl _ console
              | some handler =>
                  rw [asked] at other
                  cases handler <;> exact absurd rfl other
          next unasked =>
              rw [if_neg unasked]
              exact .refl _ console
  next refused =>
      rw [if_neg refused]
      exact .refl _ console

/-- A start that is requested in the terminal of the runtime is asked of the session. -/
theorem pressKey_requested (steady : console.terminal.startHandler = some .session)
    {key : KeyEvent} (requested : (console.pressKey key).2 = .startRequested) :
    (console.pressKey key).1 = console.start.1 := by
  obtain ⟨admitted, enter, unattached, -⟩ :=
    (pressKeyIn_outcome console console.terminal key).2.mp requested
  exact pressKey_asked (by simp [asksSession, admitted, enter, unattached, steady])

/-! ### What is typed -/

theorem keyTyped_eq (attuned : console.ListsAttuned) (kind : TerminalClass) (attached : Option Nat)
    (key : KeyEvent) (id : Nat) :
    console.keyTyped kind attached key id =
      (if console.admits key (some (.lists kind)) then console.offered attached key.bytes
        else untyped) id := by
  rw [attuned.admits_eq, keyTyped]
  cases console.reserves kind key <;> rfl

/-- What the filters of the terminals let through is what the settings in force do not
reserve. -/
theorem Upkept.typedTo_eq (upkept : Upkept parts shells console) (event : ConsoleEvent)
    (id : Nat) : typedTo id console event = console.enteredIn event id := by
  cases event with
  | event event =>
      cases event with
      | press key =>
          change console.keyTyped .repl console.terminal.stream key id = _
          rw [keyTyped_eq upkept.attuned, ← upkept.keyFilter]
          rfl
      | _ => rfl
  | pressIn terminal key =>
      change (console.registry.get? terminal).elim [] _ =
        ((console.registry.get? terminal).elim untyped _) id
      cases found : console.registry.get? terminal with
      | none => rfl
      | some aux =>
          have guarded := (upkept.housed.lodged aux (List.mem_of_find?_eq_some found)).1.guarded
          dsimp only [Option.elim_some]
          rw [keyTyped_eq upkept.attuned, ← guarded.keys]
  | _ => rfl

/-- A shell that has been started has not been written to. -/
theorem Proceeds.inputOf_eq {before after : Console} (proceeds : Proceeds before after) (id : Nat) :
    inputOf after.streams id = inputOf before.streams id := by
  have houses := proceeds.houses
  rcases Nat.lt_or_ge id before.streams.length with inside | behind
  · have same := List.prefix_iff_getElem?.mp houses.streams id inside
    rw [inputOf, same, inputOf, List.getElem?_eq_getElem inside]
  · rw [inputOf, inputOf, List.getElem?_eq_none behind]
    cases found : after.streams[id]? with
    | none => rfl
    | some stream => exact (houses.others id stream behind found).1

/-- In every event a process receives what the user enters for it. -/
theorem Upkept.inputOf_step (upkept : Upkept parts shells console) (event : ConsoleEvent)
    (id : Nat) :
    inputOf (console.undergo event).streams id =
      inputOf console.streams id ++ typedTo id console event := by
  have followers := upkept.settled.holdsFollowers
  rw [upkept.typedTo_eq event id]
  cases consoleMove_undergo followers upkept.housed event with
  | spares spares _ => exact spares.ages.input id
  | proceeds ready _ streams proceeds _ _ quiet =>
      rw [proceeds.inputOf_eq, streams, quiet, untyped, List.append_nil]
  | configures settings asked =>
      subst asked
      have streams : (console.undergo (.event (.configure settings))).streams = console.streams :=
        (console.updateSettings_changes settings).same .streams (by decide)
      rw [streams]
      exact (List.append_nil _).symm
  | tends _ ages _ _ quiet =>
      rw [quiet]
      exact ages.input id
  | serves name label sends reply asked =>
      subst asked
      exact (List.append_nil _).symm

theorem Upkept.inputOf_run (upkept : Upkept parts shells console) (events : List ConsoleEvent)
    (id : Nat) :
    inputOf (console.undergoAll events).streams id =
      inputOf console.streams id ++ console.recorded (typedTo id) events := by
  induction events using List.reverseRecOn with
  | nil => exact (List.append_nil _).symm
  | append_singleton events event inductionHypothesis =>
      rw [undergoAll_concat, recorded_concat, (upkept.run events).inputOf_step,
        inductionHypothesis, List.append_assoc]

/-- Nothing has been written to the shells there are when a console has been activated. -/
theorem activated_unwritten {start : Console} (activated : activate? parts = some start)
    (id : Nat) : inputOf start.streams id = [] := by
  have run := (wired_upkept parts).inputOf_run ((openingEvents parts).map .shell) id
  rw [← activate?_undergoAll activated, wired_streams] at run
  rw [run]
  unfold openingEvents
  split <;> rfl

/-! ### The settings in force -/

theorem Upkept.settings_step (upkept : Upkept parts shells console) (event : ConsoleEvent) :
    (console.undergo event).settings.current =
      event.settings?.getD console.settings.current := by
  have followers := upkept.settled.holdsFollowers
  have apart {aspects : List Aspect} (step : Changes aspects console (console.undergo event))
      (outside : Aspect.settings ∉ aspects) :
      (console.undergo event).settings.current = console.settings.current :=
    congrArg Store.current (step.same .settings outside)
  have unset : (∀ settings, event ≠ .event (.configure settings)) → event.settings? = none := by
    intro others
    unfold ConsoleEvent.settings?
    split
    next settings => exact absurd rfl (others settings)
    next => rfl
  by_cases configured : ∃ settings, event = .event (.configure settings)
  · obtain ⟨settings, rfl⟩ := configured
    exact (upkept.attuned.updateSettings upkept.follows settings).2
  · rw [unset fun settings same => configured ⟨settings, same⟩, Option.getD_none]
    cases consoleMove_undergo followers upkept.housed event with
    | spares spares _ => exact spares.current
    | proceeds ready taken _ _ step _ _ =>
        exact (congrArg Store.current (step.same .settings (by decide))).trans taken.current
    | configures settings asked => exact absurd ⟨settings, asked⟩ configured
    | tends step _ _ _ _ => exact apart step (by decide)
    | serves name label sends reply asked =>
        subst asked
        exact apart (console.handleRequests_changes name _) (by decide)

theorem Upkept.settings_run (upkept : Upkept parts shells console) (events : List ConsoleEvent) :
    (console.undergoAll events).settings.current =
      settingsGiven console.settings.current events := by
  induction events using List.reverseRecOn with
  | nil => rfl
  | append_singleton events event inductionHypothesis =>
      rw [undergoAll_concat, (upkept.run events).settings_step, inductionHypothesis, settingsGiven,
        settingsGiven, List.filterMap_append]
      cases given : event.settings? with
      | none => simp [given]
      | some settings => simp [given]

theorem activated_settings {start : Console} (activated : activate? parts = some start) :
    start.settings.current = parts.settings := by
  have run := (wired_upkept parts).settings_run ((openingEvents parts).map .shell)
  have wired : (Console.wired parts).settings.current = parts.settings :=
    congrArg Store.current (furnished_look parts .settings (by decide))
  rw [← activate?_undergoAll activated, wired] at run
  rw [run]
  unfold openingEvents
  split <;> rfl

end Console

open Console

/-- Where keys go after a run of an activated console. -/
structure KeyRouting (parts : ConsoleParts) (start : Console) (events : List ConsoleEvent) :
    Prop where
  /-- The settings in force are those that were given last. -/
  settings : (start.undergoAll events).settings.current = settingsGiven parts.settings events
  /-- A key in the terminal of the runtime is left to the editor if and only if its keystroke is
  on the list of the settings in force, in whatever case. -/
  forwarded : ∀ key : KeyEvent, ((start.undergoAll events).pressKey key).2 = .forwarded ↔
    AllowList.lowerString key.keystroke ∈
      ((settingsGiven parts.settings events).keystrokes .repl).map AllowList.lowerString
  /-- Nothing else comes of such a key. -/
  unchanged : ∀ key : KeyEvent, ((start.undergoAll events).pressKey key).2 = .forwarded →
    ((start.undergoAll events).pressKey key).1 = start.undergoAll events
  /-- A start is requested by each Enter that is not left to the editor while no stream is
  attached, and by no other key. -/
  requested : ∀ key : KeyEvent, ((start.undergoAll events).pressKey key).2 = .startRequested ↔
    AllowList.lowerString key.keystroke ∉
        ((settingsGiven parts.settings events).keystrokes .repl).map AllowList.lowerString ∧
      key.key = .enter ∧ (start.undergoAll events).terminal.stream = none
  /-- The session is asked for it. -/
  asked : ∀ key : KeyEvent, ((start.undergoAll events).pressKey key).2 = .startRequested →
    ((start.undergoAll events).pressKey key).1 = (start.undergoAll events).start.1
  /-- All other keys concern the streams of processes only. -/
  reach : ∀ key : KeyEvent, ((start.undergoAll events).pressKey key).2 ≠ .startRequested →
    Changes [.streams] (start.undergoAll events) ((start.undergoAll events).pressKey key).1
  /-- Every process has received, in order, what the user entered while its stream was attached
  and took it: of keys those that are not left to the editor. -/
  input : ∀ (id : Nat) (stream : ProcessStream),
    (start.undergoAll events).stream? id = some stream →
      stream.input = start.recorded (typedTo id) events
  /-- Keys in auxiliary terminals are left to the editor by the list for these; they request no
  start and concern streams only. -/
  auxiliary : ∀ aux ∈ (start.undergoAll events).registry.terminals, ∀ key : KeyEvent,
    ∃ after outcome,
      (start.undergoAll events).pressAuxiliaryKey aux.id key = some (after, outcome) ∧
      (outcome = .forwarded ↔ AllowList.lowerString key.keystroke ∈
        ((settingsGiven parts.settings events).keystrokes .auxiliary).map
          AllowList.lowerString) ∧
      (outcome = .forwarded → after = start.undergoAll events) ∧
      outcome ≠ .startRequested ∧ Changes [.streams] (start.undergoAll events) after

/-- Over every run of an activated console, keys go where the settings in force and the streams
attached at the time send them. -/
theorem key_routing (parts : ConsoleParts) (start : Console) (events : List ConsoleEvent)
    (activated : activate? parts = some start) : KeyRouting parts start events := by
  have upkept := upkept_reachable activated events
  have current : (start.undergoAll events).settings.current =
      settingsGiven parts.settings events := by
    rw [(activated_upkept activated).settings_run, activated_settings activated]
  have input (id : Nat) :
      inputOf (start.undergoAll events).streams id = start.recorded (typedTo id) events := by
    rw [(activated_upkept activated).inputOf_run, activated_unwritten activated, List.nil_append]
  have steady := upkept.settled.steady.startHandler
  have filter := upkept.keyFilter
  have admits (kind : TerminalClass) (key : KeyEvent) :
      (start.undergoAll events).admits key (some (.lists kind)) = false ↔
        AllowList.lowerString key.keystroke ∈
          ((settingsGiven parts.settings events).keystrokes kind).map AllowList.lowerString := by
    rw [upkept.attuned.admits_eq, Bool.not_eq_false', reserves_iff, current]
  exact {
    settings := current
    forwarded := fun key => by
      rw [← admits .repl, ← filter]
      exact (pressKeyIn_outcome _ _ key).1
    unchanged := fun key left =>
      congrArg Prod.fst (pressKeyIn_forwarded ((pressKeyIn_outcome _ _ key).1.mp left))
    requested := fun key => by
      rw [← admits .repl, ← filter, Bool.not_eq_false]
      refine (pressKeyIn_outcome _ _ key).2.trans ?_
      simp [steady]
    asked := fun key requested => pressKey_requested steady requested
    reach := fun key other => pressKeyIn_reach other
    input := fun id stream found => by
      rw [← input id, inputOf, show (start.undergoAll events).streams[id]? = some stream from found]
      rfl
    auxiliary := fun aux member key => by
      have guarded := (upkept.housed.lodged aux member).1.guarded
      have found := Registry.get?_of_mem upkept.housed.ids member
      obtain ⟨forwarded, requested⟩ := pressKeyIn_outcome (start.undergoAll events)
        aux.terminal key
      have never : ((start.undergoAll events).pressKeyIn aux.terminal key).2 ≠
          .startRequested := fun asked => (requested.mp asked).2.2.2 guarded.start
      refine ⟨_, _, by rw [pressAuxiliaryKey, found]; rfl, ?_, fun left => ?_, never,
        pressKeyIn_reach never⟩
      · rw [← admits .auxiliary, ← guarded.keys]
        exact forwarded
      · exact congrArg Prod.fst (pressKeyIn_forwarded (forwarded.mp left)) }

/-- A console without auxiliary terminals and without anything that starts the runtime. -/
def unequippedParts : ConsoleParts := ⟨.standard "sh", Host.permissive, none, false, []⟩

/-- A process is attached and ends; in between the list is replaced.  The same keystroke is left
to the editor before, and sent to the process after. -/
theorem key_routing_replaced :
    let start := wired unequippedParts
    let interrupt : KeyEvent := ⟨.char 'c', { Modifiers.released with ctrl := true }⟩
    let events := [ConsoleEvent.event (.press (.plain .enter)),
      .event (.connect ⟨.fresh .none, none, false⟩), .event (.press (.plain (.char 'a'))),
      .event (.press interrupt),
      .event (.configure { unequippedParts.settings with replKeystrokes := ["CTRL-X"] }),
      .event (.press interrupt), .event .disconnect, .event (.press (.plain (.char 'b')))]
    activate? unequippedParts = some start ∧ KeyRouting unequippedParts start events ∧
      (start.undergoAll events).streams.map ProcessStream.input = [[97, 3]] := by
  intro start interrupt events
  have activated : activate? unequippedParts = some start := rfl
  exact ⟨activated, key_routing unequippedParts start events activated, by decide +kernel⟩

end RuntimeConsole
