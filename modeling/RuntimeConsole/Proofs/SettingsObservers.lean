/-
Module: RuntimeConsole.Proofs.SettingsObservers
Purpose: Those who observe the settings of a console are told exactly the changes, and
  allow-lists that are bound to the settings follow them.
Main exports:
  Console.adjustAll_eq, Console.Binds, SettingsFollowed, settings_followed
-/
import RuntimeConsole.Console.SettingsEvent
import RuntimeConsole.Proofs.ConsoleUpkeep
import RuntimeConsole.Proofs.StoreHistory

namespace RuntimeConsole

namespace Console

/-! ### What is told to the observers of a console -/

theorem settingsListenerSees_settings (console : Console)
    (settings : Store Settings Json SettingsListener) (part : Json) (listener : SettingsListener) :
    { console with settings := settings }.settingsListenerSees part listener =
      { console.settingsListenerSees part listener with settings := settings } := by
  cases listener with
  | prompt =>
      cases part with
      | str prompt =>
          simp only [settingsListenerSees, send, sendFrame, sendOver]
          split
          next connection _ =>
              split
              next => rfl
              next => split <;> rfl
              next => rfl
          next => rfl
      | _ => rfl
  | keystrokes kind => rfl
  | guest label => rfl

/-- Whoever is told of the settings leaves them alone. -/
theorem foldl_hear_settings (console : Console) (settings : Store Settings Json SettingsListener)
    (log : List (Nat × SettingsListener × Json)) :
    log.foldl hear { console with settings := settings } =
      { log.foldl hear console with settings := settings } := by
  induction log generalizing console with
  | nil => rfl
  | cons told log inductionHypothesis =>
      rw [List.foldl_cons, List.foldl_cons, hear, settingsListenerSees_settings,
        inductionHypothesis]
      rfl

theorem updateSettings_eq (console : Console) (settings : Settings) :
    console.updateSettings settings =
      { (console.settings.notices settings).foldl hear console with
        settings := (console.settings.update settings).1 } := by
  change (console.settings.update settings).2.foldl
    (fun console notice => console.settingsListenerSees notice.2 notice.1)
    { console with settings := (console.settings.update settings).1 } = _
  rw [← Store.notices_map_snd, List.foldl_map]
  exact foldl_hear_settings ..

theorem adjust_eq (console : Console) (event : SettingsEvent) :
    console.adjust event =
      { (console.settings.tells event).foldl hear console with
        settings := console.settings.apply event } := by
  cases event with
  | update settings => exact console.updateSettings_eq settings
  | modify change => exact console.updateSettings_eq (change console.settings.current)
  | observe select listener => rfl
  | release key => rfl

/-- Over a history, the observers of a console are told what the log of its settings says, in
that order, and nothing else happens. -/
theorem adjustAll_eq (console : Console) (events : List SettingsEvent) :
    console.adjustAll events =
      { (console.settings.log events).foldl hear console with
        settings := console.settings.run events } := by
  induction events generalizing console with
  | nil => rfl
  | cons event events inductionHypothesis =>
      change (console.adjust event).adjustAll events = _
      rw [inductionHypothesis, adjust_eq, foldl_hear_settings, Store.log, List.foldl_append]
      rfl

/-! ### Allow-lists that are bound to the settings -/

theorem KeystrokesTold.ofValue (settings : Settings) : KeystrokesTold (.ofValue settings) :=
  nofun

theorem KeystrokesTold.apply {store : Store Settings Json SettingsListener}
    (told : KeystrokesTold store) {event : SettingsEvent} (faithful : event.Faithful) :
    KeystrokesTold (store.apply event) := by
  cases event with
  | update settings => exact told.update settings
  | modify change => exact told.update (change store.current)
  | observe select listener =>
      intro observer member kind listens
      rcases List.mem_append.mp member with old | new
      · exact told observer old kind listens
      · obtain rfl := List.mem_singleton.mp new
        obtain rfl : listener = .keystrokes kind := listens
        have honest := faithful select kind rfl
        exact ⟨honest, congrFun honest _⟩
  | release key =>
      exact fun observer member => told observer (List.mem_filter.mp member).1

theorem KeystrokesTold.run {store : Store Settings Json SettingsListener}
    (told : KeystrokesTold store) {events : List SettingsEvent}
    (faithful : ∀ event ∈ events, event.Faithful) : KeystrokesTold (store.run events) := by
  induction events generalizing store with
  | nil => exact told
  | cons event events inductionHypothesis =>
      exact inductionHypothesis (told.apply (faithful event (by simp)))
        fun other member => faithful other (by simp [member])

/-- The allow-list of a kind is kept up to date by the observer with a key. -/
structure Binds (kind : TerminalClass) (key : Nat) (console : Console) : Prop where
  told : KeystrokesTold console.settings
  bound : ∃ observer ∈ console.settings.observers,
    observer.key = key ∧ observer.listener = .keystrokes kind
  list : console.allowLists.get kind = .ofList (console.settings.current.keystrokes kind)

section

variable {console : Console} {kind : TerminalClass} {key : Nat}

theorem adjust_settings (console : Console) (event : SettingsEvent) :
    (console.adjust event).settings = console.settings.apply event := by
  rw [adjust_eq]

theorem adjustAll_settings (console : Console) (events : List SettingsEvent) :
    (console.adjustAll events).settings = console.settings.run events := by
  rw [adjustAll_eq]

/-- A binding is an observer that puts what the settings say there. -/
theorem bindAllowList_faithful (kind : TerminalClass) :
    SettingsEvent.Faithful (.observe (fun settings => stringsToJson (settings.keystrokes kind))
      (.keystrokes kind)) :=
  fun _ _ same => by
    cases same
    rfl

/-- A binding begins with the list the settings say. -/
theorem bindAllowList_binds (told : KeystrokesTold console.settings) (kind : TerminalClass) :
    Binds kind console.settings.nextKey (console.bindAllowList kind).1 where
  told := told.apply (bindAllowList_faithful kind)
  bound := ⟨_, List.mem_append_right _ (List.mem_singleton_self _), rfl, rfl⟩
  list := by
    change (console.allowLists.replace kind (.ofList _)).get kind = _
    rw [AllowLists.get_replace, if_pos rfl, Json.strings_stringsToJson]
    rfl

/-- Nothing but its own release ends a binding. -/
theorem Binds.adjust (binds : Binds kind key console) {event : SettingsEvent}
    (faithful : event.Faithful) (held : event ≠ .release key) :
    Binds kind key (console.adjust event) where
  told := by
    rw [adjust_settings]
    exact binds.told.apply faithful
  bound := by
    rw [adjust_settings]
    obtain ⟨observer, known, same, listens⟩ := binds.bound
    cases event with
    | update settings | modify change =>
        exact ⟨observer.see _, List.mem_map_of_mem known, by simpa using same,
          by simpa using listens⟩
    | observe select listener =>
        exact ⟨observer, List.mem_append_left _ known, same, listens⟩
    | release other =>
        refine ⟨observer, List.mem_filter.mpr ⟨known, ?_⟩, same, listens⟩
        simpa [same] using fun own => held (congrArg StoreEvent.release own.symm)
  list := by
    have kept : ∃ observer ∈ console.settings.observers, observer.listener = .keystrokes kind := by
      obtain ⟨observer, known, -, listens⟩ := binds.bound
      exact ⟨observer, known, listens⟩
    rw [adjust_settings]
    cases event with
    | update settings => exact updateSettings_list binds.told kept binds.list settings
    | modify change => exact updateSettings_list binds.told kept binds.list _
    | observe select listener =>
        by_cases own : listener = .keystrokes kind
        · subst own
          change (console.allowLists.replace kind (.ofList _)).get kind = _
          rw [AllowLists.get_replace, if_pos rfl, faithful select kind rfl,
            Json.strings_stringsToJson]
          rfl
        · exact (console.settingsListenerSees_lists _ own).trans binds.list
    | release other => exact binds.list

theorem Binds.adjustAll (binds : Binds kind key console) {events : List SettingsEvent}
    (faithful : ∀ event ∈ events, event.Faithful) (held : .release key ∉ events) :
    Binds kind key (console.adjustAll events) := by
  induction events generalizing console with
  | nil => exact binds
  | cons event events inductionHypothesis =>
      exact inductionHypothesis
        (binds.adjust (faithful event (by simp)) fun same => held (by simp [same]))
        (fun other member => faithful other (by simp [member]))
        (fun member => held (by simp [member]))

/-- The key of the observer that keeps the list of a kind up to date, when both are bound. -/
def bindingKey (console : Console) : TerminalClass → Nat
  | .repl => console.settings.nextKey
  | .auxiliary => (console.bindAllowList .repl).1.settings.nextKey

/-- The subscriptions are those of the two observers, and each of these keeps its list. -/
theorem bindAllowLists_releases (console : Console) :
    console.bindAllowLists.2 = [.settingsObserver (console.bindingKey .repl),
      .settingsObserver (console.bindingKey .auxiliary)] := rfl

theorem bindAllowLists_binds (told : KeystrokesTold console.settings) (kind : TerminalClass) :
    Binds kind (console.bindingKey kind) console.bindAllowLists.1 := by
  have first := bindAllowList_binds told .repl
  cases kind with
  | repl => exact first.adjust (bindAllowList_faithful .auxiliary) nofun
  | auxiliary => exact bindAllowList_binds first.told .auxiliary

end

end Console

/-- Those who observe settings, and the allow-lists that are bound to them. -/
structure SettingsFollowed : Prop where
  /-- Observers are told exactly the changes, whatever they observe. -/
  told : ∀ {Value Part Listener : Type} [BEq Part] (value : Value)
    (before : List (StoreEvent Value Part Listener)) (select : Value → Part) (listener : Listener)
    (after : List (StoreEvent Value Part Listener)),
      ObserverTold value before select listener after
  /-- The observers of a console are told what the log of its settings says. -/
  heard : ∀ (console : Console) (events : List SettingsEvent),
    console.adjustAll events =
      { (console.settings.log events).foldl Console.hear console with
        settings := console.settings.run events }
  /-- From the moment both are bound, and until its own binding is released, an allow-list
  consists of the keystrokes in the settings, in lower case. -/
  lists : ∀ (console : Console) (settings : Settings) (before after : List SettingsEvent),
    console.settings = .ofValue settings →
    (∀ event ∈ before ++ after, SettingsEvent.Faithful event) →
    ∃ keys : TerminalClass → Nat,
      (console.adjustAll before).bindAllowLists.2 =
        [.settingsObserver (keys .repl), .settingsObserver (keys .auxiliary)] ∧
      ∀ kind, .release (keys kind) ∉ after →
        let now := (console.adjustAll before).bindAllowLists.1.adjustAll after
        (now.allowLists.get kind).keystrokes =
          ((now.settings.current.keystrokes kind).map AllowList.lowerString).eraseDups
  /-- The allow-lists of an activated console do so whatever happens to it. -/
  activated : ∀ (parts : ConsoleParts) (start : Console) (events : List ConsoleEvent),
    Console.activate? parts = some start →
    ∀ kind, ((start.undergoAll events).allowLists.get kind).keystrokes =
      (((start.undergoAll events).settings.current.keystrokes kind).map
        AllowList.lowerString).eraseDups

/-- Observers of the settings are told exactly the changes of what they observe, and allow-lists
that are bound to the settings are those in the settings. -/
theorem settings_followed : SettingsFollowed where
  told := Store.observerTold
  heard := Console.adjustAll_eq
  lists console settings before after fresh faithful := by
    have told : Console.KeystrokesTold (console.adjustAll before).settings := by
      rw [Console.adjustAll_settings, fresh]
      exact (Console.KeystrokesTold.ofValue settings).run fun event member =>
        faithful event (List.mem_append_left _ member)
    refine ⟨(console.adjustAll before).bindingKey, Console.bindAllowLists_releases _,
      fun kind held => congrArg AllowList.keystrokes ?_⟩
    exact ((Console.bindAllowLists_binds told kind).adjustAll
      (fun event member => faithful event (List.mem_append_right _ member)) held).list
  activated parts start events activated kind :=
    congrArg AllowList.keystrokes ((Console.upkept_reachable activated events).attuned.lists kind)

/-- The list of the runtime's terminal is replaced before the lists are bound and changed after
that, the binding of the other list is released and the other list changed: the first follows,
the second keeps what was there. -/
theorem settings_followed_changed :
    let settings := Settings.standard "sh"
    let console := Console.unwired Host.permissive settings (Console.runtimeTerminal settings)
    let before : List SettingsEvent := [.update { settings with replKeystrokes := ["CTRL-X"] }]
    let after : List SettingsEvent := [.modify fun settings =>
      { settings with replKeystrokes := settings.replKeystrokes ++ ["Ctrl-A", "ctrl-x"] },
      .release 1, .modify fun settings => { settings with auxiliaryKeystrokes := [] }]
    let now := (console.adjustAll before).bindAllowLists.1.adjustAll after
    (∃ keys : TerminalClass → Nat,
      (console.adjustAll before).bindAllowLists.2 =
        [.settingsObserver (keys .repl), .settingsObserver (keys .auxiliary)] ∧
      ∀ kind, .release (keys kind) ∉ after → (now.allowLists.get kind).keystrokes =
        ((now.settings.current.keystrokes kind).map AllowList.lowerString).eraseDups) ∧
      (now.allowLists.get .repl).keystrokes = ["ctrl-x", "ctrl-a"] ∧
      (now.allowLists.get .auxiliary).keystrokes = ["ctrl-shift-c", "ctrl-shift-v"] := by
  intro settings console before after now
  have faithful : ∀ event ∈ before ++ after, SettingsEvent.Faithful event := by
    rintro event member select kind rfl
    simp [before, after] at member
  exact ⟨settings_followed.lists console settings before after rfl faithful,
    by decide +kernel, by decide +kernel⟩

end RuntimeConsole
